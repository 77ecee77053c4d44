import Turnstile.Proofs.Auth.Grant
import Turnstile.Proofs.Password.Hash
import Turnstile.Proofs.Store.Course

/-!
A registration with a store that answers as it likes. It asks once whether the email and the phone
number are free and then once for the account to be created, and whatever fails on the way is the
end of it. The token is for the account that the store returns, be it the one that it was asked to
create or not.
-/

namespace Turnstile.Auth

open Turnstile.Time Turnstile.Store Turnstile.Token Turnstile.Password

namespace Registration

def inquiry (registration : Registration) : Call :=
  .requireVacant registration.email registration.phoneNumber

/-- What the store is asked to create. Of the password there is only a hash in it: it is spelled
with the digest of the password, it reads as just that, and the password matches it. -/
structure Describes (registration : Registration) (now : Instant) (salt : Salt)
    (account : NewAccount) : Prop where
  name : account.name = registration.name
  email : account.email = registration.email
  phoneNumber : account.phoneNumber = registration.phoneNumber
  status : account.status = .pendingActive
  details : account.details = {}
  createdAt : account.createdAt = now
  updatedAt : account.updatedAt = now
  spelled : account.passwordHash =
    String.ofList (ownText salt (digest ownParameters salt.bytes registration.password)).toChars
  read : HashText.ofChars? account.passwordHash.toList =
    some (ownText salt (digest ownParameters salt.bytes registration.password))
  matched : Password.compare account.passwordHash registration.password = true

section Accounts

variable (registration : Registration) {moment : Moment} {now : Instant} {salt : Salt}

theorem describes_newAccount :
    registration.Describes now salt
      (registration.newAccount now (hash salt registration.password)) where
  name := rfl
  email := rfl
  phoneNumber := rfl
  status := rfl
  details := rfl
  createdAt := rfl
  updatedAt := rfl
  spelled := hash_eq salt registration.password
  read := by
    show HashText.ofChars? (hash salt registration.password).toList = _
    rw [hash_eq, String.toList_ofList]
    exact HashText.ofChars?_toChars (isProper_ownText salt (length_digest ..))
  matched := (compare_hash ..).trans (beq_self_eq_true _)

variable {registration} in
theorem Describes.eq_newAccount {account : NewAccount}
    (describes : registration.Describes now salt account) :
    account = registration.newAccount now (hash salt registration.password) := by
  have spelled := describes.spelled.trans (hash_eq salt registration.password).symm
  rcases account with ⟨name, email, phoneNumber, passwordHash, status, details, created, updated⟩
  rw [newAccount, NewAccount.mk.injEq]
  exact ⟨describes.name, describes.email, describes.phoneNumber, spelled, describes.status,
    describes.details, describes.createdAt, describes.updatedAt⟩

theorem passwordHash_of_salt (salted : moment.salt = some salt) :
    registration.passwordHash moment = .ok (hash salt registration.password) := by
  rw [passwordHash, salted]

theorem passwordHash_of_saltless (saltless : moment.salt = none) :
    registration.passwordHash moment = .error .internal := by
  rw [passwordHash, saltless]

end Accounts

end Registration

section Courses

variable (issuer : Issuer) (moment : Moment) (registration : Registration) {State : Type}
  (responder : Dialogue.Responder Call.Answer State) (state : State)

structure Submits (between : State) (account : NewAccount) : Prop where
  confirmed : registration.password = registration.confirmPassword
  vacant : responder registration.inquiry state = (.ok (), between)
  described : ∃ salt, moment.salt = some salt ∧ registration.Describes moment.now salt account

/-- How a registration may go: what it comes to, how it leaves the store, and which calls it has
made. -/
inductive Registers : Except Error Grant → State → List Call → Prop where
  | unconfirmed (differs : registration.password ≠ registration.confirmPassword) :
      Registers (.error .passwordConfirmationMismatch) state []
  | refused {between : State} {error : Store.Error}
      (confirmed : registration.password = registration.confirmPassword)
      (answered : responder registration.inquiry state = (.error error, between)) :
      Registers (.error (.ofStore error)) between [registration.inquiry]
  | unhashed {between : State} (confirmed : registration.password = registration.confirmPassword)
      (vacant : responder registration.inquiry state = (.ok (), between))
      (saltless : moment.salt = none) :
      Registers (.error .internal) between [registration.inquiry]
  | uncreated {between after : State} {account : NewAccount} {error : Store.Error}
      (submits : Submits moment registration responder state between account)
      (answered : responder (.create account) between = (.error error, after)) :
      Registers (.error (.ofStore error)) after [registration.inquiry, .create account]
  | tokenless {between after : State} {account : NewAccount} {stored : Account}
      (submits : Submits moment registration responder state between account)
      (answered : responder (.create account) between = (.ok stored, after))
      (tokenless : moment.now.add? issuer.lifetime = none ∨ moment.nonce = none) :
      Registers (.error .internal) after [registration.inquiry, .create account]
  | registered {between after : State} {account : NewAccount} {stored : Account} {token : String}
      (submits : Submits moment registration responder state between account)
      (answered : responder (.create account) between = (.ok stored, after))
      (issued : issuer.codec.issue stored issuer.lifetime moment.now moment.nonce = .ok token)
      (vouches : issuer.Vouches moment.now stored token) :
      Registers (.ok { account := stored, token }) after [registration.inquiry, .create account]

variable {issuer moment registration responder state}

/-! ## Following the answers -/

theorem Submits.course {between after : State} {account : NewAccount}
    {result : Except Error Grant} {calls : List Call}
    (submits : Submits moment registration responder state between account)
    (course : Course responder between
      (request (.create account) .ofStore >>= fun stored => .ofExcept (issuer.grant moment stored))
      result after calls) :
    Course responder state (issuer.register moment registration) result after
      (registration.inquiry :: calls) := by
  rcases submits.described with ⟨salt, salted, describes⟩
  obtain rfl := describes.eq_newAccount
  rw [Issuer.register, if_neg (not_not.mpr submits.confirmed)]
  refine Course.granted submits.vacant ?_
  rw [registration.passwordHash_of_salt salted]
  exact course

theorem Submits.course_of_created {between after : State} {account : NewAccount}
    {stored : Account} (submits : Submits moment registration responder state between account)
    (answered : responder (.create account) between = (.ok stored, after)) :
    Course responder state (issuer.register moment registration) (issuer.grant moment stored) after
      [registration.inquiry, .create account] :=
  submits.course (.granted answered (.ofExcept _))

theorem Registers.course {result : Except Error Grant} {after : State} {calls : List Call}
    (registers : Registers issuer moment registration responder state result after calls) :
    Course responder state (issuer.register moment registration) result after calls := by
  cases registers with
  | unconfirmed differs =>
      rw [Issuer.register, if_pos differs]
      exact .fail _
  | refused confirmed answered =>
      rw [Issuer.register, if_neg (not_not.mpr confirmed)]
      exact .refused answered
  | unhashed confirmed vacant saltless =>
      rw [Issuer.register, if_neg (not_not.mpr confirmed)]
      refine Course.granted vacant ?_
      rw [registration.passwordHash_of_saltless saltless]
      exact .fail _
  | uncreated submits answered => exact submits.course (.refused answered)
  | @tokenless between after account stored submits answered tokenless =>
      rw [← Issuer.grant_of_tokenless tokenless stored]
      exact submits.course_of_created answered
  | @registered between after account stored token submits answered issued vouches =>
      have granted : issuer.grant moment stored = .ok { account := stored, token } := by
        rw [Issuer.grant, issued]
      rw [← granted]
      exact submits.course_of_created answered

variable (issuer moment registration responder state)

theorem exists_registers :
    ∃ result after calls,
      Registers issuer moment registration responder state result after calls := by
  by_cases confirmed : registration.password = registration.confirmPassword
  · rcases vacant : responder registration.inquiry state with ⟨_ | _, between⟩
    · exact ⟨_, _, _, .refused confirmed vacant⟩
    · cases salted : moment.salt with
      | none => exact ⟨_, _, _, .unhashed confirmed vacant salted⟩
      | some salt =>
          have submits : Submits moment registration responder state between _ :=
            ⟨confirmed, vacant, salt, salted, registration.describes_newAccount⟩
          rcases created : responder (.create _) between with ⟨_ | stored, after⟩
          · exact ⟨_, _, _, .uncreated submits created⟩
          · by_cases tokenless : moment.now.add? issuer.lifetime = none ∨ moment.nonce = none
            · exact ⟨_, _, _, .tokenless submits created tokenless⟩
            · rcases Issuer.exists_grant tokenless stored with ⟨granted, ok⟩
              exact ⟨_, _, _, .registered submits created (Issuer.issue_of_grant ok)
                (Issuer.vouches_of_grant ok)⟩
  · exact ⟨_, _, _, .unconfirmed confirmed⟩

/-- Whatever the store answers, a registration goes in exactly one of the ways that are described,
and what it comes to, how it leaves the store and which calls it has made is as described there. -/
theorem registers_call_by_call (result : Except Error Grant) (after : State) (calls : List Call) :
    Course responder state (issuer.register moment registration) result after calls ↔
      Registers issuer moment registration responder state result after calls := by
  constructor
  · intro course
    rcases exists_registers issuer moment registration responder state with
      ⟨result', after', calls', registers⟩
    rcases registers.course.unique course with ⟨rfl, rfl, rfl⟩
    exact registers
  · exact Registers.course

end Courses

end Turnstile.Auth
