import Turnstile.Proofs.Auth.Grant
import Turnstile.Proofs.Store.Course

/-!
A login with a store that answers as it likes. It asks for the credentials under the email and,
only if the password fits them, for the account that they belong to. What counts is that account as
it is found then: it must not be inactive, and the token is for it, whatever the credentials said.
-/

namespace Turnstile.Auth

open Turnstile.Store Turnstile.Token

section Courses

variable (issuer : Issuer) (moment : Moment) (email password : String) {State : Type}
  (responder : Dialogue.Responder Call.Answer State) (state : State)

/-- There are these credentials under the email, and the password fits them. -/
structure Recognizes (between : State) (credentials : Credentials) : Prop where
  known : responder (.authenticate email) state = (.ok credentials, between)
  fits : Password.compare credentials.passwordHash password = true

def Finds (after : State) (credentials : Credentials) (account : Account) : Prop :=
  ∃ between, Recognizes email password responder state between credentials ∧
    responder (.findById credentials.id) between = (.ok account, after)

def lookUps (credentials : Credentials) : List Call :=
  [.authenticate email, .findById credentials.id]

/-- How a login may go: what it comes to, how it leaves the store, and which calls it has made. -/
inductive Enters : Except Error Grant → State → List Call → Prop where
  | unknown {after : State} {error : Store.Error}
      (answered : responder (.authenticate email) state = (.error error, after)) :
      Enters (.error (.ofHiddenLookup error)) after [.authenticate email]
  | mismatched {after : State} {credentials : Credentials}
      (answered : responder (.authenticate email) state = (.ok credentials, after))
      (differs : Password.compare credentials.passwordHash password = false) :
      Enters (.error .unauthenticated) after [.authenticate email]
  | unfound {between after : State} {credentials : Credentials} {error : Store.Error}
      (recognized : Recognizes email password responder state between credentials)
      (answered : responder (.findById credentials.id) between = (.error error, after)) :
      Enters (.error (.ofHiddenLookup error)) after (lookUps email credentials)
  | inactive {after : State} {credentials : Credentials} {account : Account}
      (finds : Finds email password responder state after credentials account)
      (inactive : account.status = .inactive) :
      Enters (.error .inactiveAccount) after (lookUps email credentials)
  | tokenless {after : State} {credentials : Credentials} {account : Account}
      (finds : Finds email password responder state after credentials account)
      (active : account.status ≠ .inactive)
      (tokenless : moment.now.add? issuer.lifetime = none ∨ moment.nonce = none) :
      Enters (.error .internal) after (lookUps email credentials)
  | admitted {after : State} {credentials : Credentials} {account : Account} {token : String}
      (finds : Finds email password responder state after credentials account)
      (active : account.status ≠ .inactive)
      (issued : issuer.codec.issue account issuer.lifetime moment.now moment.nonce = .ok token)
      (vouches : issuer.Vouches moment.now account token) :
      Enters (.ok { account, token }) after (lookUps email credentials)

variable {issuer moment email password responder state}

/-! ## Following the answers -/

theorem Recognizes.course {between after : State} {credentials : Credentials}
    {result : Except Error Grant} {calls : List Call}
    (recognizes : Recognizes email password responder state between credentials)
    (course : Course responder between
      (request (.findById credentials.id) .ofHiddenLookup >>= fun account : Account =>
        if account.status = .inactive then .fail .inactiveAccount
        else .ofExcept (issuer.grant moment account)) result after calls) :
    Course responder state (issuer.login moment email password) result after
      (.authenticate email :: calls) := by
  refine Course.granted recognizes.known ?_
  rw [if_pos recognizes.fits]
  exact course

theorem Finds.course_of_inactive {after : State} {credentials : Credentials} {account : Account}
    (finds : Finds email password responder state after credentials account)
    (inactive : account.status = .inactive) :
    Course responder state (issuer.login moment email password) (.error .inactiveAccount) after
      (lookUps email credentials) := by
  rcases finds with ⟨between, recognizes, found⟩
  refine recognizes.course (Course.granted found ?_)
  rw [if_pos inactive]
  exact .fail _

theorem Finds.course_of_active {after : State} {credentials : Credentials} {account : Account}
    (finds : Finds email password responder state after credentials account)
    (active : account.status ≠ .inactive) :
    Course responder state (issuer.login moment email password) (issuer.grant moment account) after
      (lookUps email credentials) := by
  rcases finds with ⟨between, recognizes, found⟩
  refine recognizes.course (Course.granted found ?_)
  rw [if_neg active]
  exact .ofExcept _

theorem Finds.course_of_issued {after : State} {credentials : Credentials} {grant : Grant}
    (finds : Finds email password responder state after credentials grant.account)
    (active : grant.account.status ≠ .inactive)
    (issued : issuer.codec.issue grant.account issuer.lifetime moment.now moment.nonce =
      .ok grant.token) :
    Course responder state (issuer.login moment email password) (.ok grant) after
      (lookUps email credentials) := by
  have granted : issuer.grant moment grant.account = .ok grant := by
    rw [Issuer.grant, issued]
  rw [← granted]
  exact finds.course_of_active active

theorem Enters.course {result : Except Error Grant} {after : State} {calls : List Call}
    (enters : Enters issuer moment email password responder state result after calls) :
    Course responder state (issuer.login moment email password) result after calls := by
  cases enters with
  | unknown answered => exact .refused answered
  | mismatched answered differs =>
      refine Course.granted answered ?_
      rw [if_neg (Bool.not_eq_true _ ▸ differs)]
      exact .fail _
  | unfound recognized answered => exact recognized.course (.refused answered)
  | inactive finds inactive => exact finds.course_of_inactive inactive
  | @tokenless after credentials account finds active tokenless =>
      rw [← Issuer.grant_of_tokenless tokenless account]
      exact finds.course_of_active active
  | @admitted after credentials account token finds active issued vouches =>
      exact finds.course_of_issued active issued

theorem Finds.exists_enters {after : State} {credentials : Credentials} {account : Account}
    (finds : Finds email password responder state after credentials account)
    (active : account.status ≠ .inactive) :
    ∃ result, Enters issuer moment email password responder state result after
      (lookUps email credentials) := by
  by_cases tokenless : moment.now.add? issuer.lifetime = none ∨ moment.nonce = none
  · exact ⟨_, .tokenless finds active tokenless⟩
  · rcases Issuer.exists_grant tokenless account with ⟨granted, ok⟩
    exact ⟨_, .admitted finds active (Issuer.issue_of_grant ok) (Issuer.vouches_of_grant ok)⟩

variable (issuer moment email password responder state)

theorem exists_enters :
    ∃ result after calls,
      Enters issuer moment email password responder state result after calls := by
  rcases known : responder (.authenticate email) state with ⟨_ | credentials, between⟩
  · exact ⟨_, _, _, .unknown known⟩
  · cases fits : Password.compare credentials.passwordHash password with
    | false => exact ⟨_, _, _, .mismatched known fits⟩
    | true =>
        have recognizes : Recognizes email password responder state between credentials :=
          ⟨known, fits⟩
        rcases found : responder (.findById credentials.id) between with ⟨_ | account, after⟩
        · exact ⟨_, _, _, .unfound recognizes found⟩
        · have finds : Finds email password responder state after credentials account :=
            ⟨between, recognizes, found⟩
          by_cases inactive : account.status = .inactive
          · exact ⟨_, _, _, .inactive finds inactive⟩
          · rcases finds.exists_enters inactive with ⟨result, enters⟩
            exact ⟨result, _, _, enters⟩

theorem course_login_iff (result : Except Error Grant) (after : State) (calls : List Call) :
    Course responder state (issuer.login moment email password) result after calls ↔
      Enters issuer moment email password responder state result after calls := by
  constructor
  · intro course
    rcases exists_enters issuer moment email password responder state with
      ⟨result', after', calls', enters⟩
    rcases enters.course.unique course with ⟨rfl, rfl, rfl⟩
    exact enters
  · exact Enters.course

/-! ## What the ways have in common -/

section Ways

variable {issuer moment email password responder state} {after : State} {calls : List Call}

theorem Enters.finds_of_ok {grant : Grant}
    (enters : Enters issuer moment email password responder state (.ok grant) after calls) :
    ∃ credentials, Finds email password responder state after credentials grant.account ∧
      grant.account.status ≠ .inactive ∧
      issuer.codec.issue grant.account issuer.lifetime moment.now moment.nonce = .ok grant.token ∧
      issuer.Vouches moment.now grant.account grant.token := by
  cases enters with
  | admitted finds active issued vouches => exact ⟨_, finds, active, issued, vouches⟩

theorem Error.ofHiddenLookup_ne_inactiveAccount (error : Store.Error) :
    Error.ofHiddenLookup error ≠ .inactiveAccount := by
  cases error <;> exact nofun

theorem Finds.exists_recognizes {credentials : Credentials} {account : Account}
    (finds : Finds email password responder state after credentials account) :
    ∃ between known, Recognizes email password responder state between known ∧
      lookUps email credentials = lookUps email known := by
  rcases finds with ⟨between, recognizes, -⟩
  exact ⟨between, credentials, recognizes, rfl⟩

/-- That an account is inactive is told only to somebody who knows its password. -/
theorem Enters.recognizes_of_inactive {result : Except Error Grant}
    (enters : Enters issuer moment email password responder state result after calls)
    (told : result = .error .inactiveAccount) :
    ∃ between credentials, Recognizes email password responder state between credentials := by
  cases enters with
  | unknown answered =>
      exact absurd (Except.error.inj told) (Error.ofHiddenLookup_ne_inactiveAccount _)
  | mismatched answered differs => cases told
  | unfound recognized answered => exact ⟨_, _, recognized⟩
  | inactive finds inactive =>
      rcases finds.exists_recognizes with ⟨between, credentials, recognizes, -⟩
      exact ⟨between, credentials, recognizes⟩
  | tokenless finds active tokenless => cases told
  | admitted finds active issued vouches => cases told

theorem Enters.calls_eq {result : Except Error Grant}
    (enters : Enters issuer moment email password responder state result after calls) :
    calls = [.authenticate email] ∨ ∃ between credentials,
      Recognizes email password responder state between credentials ∧
        calls = lookUps email credentials := by
  cases enters with
  | unknown answered => exact .inl rfl
  | mismatched answered differs => exact .inl rfl
  | unfound recognized answered => exact .inr ⟨_, _, recognized, rfl⟩
  | inactive finds inactive => exact .inr finds.exists_recognizes
  | tokenless finds active tokenless => exact .inr finds.exists_recognizes
  | admitted finds active issued vouches => exact .inr finds.exists_recognizes

theorem Enters.isWrite_eq_false {result : Except Error Grant}
    (enters : Enters issuer moment email password responder state result after calls)
    {call : Call} (member : call ∈ calls) : call.isWrite = false := by
  rcases enters.calls_eq with rfl | ⟨between, credentials, -, rfl⟩
  · rw [List.mem_singleton.mp member]
    rfl
  · simp only [lookUps, List.mem_cons, List.not_mem_nil, or_false] at member
    rcases member with rfl | rfl
    · rfl
    · rfl

end Ways

/-- Whatever the store answers, somebody is let in exactly if the password fits the credentials
under the email, their account is found and not inactive, and a token can be issued for it; the
session is for that account, and its token is good until its lifetime has passed. -/
theorem logins_admit_exactly :
    let login := issuer.login moment email password
    (∀ grant after, login.run responder state = (.ok grant, after) ↔
      ∃ credentials, Finds email password responder state after credentials grant.account ∧
        grant.account.status ≠ .inactive ∧
        issuer.codec.issue grant.account issuer.lifetime moment.now moment.nonce =
          .ok grant.token) ∧
      (∀ grant after, login.run responder state = (.ok grant, after) →
        issuer.Vouches moment.now grant.account grant.token) ∧
      (∀ after, login.run responder state = (.error .inactiveAccount, after) →
        ∃ between credentials, Recognizes email password responder state between credentials) ∧
      (login.asked responder state = [.authenticate email] ∨ ∃ between credentials,
        Recognizes email password responder state between credentials ∧
          login.asked responder state = [.authenticate email, .findById credentials.id]) ∧
      (∀ call ∈ login.asked responder state, call.isWrite = false) ∧
      ∀ result after calls, Course responder state login result after calls ↔
        Enters issuer moment email password responder state result after calls := by
  intro login
  have entersOf : ∀ result after, login.run responder state = (result, after) →
      Enters issuer moment email password responder state result after
        (login.asked responder state) :=
    fun result after run => (course_login_iff ..).mp ⟨run, rfl⟩
  refine ⟨?_, ?_, ?_, (entersOf _ _ rfl).calls_eq,
    fun call member => (entersOf _ _ rfl).isWrite_eq_false member,
    course_login_iff issuer moment email password responder state⟩
  · intro grant after
    constructor
    · intro run
      rcases (entersOf _ _ run).finds_of_ok with ⟨credentials, finds, active, issued, -⟩
      exact ⟨credentials, finds, active, issued⟩
    · rintro ⟨credentials, finds, active, issued⟩
      exact (finds.course_of_issued active issued).run
  · intro grant after run
    rcases (entersOf _ _ run).finds_of_ok with ⟨-, -, -, -, vouches⟩
    exact vouches
  · intro after run
    exact (entersOf _ _ run).recognizes_of_inactive rfl

end Courses

end Turnstile.Auth
