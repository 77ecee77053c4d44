import Turnstile.Proofs.Rpc.Login
import Turnstile.Proofs.Rpc.Visits

/-!
Once somebody has been registered, the account can be used. Whatever requests come in between, its
row still has the email, the status and the hash that it was created with. So the password opens
it, no other password does unless it has the same digest, and nobody else can register with the
email.
-/

namespace Turnstile

open Turnstile.Store Turnstile.Time

namespace Rpc

open Auth Wire

structure IsUsable (issuer : Issuer) (query : RegisterRequest) (salt : Password.Salt)
    (id : Account.Id) (memory : Memory) : Prop where
  /-- The email and the password are enough for a token of the account, if there can be one. -/
  admits : ∀ (visit : Visit) (login : LoginRequest), LogsIn visit.request login →
    login.email = query.email → login.password = query.password →
    visit.moment.nonce ≠ none → visit.moment.now.add? issuer.lifetime ≠ none →
      ∃ grant : Grant, grant.account.id = id ∧
        visit.served issuer memory = (loggedIn (.ok grant), memory)
  /-- A password that opens it has the digest of the first one. -/
  sameDigest : ∀ (visit : Visit) (login : LoginRequest) (response : Bytes),
    LogsIn visit.request login → login.email = query.email →
    (visit.served issuer memory).1 = .ok response →
      Password.digest Password.ownParameters salt.bytes login.password =
        Password.digest Password.ownParameters salt.bytes query.password
  refuses : ∀ (visit : Visit) (other : RegisterRequest), Applies visit.request other →
    other.email = query.email →
      visit.served issuer memory = (.error (.ofError .emailExists), memory)

structure HoldsFor (row : Row) (query : RegisterRequest) (salt : Password.Salt) : Prop where
  email : row.account.email = query.email
  status : row.account.status = .pendingActive
  passwordHash : row.passwordHash = Password.hash salt query.password

theorem HoldsFor.later {old new : Row} {query : RegisterRequest} {salt : Password.Salt}
    (holds : HoldsFor old query salt) (becomes : old.Becomes new) : HoldsFor new query salt :=
  ⟨becomes.email.trans holds.email, becomes.status.trans holds.status,
    becomes.passwordHash.trans holds.passwordHash⟩

section Rows

variable (issuer : Issuer) {memory : Memory} {row : Row} {query : RegisterRequest}
  {salt : Password.Salt} (unique : memory.IsUnique) (member : row ∈ memory.rows)
  (holds : HoldsFor row query salt) {login : LoginRequest}
  (sameEmail : login.email = query.email)
include unique member holds sameEmail

theorem HoldsFor.authenticate_eq (instant : Instant) (freshId : Account.Id) :
    Memory.respond instant freshId (.authenticate login.email) memory =
      (.ok { id := row.account.id, email := row.account.email
             passwordHash := row.passwordHash }, memory) := by
  rw [sameEmail, ← holds.email]
  exact congrArg (·, memory) (unique.emails.credentials_eq member)

variable {visit : Visit} (logsIn : LogsIn visit.request login)
include logsIn

theorem HoldsFor.served_of_match (valid : checkLogin login = .ok ())
    (fits : Password.compare row.passwordHash login.password = true) :
    visit.served issuer memory =
      (loggedIn (issuer.grant visit.moment row.account), memory) := by
  have known := holds.authenticate_eq unique member sameEmail visit.instant visit.freshId
  have opened := issuer.run_login_of_match visit.moment known fits
  have found : Memory.respond visit.instant visit.freshId (.findById row.account.id) memory =
      (.ok row.account, memory) := congrArg (·, memory) (unique.ids.find_eq member)
  have admitted : issuer.conclude visit.moment row.account = issuer.grant visit.moment row.account :=
    if_neg (by rw [holds.status]; decide)
  rw [Visit.served, run_serve_login issuer visit.moment _ memory logsIn, valid]
  dsimp only
  rw [opened, found]
  exact congrArg (fun granted => (loggedIn granted, memory)) admitted

theorem HoldsFor.compare_of_ok {response : Bytes}
    (succeeded : (visit.served issuer memory).1 = .ok response) :
    Password.compare row.passwordHash login.password = true := by
  by_contra differs
  have refused := issuer.run_login_of_mismatch visit.moment
    (holds.authenticate_eq unique member sameEmail visit.instant visit.freshId)
    (Bool.eq_false_iff.mpr differs)
  rw [Visit.served, run_serve_login issuer visit.moment _ memory logsIn] at succeeded
  cases checked : checkLogin login with
  | error error =>
      rw [checked] at succeeded
      cases succeeded
  | ok =>
      rw [checked] at succeeded
      dsimp only at succeeded
      rw [refused] at succeeded
      cases succeeded

end Rows

theorem HoldsFor.isUsable {memory : Memory} {row : Row} {query : RegisterRequest}
    {salt : Password.Salt} (holds : HoldsFor row query salt) (valid : checkRegister query = .ok ())
    (unique : memory.IsUnique) (member : row ∈ memory.rows) (issuer : Issuer) :
    IsUsable issuer query salt row.account.id memory where
  admits := by
    intro visit login logsIn sameEmail samePassword random representable
    have fits : Password.compare row.passwordHash login.password = true := by
      rw [holds.passwordHash, samePassword, Password.compare_hash]
      exact beq_self_eq_true _
    rcases Issuer.exists_grant (not_or.mpr ⟨representable, random⟩) row.account with
      ⟨grant, granted⟩
    have served := holds.served_of_match issuer unique member sameEmail logsIn
      (checkLogin_of_checkRegister valid sameEmail samePassword) fits
    rw [granted] at served
    exact ⟨grant, congrArg Account.id (Issuer.account_of_grant granted), served⟩
  sameDigest := by
    intro visit login response logsIn sameEmail succeeded
    have fits := holds.compare_of_ok issuer unique member sameEmail logsIn succeeded
    rw [holds.passwordHash, Password.compare_hash] at fits
    exact eq_of_beq fits
  refuses := by
    intro visit other applies sameEmail
    have taken : memory.HasEmail other.email := ⟨row, member, holds.email.trans sameEmail.symm⟩
    exact visit.served_of_conflict issuer applies
      (Memory.conflict?_of_hasEmail taken other.phoneNumber)

/-- After a registration has succeeded, whatever came before it and whatever comes after it. -/
theorem registration_stays_usable (issuer : Issuer) (before : List Visit) (visit : Visit)
    (query : RegisterRequest) (response : Bytes) (after : List Visit)
    (fresh : AllFresh issuer {} (before ++ visit :: after))
    (registers : visit.request.path = Procedure.register.path)
    (read : (Message.decode? visit.request.body : Option RegisterRequest) = some query)
    (succeeded : (visit.served issuer (afterVisits issuer {} before)).1 = .ok response) :
    ∃ grant salt, grant.account.id = visit.freshId ∧ visit.moment.salt = some salt ∧
      registered (.ok grant) = .ok response ∧
      IsUsable issuer query salt visit.freshId
        (afterVisits issuer {} (before ++ visit :: after)) := by
  rcases allFresh_append.mp fresh with ⟨freshBefore, freshVisit, freshAfter⟩
  rcases afterVisits_keeps Memory.isUnique_empty freshBefore with ⟨unique, -⟩
  rcases visit.keeps issuer unique freshVisit with ⟨kept, -⟩
  rcases afterVisits_keeps kept freshAfter with ⟨last, grows⟩
  rcases visit.served_of_registers issuer (afterVisits issuer {} before) registers with
    ⟨status, failed⟩ | ⟨query', salt, applies, salted, free, created⟩
  · rw [failed] at succeeded
    cases succeeded
  · obtain rfl : query' = query := Option.some.inj (applies.read.symm.trans read)
    rw [created] at succeeded last grows
    dsimp only at succeeded
    have holds : HoldsFor (visit.row query' salt) query' salt := ⟨rfl, rfl, rfl⟩
    rcases grows.exists_mem (List.mem_append_right _ (List.mem_singleton_self _)) with
      ⟨row, member, becomes⟩
    have usable := (holds.later becomes).isUsable applies.valid last member issuer
    rw [becomes.id] at usable
    cases granted : issuer.grant visit.moment (visit.row query' salt).account with
    | error error =>
        rw [granted] at succeeded
        cases succeeded
    | ok grant =>
        rw [granted] at succeeded
        refine ⟨grant, salt, congrArg Account.id (Issuer.account_of_grant granted), salted,
          succeeded, ?_⟩
        rw [afterVisits_append]
        show IsUsable _ _ _ _ (afterVisits issuer (visit.served issuer _).2 after)
        rw [created]
        exact usable

/-! Somebody registers, and then logs in. -/

def enrolment : Visit :=
  { request := application, moment := today, instant := today.now, freshId := default }

def firstLogin : Visit :=
  { request := loginAttempt, moment := today, instant := today.now, freshId := default }

theorem enrolment_succeeds :
    ∃ response, (enrolment.served bridge (afterVisits bridge {} [])).1 = .ok response := by
  have applies : Applies application applicant := ⟨rfl, by decide +kernel, rfl, rfl⟩
  have possible : ¬ (today.now.add? bridge.lifetime = none ∨ today.nonce = none) := by
    decide +kernel
  have served : enrolment.served bridge {} = _ := enrolment.served_of_free bridge applies rfl
  rcases Issuer.exists_grant possible
      (enrolment.row applicant ⟨List.replicate 16 0, rfl⟩).account with ⟨grant, granted⟩
  have responded : (enrolment.served bridge {}).1 = registered (.ok grant) := by
    rw [served, ← granted]
    rfl
  exact ⟨_, responded⟩

theorem enrolment_stays_usable :
    AllFresh bridge {} ([] ++ enrolment :: [firstLogin]) ∧
      ∃ response, (enrolment.served bridge (afterVisits bridge {} [])).1 = .ok response ∧
        ∃ grant salt, grant.account.id = enrolment.freshId ∧
          enrolment.moment.salt = some salt ∧ registered (.ok grant) = .ok response ∧
          IsUsable bridge applicant salt enrolment.freshId
            (afterVisits bridge {} ([] ++ enrolment :: [firstLogin])) := by
  have fresh : AllFresh bridge {} ([] ++ enrolment :: [firstLogin]) := by
    refine ⟨?_, ?_, trivial⟩
    · intro registers row member
      cases member
    · intro registers
      exact absurd registers (by decide)
  rcases enrolment_succeeds with ⟨response, succeeded⟩
  exact ⟨fresh, response, succeeded, registration_stays_usable bridge [] enrolment applicant
    response [firstLogin] fresh rfl (by decide +kernel) succeeded⟩

end Rpc

end Turnstile
