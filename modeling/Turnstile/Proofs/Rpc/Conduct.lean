import Turnstile.Proofs.Rpc.Concurrency
import Turnstile.Proofs.Rpc.Failure
import Turnstile.Proofs.Store.Respect

/-!
How a request behaves towards the store, whoever else is using it. Only a registration creates and
only a change of a profile updates. The update fits the row of the caller, since the account that
was loaded for it agrees with that row in everything that no request changes.
-/

namespace Turnstile

open Turnstile.Store Turnstile.Time

theorem Auth.Issuer.asks_register (issuer : Issuer) (moment : Moment)
    (registration : Registration) :
    (issuer.register moment registration).Asks fun call =>
      call.IsRead ∨ call.method = .create := by
  rw [register]
  split
  · trivial
  · apply Dialogue.Asks.bind
    · exact asks_request _ (.inl rfl)
    · intro vacant
      apply Dialogue.Asks.bind
      · exact Dialogue.asks_ofExcept _
      · intro passwordHash
        apply Dialogue.Asks.bind
        · exact asks_request _ (.inr rfl)
        · intro account
          exact Dialogue.asks_ofExcept _

namespace Rpc

open Auth Wire

section Calls

variable (issuer : Issuer) (moment : Moment)

theorem asks_registerHandler (query : RegisterRequest) :
    (registerHandler issuer moment query).Asks fun call =>
      call.IsRead ∨ call.method = .create := by
  apply Dialogue.Asks.bind
  · exact Dialogue.asks_ofExcept _
  · intro checked
    apply Dialogue.Asks.bind
    · exact issuer.asks_register moment (registrationOf query)
    · intro grant
      trivial

theorem asks_updateProfileHandler (caller : Option Caller) (query : UpdateProfileRequest) :
    (updateProfileHandler caller query).Asks fun call =>
      call.IsRead ∨ call.method = .update := by
  cases caller with
  | none => exact (asks_updateProfileHandler_none query).mono fun _ read => .inl read
  | some caller =>
      refine (asks_updateProfileHandler_some caller query).mono ?_
      rintro call (read | ⟨account, rfl, -⟩)
      · exact .inl read
      · exact .inr rfl

def MayAsk (path : String) (call : Call) : Prop :=
  call.IsRead ∨ (path = Procedure.register.path ∧ call.method = .create) ∨
    (path = Procedure.updateProfile.path ∧ call.method = .update)

theorem asks_call (procedure : Procedure) (caller : Option Caller) (body : Bytes) :
    (procedure.call issuer moment caller body).Asks (MayAsk procedure.path) := by
  cases procedure with
  | login =>
      refine Dialogue.Asks.mono ?_ (asks_exchange (asks_loginHandler issuer moment) body)
      exact fun _ read => .inl read
  | register =>
      refine Dialogue.Asks.mono ?_ (asks_exchange (asks_registerHandler issuer moment) body)
      rintro call (read | creates)
      · exact .inl read
      · exact .inr (.inl ⟨rfl, creates⟩)
  | getProfile =>
      refine Dialogue.Asks.mono ?_ (asks_exchange (asks_getProfileHandler caller) body)
      exact fun _ read => .inl read
  | updateProfile =>
      refine Dialogue.Asks.mono ?_ (asks_exchange (asks_updateProfileHandler caller) body)
      rintro call (read | updates)
      · exact .inl read
      · exact .inr (.inr ⟨rfl, updates⟩)

theorem asks_serve (request : Request) :
    (serve issuer moment request).Asks (MayAsk request.path) := by
  apply Dialogue.Asks.bind
  · refine Dialogue.Asks.mono ?_
      ((asks_gate issuer moment request.path request.headers).mapFailure _)
    exact fun _ read => .inl read
  · intro caller
    cases found : Procedure.ofPath? request.path with
    | none => trivial
    | some procedure =>
        have same := List.find?_some found
        have path : procedure.path = request.path := eq_of_beq same
        have asks := asks_call issuer moment procedure caller request.body
        rw [path] at asks
        exact asks

theorem MayAsk.method_ne_create {path : String} {call : Call} (may : MayAsk path call)
    (other : path ≠ Procedure.register.path) : call.method ≠ .create := by
  rcases may with read | ⟨registers, -⟩ | ⟨-, updates⟩
  · rintro creates
    cases call with
    | create account => cases read
    | _ => cases creates
  · exact absurd registers other
  · rw [updates]
    decide

theorem MayAsk.method_ne_update {path : String} {call : Call} (may : MayAsk path call)
    (other : path ≠ Procedure.updateProfile.path) : call.method ≠ .update := by
  rcases may with read | ⟨-, creates⟩ | ⟨updates, -⟩
  · rintro updates
    cases call with
    | update account => cases read
    | _ => cases updates
  · rw [creates]
    decide
  · exact absurd updates other

end Calls

/-! ## Changes of profiles -/

theorem exists_row_of_find {memory : Memory} {wanted : Account → Bool} {account : Account}
    (found : memory.find wanted = .ok account) : ∃ row ∈ memory.rows, row.account = account := by
  rw [Memory.find] at found
  split at found
  · rename_i row there
    cases found
    exact ⟨row, List.mem_of_find?_eq_some there, rfl⟩
  · cases found

theorem Submission.respectful_handled (submission : Submission) (issuer : Issuer)
    (caller : Caller) {memory : Memory} {row : Row} (member : row ∈ memory.rows)
    (loaded : row.account = caller.account) :
    Respectful (submission.handled issuer caller) memory := by
  by_cases named : ∃ update, Names submission.body update
  · rcases named with ⟨update, named⟩
    rw [handled_of_names named]
    intro later grows
    have fits : Call.Respects memory (.update (update.apply caller.account)) := by
      refine ⟨row, member, ?_⟩
      rw [← loaded]
      exact ⟨rfl, rfl, rfl, rfl, rfl⟩
    refine ⟨fits.later grows, fun now freshId => ?_⟩
    exact respectful_of_asks (Dialogue.asks_ofExcept _) _
  · rcases handled_of_not_names named issuer caller with ⟨status, -, failed⟩
    rw [failed]
    trivial

theorem Submission.respectful_session (submission : Submission) (issuer : Issuer)
    (memory : Memory) : Respectful (submission.session issuer) memory := by
  cases verified : verifiedClaims issuer.codec (some (metadataOfHeaders submission.headers))
      submission.moment.now with
  | error error =>
      rw [session_of_error verified]
      trivial
  | ok claims =>
      rw [session_of_ok verified]
      intro later _
      refine ⟨trivial, fun now freshId => ?_⟩
      show Respectful (submission.proceed issuer claims.expiresAt
        (later.find fun account => account.id == claims.subject)) later
      rw [proceed]
      split
      · rename_i caller admitted
        rcases exists_row_of_find (eq_ok_of_verdict admitted) with ⟨row, member, loaded⟩
        exact submission.respectful_handled issuer caller member loaded
      · trivial

theorem respectful_serve (issuer : Issuer) (moment : Moment) (request : Request)
    (memory : Memory) : Respectful (serve issuer moment request) memory := by
  by_cases updates : request.path = Procedure.updateProfile.path
  · rcases request with ⟨path, headers, body⟩
    subst updates
    exact Submission.respectful_session ⟨moment, headers, body⟩ issuer memory
  · refine respectful_of_asks ((asks_serve issuer moment request).mono ?_) memory
    exact fun _ may => may.method_ne_update updates

end Rpc

end Turnstile
