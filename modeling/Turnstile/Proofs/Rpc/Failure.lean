import Turnstile.Proofs.Rpc.Gate

/-!
What a failed request leaves behind. A write that fails writes nothing, and a procedure that ends
with its only write leaves nothing of a failure in the store. Of the procedures only a registration
goes on after its write.
-/

namespace Turnstile

open Turnstile.Time

namespace Store

section Traces

variable {Failure Failure' α β : Type}

def FailsWithoutTrace (session : Session Failure α) : Prop :=
  ∀ now freshId memory failure,
    (session.run (Memory.respond now freshId) memory).1 = .error failure →
      (session.run (Memory.respond now freshId) memory).2 = memory

theorem Memory.respond_of_error {now : Instant} {freshId : Account.Id} {call : Call}
    {memory : Memory} {error : Error}
    (refused : (respond now freshId call memory).1 = .error error) :
    (respond now freshId call memory).2 = memory := by
  revert refused
  cases call with
  | create account =>
      simp only [respond, create]
      split
      · exact fun _ => rfl
      · intro created
        cases created
  | update account =>
      simp only [respond, update]
      split
      · exact fun _ => rfl
      · split
        · intro updated
          cases updated
        · exact fun _ => rfl
  | _ => exact fun _ => rfl

theorem failsWithoutTrace_of_reads {session : Session Failure α}
    (reads : session.Asks Call.IsRead) : FailsWithoutTrace session :=
  fun now freshId memory _ _ => Memory.run_of_reads now freshId reads memory

theorem failsWithoutTrace_request (call : Call) (explain : Error → Failure) :
    FailsWithoutTrace (request call explain) := by
  intro now freshId memory failure failed
  rw [run_request] at failed ⊢
  cases answer : (Memory.respond now freshId call memory).1 with
  | ok result =>
      rw [answer] at failed
      cases failed
  | error error => exact Memory.respond_of_error answer

theorem FailsWithoutTrace.map {session : Session Failure α} (traceless : FailsWithoutTrace session)
    (transform : α → β) : FailsWithoutTrace (transform <$> session) := by
  intro now freshId memory failure failed
  rw [Dialogue.run_map] at failed ⊢
  cases ended : (session.run (Memory.respond now freshId) memory).1 with
  | ok value =>
      rw [ended] at failed
      cases failed
  | error failure => exact traceless now freshId memory failure ended

theorem FailsWithoutTrace.mapFailure {session : Session Failure α}
    (traceless : FailsWithoutTrace session) (rename : Failure → Failure') :
    FailsWithoutTrace (session.mapFailure rename) := by
  intro now freshId memory failure failed
  rw [Dialogue.run_mapFailure] at failed ⊢
  cases ended : (session.run (Memory.respond now freshId) memory).1 with
  | ok value =>
      rw [ended] at failed
      cases failed
  | error failure => exact traceless now freshId memory failure ended

theorem FailsWithoutTrace.after_reads {session : Session Failure α}
    {next : α → Session Failure β} (reads : session.Asks Call.IsRead)
    (traceless : ∀ value, FailsWithoutTrace (next value)) :
    FailsWithoutTrace (session >>= next) := by
  intro now freshId memory failure failed
  have unchanged := Memory.run_of_reads now freshId reads memory
  rw [Dialogue.run_bind] at failed ⊢
  generalize session.run (Memory.respond now freshId) memory = run at unchanged failed
  rcases run with ⟨ended, after⟩
  obtain rfl : after = memory := unchanged
  cases ended with
  | ok value => exact traceless value now freshId after failure failed
  | error _ => rfl

end Traces

end Store

namespace Rpc

open Auth Store Wire

section Procedures

variable (issuer : Issuer) (moment : Moment)

theorem failsWithoutTrace_updateProfileHandler (caller : Option Caller)
    (query : UpdateProfileRequest) : FailsWithoutTrace (updateProfileHandler caller query) := by
  cases caller with
  | none => exact failsWithoutTrace_of_reads (asks_updateProfileHandler_none query)
  | some caller =>
      rw [updateProfileHandler_some]
      apply FailsWithoutTrace.after_reads
      · exact Dialogue.asks_ofExcept _
      · intro checked
        apply FailsWithoutTrace.after_reads
        · exact Dialogue.asks_ofExcept _
        · intro update
          exact (failsWithoutTrace_request (.update (update.apply caller.account))
            Auth.Error.ofStore).map fun account =>
              ({ user := some (User.ofAccount account) } : UpdateProfileResponse)

theorem failsWithoutTrace_exchange {Query Reply : Type} [Message Query] [Message Reply]
    {handler : Query → Session Auth.Error Reply}
    (traceless : ∀ query, FailsWithoutTrace (handler query)) (body : Bytes) :
    FailsWithoutTrace (exchange handler body) := by
  rw [exchange]
  split
  · exact failsWithoutTrace_of_reads trivial
  · rename_i query read
    exact ((traceless query).mapFailure _).map _

theorem failsWithoutTrace_call {procedure : Procedure} (other : procedure ≠ .register)
    (caller : Option Caller) (body : Bytes) :
    FailsWithoutTrace (procedure.call issuer moment caller body) := by
  cases procedure with
  | login =>
      exact failsWithoutTrace_of_reads (asks_exchange (asks_loginHandler issuer moment) body)
  | register => exact absurd rfl other
  | getProfile =>
      exact failsWithoutTrace_of_reads (asks_exchange (asks_getProfileHandler caller) body)
  | updateProfile =>
      exact failsWithoutTrace_exchange (failsWithoutTrace_updateProfileHandler caller) body

theorem asks_gate (path : String) (headers : List Header) :
    (gate issuer moment path headers).Asks Call.IsRead := by
  by_cases opened : IsPublicPath path
  · rw [gate_of_public opened]
    trivial
  · rw [gate_of_not_public opened]
    exact Dialogue.Asks.map _ (asks_authenticate ..)

theorem failsWithoutTrace_serve {request : Request}
    (other : request.path ≠ Procedure.register.path) :
    FailsWithoutTrace (serve issuer moment request) := by
  apply FailsWithoutTrace.after_reads
  · exact (asks_gate issuer moment request.path request.headers).mapFailure _
  · intro caller
    cases found : Procedure.ofPath? request.path with
    | none => exact failsWithoutTrace_of_reads trivial
    | some procedure =>
        apply failsWithoutTrace_call
        rintro rfl
        have same := List.find?_some found
        exact other (eq_of_beq same).symm

end Procedures

/-! A request for a registration, and the moment at which it comes. -/

def today : Moment :=
  { now := ⟨1700086400, 0, by decide⟩
    salt := some ⟨List.replicate 16 0, rfl⟩
    nonce := some ⟨List.replicate 24 0, rfl⟩ }

def applicant : RegisterRequest :=
  { name := "Ada", email := "ada@example.com", phoneNumber := "+2348000000001"
    password := "secret", confirmPassword := "secret" }

def application : Request :=
  { path := Procedure.register.path, headers := [], body := Message.encode applicant }

end Rpc

end Turnstile
