import Turnstile.Proofs.Auth.Admission
import Turnstile.Proofs.Rpc.Effects
import Turnstile.Proofs.Rpc.Routing

/-!
The gate holds. Whatever the path, a request that is not for a method of the public service is
answered by the gate alone unless its caller is admitted, and what changes in the store is a new
row of a registration or the row of the caller.
-/

namespace Turnstile.Rpc

open Turnstile.Auth Turnstile.Store Turnstile.Time Turnstile.Token

def admission (issuer : Issuer) (moment : Moment) (headers : List Header) :
    Session Auth.Error Caller :=
  authenticate issuer.codec (some (metadataOfHeaders headers)) moment.now

theorem gate_of_public {path : String} (opened : IsPublicPath path) (issuer : Issuer)
    (moment : Moment) (headers : List Header) : gate issuer moment path headers = return none := by
  rw [gate, (policyOfPath_eq_public_iff path).mpr opened]
  rfl

theorem gate_of_not_public {path : String} (closed : ¬ IsPublicPath path) (issuer : Issuer)
    (moment : Moment) (headers : List Header) :
    gate issuer moment path headers = some <$> admission issuer moment headers := by
  rw [gate]
  cases policy : policies.policyOfPath path with
  | «public» => exact absurd ((policyOfPath_eq_public_iff path).mp policy) closed
  | requiresAuth => rfl

theorem isPublicPath_login : IsPublicPath Procedure.login.path :=
  ⟨"Login", by decide, by decide, rfl⟩

theorem isPublicPath_register : IsPublicPath Procedure.register.path :=
  ⟨"Register", by decide, by decide, rfl⟩

theorem serve_of_public (issuer : Issuer) (moment : Moment) {request : Request}
    {procedure : Procedure} (opened : IsPublicPath procedure.path)
    (path : request.path = procedure.path) :
    serve issuer moment request = procedure.call issuer moment none request.body := by
  rw [serve, path, gate_of_public opened, Procedure.ofPath?_path]
  rfl

/-- The answer of whoever it is that answers, signed. -/
def Producer.answer (producer : Producer) (issuer : Issuer) (moment : Moment)
    (caller : Option Caller) (body : Bytes) : Session (Producer × Status) (Producer × Bytes) :=
  match producer.procedure? with
  | none => .fail (producer, .unimplemented)
  | some procedure =>
      (fun reply => (producer, reply)) <$>
        (procedure.call issuer moment caller body).mapFailure fun status => (producer, status)

/-- The whole service, with the name of who answers under each answer. -/
def attributed (issuer : Issuer) (moment : Moment) (request : Request) :
    Session (Producer × Status) (Producer × Bytes) := do
  let caller ← (gate issuer moment request.path request.headers).mapFailure fun error =>
    (Producer.gate, Status.ofError error)
  (Producer.ofPath request.path).answer issuer moment caller request.body

theorem attributed_unsigned (issuer : Issuer) (moment : Moment) (request : Request) :
    (Prod.snd <$> attributed issuer moment request).mapFailure Prod.snd =
      serve issuer moment request := by
  rw [Dialogue.mapFailure_map, attributed, Dialogue.mapFailure_bind, map_bind, serve,
    Dialogue.mapFailure_mapFailure]
  congr 1
  funext caller
  rw [Producer.answer, Producer.procedure?_ofPath]
  cases Procedure.ofPath? request.path with
  | none => rfl
  | some procedure =>
      simp only [Dialogue.mapFailure_map, Dialogue.mapFailure_mapFailure, Functor.map_map]
      exact (id_map' _).trans (Dialogue.mapFailure_id _)

def signature : Except (Producer × Status) (Producer × Bytes) → Producer
  | .ok (producer, _) => producer
  | .error (producer, _) => producer

section Runs

variable {State : Type} (responder : Dialogue.Responder Call.Answer State) (state : State)
  (issuer : Issuer) (moment : Moment)

theorem Producer.signature_answer (producer : Producer) (caller : Option Caller) (body : Bytes) :
    signature ((producer.answer issuer moment caller body).run responder state).1 = producer := by
  rw [Producer.answer]
  cases producer.procedure? with
  | none => rfl
  | some procedure =>
      dsimp only
      rw [Dialogue.run_map, Dialogue.run_mapFailure]
      cases ((procedure.call issuer moment caller body).run responder state).1 with
      | ok reply => rfl
      | error status => rfl

theorem signature_of_public {request : Request} (opened : IsPublicPath request.path) :
    signature ((attributed issuer moment request).run responder state).1 =
      Producer.ofPath request.path := by
  rw [attributed, gate_of_public opened]
  exact Producer.signature_answer ..

theorem run_attributed_of_error {request : Request} (closed : ¬ IsPublicPath request.path)
    {error : Auth.Error} {after : State}
    (refused : (admission issuer moment request.headers).run responder state =
      (.error error, after)) :
    (attributed issuer moment request).run responder state =
      (.error (.gate, Status.ofError error), after) := by
  rw [attributed, gate_of_not_public closed, Dialogue.run_bind, Dialogue.run_mapFailure,
    Dialogue.run_map, refused]
  rfl

theorem run_attributed_of_ok {request : Request} (closed : ¬ IsPublicPath request.path)
    {caller : Caller} {after : State}
    (admitted : (admission issuer moment request.headers).run responder state =
      (.ok caller, after)) :
    (attributed issuer moment request).run responder state =
      ((Producer.ofPath request.path).answer issuer moment (some caller) request.body).run
        responder after := by
  rw [attributed, gate_of_not_public closed, Dialogue.run_bind, Dialogue.run_mapFailure,
    Dialogue.run_map, admitted]
  rfl

theorem run_serve (request : Request) :
    (serve issuer moment request).run responder state =
      ((((attributed issuer moment request).run responder state).1.map Prod.snd).mapError Prod.snd,
        ((attributed issuer moment request).run responder state).2) := by
  rw [← attributed_unsigned, Dialogue.run_mapFailure, Dialogue.run_map]

theorem run_serve_of_error {request : Request} (closed : ¬ IsPublicPath request.path)
    {error : Auth.Error} {after : State}
    (refused : (admission issuer moment request.headers).run responder state =
      (.error error, after)) :
    (serve issuer moment request).run responder state = (.error (.ofError error), after) := by
  rw [run_serve, run_attributed_of_error _ _ _ _ closed refused]
  rfl

end Runs

section Writes

variable (instant : Instant) (freshId : Account.Id) (memory : Memory) (issuer : Issuer)
  (moment : Moment)

theorem run_admission (headers : List Header) :
    ((admission issuer moment headers).run (Memory.respond instant freshId) memory).2 = memory :=
  Memory.run_of_reads instant freshId (asks_authenticate ..) memory

theorem admission_cases (headers : List Header) :
    (∃ caller, (admission issuer moment headers).run (Memory.respond instant freshId) memory =
        (.ok caller, memory)) ∨
      ∃ error, (admission issuer moment headers).run (Memory.respond instant freshId) memory =
        (.error error, memory) := by
  have unchanged := run_admission instant freshId memory issuer moment headers
  cases ended : ((admission issuer moment headers).run (Memory.respond instant freshId)
    memory).1 with
  | ok caller => exact .inl ⟨caller, Prod.ext ended unchanged⟩
  | error error => exact .inr ⟨error, Prod.ext ended unchanged⟩

theorem asks_answer {producer : Producer} {caller : Option Caller}
    (noRegistration : producer.procedure? ≠ some .register)
    (noUpdate : caller = none ∨ producer.procedure? ≠ some .updateProfile) (body : Bytes) :
    (producer.answer issuer moment caller body).Asks Call.IsRead := by
  rw [Producer.answer]
  cases found : producer.procedure? with
  | none => trivial
  | some procedure =>
      apply Dialogue.Asks.map
      apply Dialogue.Asks.mapFailure
      cases procedure with
      | login => exact asks_exchange (asks_loginHandler issuer moment) body
      | register => exact absurd found noRegistration
      | getProfile => exact asks_exchange (asks_getProfileHandler caller) body
      | updateProfile =>
          rcases noUpdate with rfl | noUpdate
          · exact asks_exchange asks_updateProfileHandler_none body
          · exact absurd found noUpdate

theorem asks_answer_updateProfile {producer : Producer}
    (update : producer.procedure? = some .updateProfile) (caller : Caller) (body : Bytes) :
    (producer.answer issuer moment (some caller) body).Asks (Call.Spares caller.account.id) := by
  rw [Producer.answer, update]
  apply Dialogue.Asks.map
  apply Dialogue.Asks.mapFailure
  exact asks_exchange (asks_updateProfileHandler_some caller) body

theorem changes_of_attributed {request : Request} {after : Memory}
    (run : ((attributed issuer moment request).run (Memory.respond instant freshId) memory).2 =
      after)
    (changed : after ≠ memory) :
    request.path = Procedure.register.path ∨
      request.path = Procedure.updateProfile.path ∧ ∃ caller claims,
        ((admission issuer moment request.headers).run (Memory.respond instant freshId)
          memory).1 = .ok caller ∧
        verifiedClaims issuer.codec (some (metadataOfHeaders request.headers)) moment.now =
          .ok claims ∧
        memory.ChangesOnly claims.subject after := by
  by_cases registration : (Producer.ofPath request.path).procedure? = some .register
  · exact .inl (Producer.path_of_procedure? registration)
  · right
    by_cases opened : IsPublicPath request.path
    · rw [attributed, gate_of_public opened] at run
      exact absurd (run.symm.trans (Memory.run_of_reads instant freshId
        (asks_answer issuer moment registration (.inl rfl) request.body) memory)) changed
    · rcases admission_cases instant freshId memory issuer moment request.headers with
        ⟨caller, admitted⟩ | ⟨error, refused⟩
      · rw [run_attributed_of_ok _ _ _ _ opened admitted] at run
        by_cases update : (Producer.ofPath request.path).procedure? = some .updateProfile
        · rcases id_of_admitted (congrArg Prod.fst admitted) with
            ⟨claims, verified, same⟩
          refine ⟨Producer.path_of_procedure? update, caller, claims, congrArg Prod.fst admitted,
            verified, ?_⟩
          rw [← run, ← same]
          exact Memory.run_of_updates instant freshId
            (asks_answer_updateProfile issuer moment update caller request.body) memory
        · exact absurd (run.symm.trans (Memory.run_of_reads instant freshId
            (asks_answer issuer moment registration (.inr update) request.body) memory)) changed
      · rw [run_attributed_of_error _ _ _ _ opened refused] at run
        exact absurd run.symm changed

theorem admitted_of_signature {request : Request} {producer : Producer}
    (signed : signature ((attributed issuer moment request).run (Memory.respond instant freshId)
      memory).1 = producer)
    (guarded : producer = .nobody ∨ ∃ name procedure, producer = .service name procedure ∧
      (name ≠ authService ∨ procedure = some .getProfile ∨ procedure = some .updateProfile)) :
    ∃ caller,
      (admission issuer moment request.headers).run (Memory.respond instant freshId) memory =
        (.ok caller, memory) := by
  by_cases opened : IsPublicPath request.path
  · rw [signature_of_public _ _ _ _ opened] at signed
    rcases Producer.ofPath_of_public opened with ⟨procedure, found⟩
    rcases guarded with rfl | ⟨name, procedure', rfl, guarded⟩
    · rw [found] at signed
      cases signed
    · have same := found.symm.trans signed
      cases same
      rcases guarded with other | rfl | rfl
      · exact absurd rfl other
      · exact absurd (Producer.service_of_ofPath found).left (by decide)
      · exact absurd (Producer.service_of_ofPath found).left (by decide)
  · rcases admission_cases instant freshId memory issuer moment request.headers with
      admitted | ⟨error, refused⟩
    · exact admitted
    · rw [run_attributed_of_error _ _ _ _ opened refused] at signed
      subst signed
      rcases guarded with gate | ⟨name, procedure, gate, -⟩
      · cases gate
      · cases gate

end Writes

/-- Nothing but the public service answers a caller who is not admitted; a refusal is the chain's
own, whatever the body; and only a registration or an admitted caller's change of its own profile
writes. -/
theorem serves_behind_the_gate (issuer : Issuer) (moment : Moment) (instant : Instant)
    (freshId : Account.Id) (memory : Memory) (path : String) (headers : List Header)
    (body : Bytes) :
    let request : Request := { path, headers, body }
    let admitted := (admission issuer moment headers).run (Memory.respond instant freshId) memory
    let answer := (attributed issuer moment request).run (Memory.respond instant freshId) memory
    let served := (serve issuer moment request).run (Memory.respond instant freshId) memory
    (Prod.snd <$> attributed issuer moment request).mapFailure Prod.snd =
        serve issuer moment request ∧
      (∀ producer, signature answer.1 = producer →
        (producer = .nobody ∨ ∃ name procedure, producer = .service name procedure ∧
          (name ≠ authService ∨ procedure = some .getProfile ∨
            procedure = some .updateProfile)) →
          ∃ caller, admitted = (.ok caller, memory)) ∧
      (¬ IsPublicPath path → ∀ error, admitted.1 = .error error →
        served = (.error (.ofError error), memory)) ∧
      (served.2 ≠ memory →
        path = "/bridge.v1.AuthService/Register" ∨
          path = "/bridge.v1.AccountService/UpdateProfile" ∧ ∃ caller claims,
            admitted.1 = .ok caller ∧
            verifiedClaims issuer.codec (some (metadataOfHeaders headers)) moment.now =
              .ok claims ∧
            memory.ChangesOnly claims.subject served.2) := by
  intro request admitted answer served
  refine ⟨attributed_unsigned issuer moment request, ?_, ?_, ?_⟩
  · intro producer signed guarded
    exact admitted_of_signature instant freshId memory issuer moment signed guarded
  · intro closed error refused
    have unchanged := run_admission instant freshId memory issuer moment headers
    have ended : admitted = (.error error, memory) := Prod.ext refused unchanged
    exact run_serve_of_error (Memory.respond instant freshId) memory issuer moment closed ended
  · intro changed
    have same := run_serve (Memory.respond instant freshId) memory issuer moment request
    have kept : answer.2 = served.2 := (congrArg Prod.snd same).symm
    exact changes_of_attributed instant freshId memory issuer moment kept changed

end Turnstile.Rpc
