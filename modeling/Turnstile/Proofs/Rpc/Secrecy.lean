import Turnstile.Proofs.Rpc.Concurrency
import Turnstile.Proofs.Rpc.Failure
import Turnstile.Store.Rehearsal

/-!
What a store says of its own troubles stays inside. The text of a failure, whether the store could
not be reached or broke down, and the name of a constraint that nobody here knows make no
difference to what a request asks next or to what its caller is told.
-/

namespace Turnstile

open Turnstile.Store

namespace Store

/-- An error without what only operators may see. -/
def Error.masked : Error → Error
  | .noRows => .noRows
  | .uniqueViolation (.other _) => .uniqueViolation (.other "")
  | .uniqueViolation field => .uniqueViolation field
  | .unavailable _ => .backend ""
  | .backend _ => .backend ""

def Call.Alike (call : Call) (left right : call.Answer) : Prop :=
  Except.mapError Error.masked left = Except.mapError Error.masked right

theorem overlooks_request {Failure : Type} (call : Call) {explain : Error → Failure}
    (masks : ∀ error, explain error.masked = explain error) :
    (request call explain).Overlooks Call.Alike := by
  refine ⟨fun left right alike => ?_, fun answer => ?_⟩
  · cases left with
    | ok result =>
        cases right with
        | ok other =>
            cases alike
            rfl
        | error error => cases alike
    | error error =>
        cases right with
        | ok result => cases alike
        | error other =>
            have same : error.masked = other.masked := Except.error.inj alike
            refine congrArg Dialogue.fail ?_
            rw [← masks error, same, masks other]
  · cases answer with
    | ok result => trivial
    | error error => trivial

end Store

namespace Auth

theorem Error.ofStore_masked (error : Store.Error) : ofStore error.masked = ofStore error := by
  cases error with
  | uniqueViolation field =>
      cases field with
      | _ => rfl
  | _ => rfl

theorem Error.ofHiddenLookup_masked (error : Store.Error) :
    ofHiddenLookup error.masked = ofHiddenLookup error := by
  cases error with
  | uniqueViolation field =>
      cases field with
      | _ => rfl
  | _ => rfl

theorem overlooks_authenticate (codec : Token.Codec) (metadata : Option Metadata)
    (now : Time.Instant) : (authenticate codec metadata now).Overlooks Call.Alike := by
  apply Dialogue.Overlooks.bind
  · exact Dialogue.overlooks_ofExcept _
  · intro claims
    apply Dialogue.Overlooks.bind
    · exact overlooks_request _ Error.ofHiddenLookup_masked
    · intro account
      split
      · trivial
      · trivial

namespace Issuer

variable (issuer : Issuer) (moment : Moment)

theorem overlooks_login (email password : String) :
    (issuer.login moment email password).Overlooks Call.Alike := by
  apply Dialogue.Overlooks.bind
  · exact overlooks_request _ Error.ofHiddenLookup_masked
  · intro credentials
    split
    · apply Dialogue.Overlooks.bind
      · exact overlooks_request _ Error.ofHiddenLookup_masked
      · intro account
        split
        · trivial
        · exact Dialogue.overlooks_ofExcept _
    · trivial

theorem overlooks_register (registration : Registration) :
    (issuer.register moment registration).Overlooks Call.Alike := by
  rw [register]
  split
  · trivial
  · apply Dialogue.Overlooks.bind
    · exact overlooks_request _ Error.ofStore_masked
    · intro vacant
      apply Dialogue.Overlooks.bind
      · exact Dialogue.overlooks_ofExcept _
      · intro passwordHash
        apply Dialogue.Overlooks.bind
        · exact overlooks_request _ Error.ofStore_masked
        · intro account
          exact Dialogue.overlooks_ofExcept _

end Issuer

end Auth

namespace Rpc

open Auth Wire

section Procedures

variable (issuer : Issuer) (moment : Moment)

theorem overlooks_updateProfileHandler (caller : Option Caller) (query : UpdateProfileRequest) :
    (updateProfileHandler caller query).Overlooks Call.Alike := by
  apply Dialogue.Overlooks.bind
  · exact Dialogue.overlooks_ofExcept _
  · intro caller
    apply Dialogue.Overlooks.bind
    · exact Dialogue.overlooks_ofExcept _
    · intro checked
      apply Dialogue.Overlooks.bind
      · exact Dialogue.overlooks_ofExcept _
      · intro update
        apply Dialogue.Overlooks.bind
        · exact overlooks_request _ Error.ofStore_masked
        · intro account
          trivial

theorem overlooks_exchange {Query Reply : Type} [Message Query] [Message Reply]
    {handler : Query → Session Auth.Error Reply}
    (overlooks : ∀ query, (handler query).Overlooks Call.Alike) (body : Bytes) :
    (exchange handler body).Overlooks Call.Alike := by
  rw [exchange]
  split
  · trivial
  · rename_i query read
    exact ((overlooks query).mapFailure _).map _

theorem overlooks_call (procedure : Procedure) (caller : Option Caller) (body : Bytes) :
    (procedure.call issuer moment caller body).Overlooks Call.Alike := by
  cases procedure with
  | login =>
      apply overlooks_exchange
      intro query
      apply Dialogue.Overlooks.bind
      · exact Dialogue.overlooks_ofExcept _
      · intro checked
        exact (issuer.overlooks_login moment query.email query.password).bind fun _ => trivial
  | register =>
      apply overlooks_exchange
      intro query
      apply Dialogue.Overlooks.bind
      · exact Dialogue.overlooks_ofExcept _
      · intro checked
        exact (issuer.overlooks_register moment (registrationOf query)).bind fun _ => trivial
  | getProfile =>
      apply overlooks_exchange
      intro query
      exact (Dialogue.overlooks_ofExcept (requireCaller caller)).bind fun _ => trivial
  | updateProfile => exact overlooks_exchange (overlooks_updateProfileHandler caller) body

theorem overlooks_serve (request : Request) :
    (serve issuer moment request).Overlooks Call.Alike := by
  apply Dialogue.Overlooks.bind
  · apply Dialogue.Overlooks.mapFailure
    by_cases opened : IsPublicPath request.path
    · rw [gate_of_public opened]
      trivial
    · rw [gate_of_not_public opened]
      exact (overlooks_authenticate ..).map _
  · intro caller
    split
    · trivial
    · exact overlooks_call issuer moment _ caller request.body

end Procedures

/-- Two stores that answer every call alike, in whatever states they come to, get the same calls
from a request, and its caller the same response. -/
theorem store_troubles_stay_inside (issuer : Issuer) (moment : Moment) (request : Request)
    {State State' : Type} (responder : Dialogue.Responder Call.Answer State)
    (other : Dialogue.Responder Call.Answer State') (related : State → State' → Prop)
    (alike : ∀ call state state', related state state' →
      Call.Alike call (responder call state).1 (other call state').1 ∧
        related (responder call state).2 (other call state').2)
    (state : State) (state' : State') (start : related state state') :
    ((serve issuer moment request).run responder state).1 =
        ((serve issuer moment request).run other state').1 ∧
      (serve issuer moment request).asked responder state =
        (serve issuer moment request).asked other state' :=
  (overlooks_serve issuer moment request).run_eq alike start

/-! Two stores that never create an account: one cannot be reached for it, the other breaks down. -/

def unreachable : Rehearsal Memory :=
  { store := {}, faults := [(some .create, .unavailable "pool timed out")] }

def broken : Rehearsal Memory :=
  { store := {}, faults := [(some .create, .backend "syntax error at or near")] }

def AreTroubled (left right : Rehearsal Memory) : Prop :=
  left.store = right.store ∧ left.faults = unreachable.faults ∧ right.faults = broken.faults

theorem AreTroubled.respond (call : Call) (left right : Rehearsal Memory)
    (troubled : AreTroubled left right) :
    Call.Alike call (Rehearsal.respond (Memory.respond today.now default) call left).1
        (Rehearsal.respond (Memory.respond today.now default) call right).1 ∧
      AreTroubled (Rehearsal.respond (Memory.respond today.now default) call left).2
        (Rehearsal.respond (Memory.respond today.now default) call right).2 := by
  rcases left with ⟨store, faults, log⟩
  rcases right with ⟨store', faults', log'⟩
  rcases troubled with ⟨rfl, rfl, rfl⟩
  cases call with
  | _ => exact ⟨rfl, rfl, rfl, rfl⟩

theorem application_meets_troubles :
    AreTroubled unreachable broken ∧
      ((serve bridge today application).run
          (Rehearsal.respond (Memory.respond today.now default)) unreachable).1 =
        ((serve bridge today application).run
          (Rehearsal.respond (Memory.respond today.now default)) broken).1 ∧
      (serve bridge today application).asked
          (Rehearsal.respond (Memory.respond today.now default)) unreachable =
        (serve bridge today application).asked
          (Rehearsal.respond (Memory.respond today.now default)) broken :=
  ⟨⟨rfl, rfl, rfl⟩, store_troubles_stay_inside bridge today application _ _ AreTroubled
    AreTroubled.respond unreachable broken ⟨rfl, rfl, rfl⟩⟩

end Rpc

end Turnstile
