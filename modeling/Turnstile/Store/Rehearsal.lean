import Turnstile.Store.Call

/-!
A store for rehearsals: it passes calls on to another store, except for those methods that are
meant to fail at present, and remembers which calls came.
-/

namespace Turnstile.Store

structure Rehearsal (State : Type) where
  store : State
  /-- The latest fault comes first. One without a method is for all of them. -/
  faults : List (Option Method × Error) := []
  log : List Method := []

namespace Rehearsal

variable {State : Type}

/-- A fault of the very method counts more than one of all methods. -/
def fault? (rehearsal : Rehearsal State) (method : Method) : Option Error :=
  rehearsal.faults.lookup (some method) <|> rehearsal.faults.lookup none

def withFault (rehearsal : Rehearsal State) (method : Option Method) (error : Error) :
    Rehearsal State :=
  { rehearsal with faults := (method, error) :: rehearsal.faults }

def heal (rehearsal : Rehearsal State) : Rehearsal State :=
  { rehearsal with faults := [] }

def count (rehearsal : Rehearsal State) (method : Method) : Nat :=
  rehearsal.log.count method

def respond (responder : Dialogue.Responder Call.Answer State) :
    Dialogue.Responder Call.Answer (Rehearsal State) := fun call rehearsal =>
  let logged := { rehearsal with log := call.method :: rehearsal.log }
  match rehearsal.fault? call.method with
  | some error => (.error error, logged)
  | none =>
      let (answer, store) := responder call rehearsal.store
      (answer, { logged with store })

end Rehearsal

end Turnstile.Store
