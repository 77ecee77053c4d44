import Turnstile.Secret.Cache

/-!
A source of secrets for rehearsals: its secrets can be changed, it can be out of order for some
time, and it counts how often it is asked.
-/

namespace Turnstile.Secret

structure Rehearsal where
  values : List (String × String) := []
  outage : Option String := none
  calls : Nat := 0
  deriving DecidableEq

namespace Rehearsal

def unset (rehearsal : Rehearsal) (name : String) : Rehearsal :=
  { rehearsal with values := rehearsal.values.filter fun entry => entry.1 != name }

def set (rehearsal : Rehearsal) (name value : String) : Rehearsal :=
  { rehearsal with values := (name, value) :: (rehearsal.unset name).values }

def respond : Dialogue.Responder Answer Rehearsal := fun name rehearsal =>
  let answer : Except Error String :=
    match rehearsal.outage with
    | some reason => .error (.backend reason)
    | none => Source.ofList rehearsal.values name
  (answer, { rehearsal with calls := rehearsal.calls + 1 })

end Rehearsal

end Turnstile.Secret
