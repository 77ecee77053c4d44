import Turnstile.Database.Accounts

/-!
A database for rehearsals: it answers from a script and remembers the statements that reach it.
One that it cannot make out does not; then the connection is lost.
-/

namespace Turnstile.Database

open Turnstile.Time

def Value.isLegible : Value → Bool
  | time microseconds => (Instant.ofDatabaseMicroseconds? microseconds).isSome
  | _ => true

structure Rehearsal where
  /-- What every statement comes to when no connection can be had. -/
  barred : Option Reply := none
  replies : List Reply := []
  received : List Statement := []

namespace Rehearsal

/-- When the script is at its end the connection is lost. -/
def respond : Dialogue.Responder Statement.Answer Rehearsal := fun statement rehearsal =>
  match rehearsal.barred with
  | some reply => (reply, rehearsal)
  | none =>
      if !statement.parameters.all Value.isLegible then (Reply.lost, rehearsal)
      else
        let rehearsal := { rehearsal with received := statement :: rehearsal.received }
        match rehearsal.replies with
        | [] => (Reply.lost, rehearsal)
        | reply :: replies => (reply, { rehearsal with replies })

end Rehearsal

end Turnstile.Database
