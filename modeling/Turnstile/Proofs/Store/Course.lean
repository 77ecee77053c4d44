import Turnstile.Proofs.Dialogue
import Turnstile.Store.Call

/-!
A session call by call, with a store that may answer as it likes: which calls it makes, in which
state it leaves the store and how it ends. One lemma for each of the ways in which sessions are put
together, so that the course of a session is found by following its answers.
-/

namespace Turnstile.Store

/-- The session makes these calls, one after another, and ends so. -/
structure Course {Failure α State : Type} (responder : Dialogue.Responder Call.Answer State)
    (state : State) (session : Session Failure α) (result : Except Failure α) (after : State)
    (calls : List Call) : Prop where
  run : session.run responder state = (result, after)
  asked : session.asked responder state = calls

namespace Course

variable {Failure α State : Type} {responder : Dialogue.Responder Call.Answer State}
  {state between after : State} {call : Call} {explain : Error → Failure}
  {next : call.Result → Session Failure α}

theorem fail (failure : Failure) :
    Course responder state (.fail failure : Session Failure α) (.error failure) state [] :=
  ⟨rfl, rfl⟩

theorem ofExcept (result : Except Failure α) :
    Course responder state (.ofExcept result) result state [] :=
  ⟨Dialogue.run_ofExcept .., Dialogue.asked_ofExcept ..⟩

theorem refused {error : Error} (answered : responder call state = (.error error, between)) :
    Course responder state (request call explain >>= next) (.error (explain error)) between
      [call] := by
  constructor
  · rw [request, Dialogue.ask_bind, Dialogue.run, answered]
    rfl
  · rw [request, Dialogue.ask_bind, Dialogue.asked, answered]
    rfl

theorem granted {value : call.Result} {result : Except Failure α} {calls : List Call}
    (answered : responder call state = (.ok value, between))
    (course : Course responder between (next value) result after calls) :
    Course responder state (request call explain >>= next) result after (call :: calls) := by
  constructor
  · rw [request, Dialogue.ask_bind, Dialogue.run, answered]
    exact course.run
  · rw [request, Dialogue.ask_bind, Dialogue.asked, answered]
    exact congrArg (call :: ·) course.asked

theorem unique {session : Session Failure α} {result result' : Except Failure α} {after' : State}
    {calls calls' : List Call} (course : Course responder state session result after calls)
    (other : Course responder state session result' after' calls') :
    result' = result ∧ after' = after ∧ calls' = calls := by
  have same := Prod.mk.inj (other.run.symm.trans course.run)
  exact ⟨same.left, same.right, other.asked.symm.trans course.asked⟩

end Course

end Turnstile.Store
