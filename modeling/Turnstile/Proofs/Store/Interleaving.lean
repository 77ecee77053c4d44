import Mathlib.Data.List.Induction
import Mathlib.Logic.Function.Basic
import Turnstile.Proofs.Store.Arrivals

/-!
Sessions of several parties over one store in memory. A call is one step. Between two steps of a
party come steps of the others, and calls from outside of all sessions, in any order.
-/

namespace Turnstile.Store

open Turnstile.Time

/-- A store, and what every party has still to do there. -/
structure Traffic (Failure α : Type) where
  memory : Memory
  sessions : Nat → Session Failure α

inductive Move where
  | advance (party : Nat) (now : Instant) (freshId : Account.Id)
  | arrive (arrival : Arrival)
  deriving DecidableEq

namespace Traffic

variable {Failure α : Type}

def next (traffic : Traffic Failure α) : Move → Traffic Failure α
  | .advance party now freshId =>
      match traffic.sessions party with
      | .ask call further =>
          let (answer, memory) := traffic.memory.respond now freshId call
          { memory, sessions := Function.update traffic.sessions party (further answer) }
      | _ => traffic
  | .arrive arrival => { traffic with memory := traffic.memory.after arrival }

def run (traffic : Traffic Failure α) (moves : List Move) : Traffic Failure α :=
  moves.foldl next traffic

theorem run_append_singleton (traffic : Traffic Failure α) (moves : List Move) (move : Move) :
    traffic.run (moves ++ [move]) = (traffic.run moves).next move := by
  rw [run, List.foldl_append]
  rfl

theorem next_advance {traffic : Traffic Failure α} {party : Nat} {call : Call}
    {further : call.Answer → Session Failure α}
    (asks : traffic.sessions party = .ask call further) (now : Instant) (freshId : Account.Id) :
    traffic.next (.advance party now freshId) =
      { memory := (traffic.memory.respond now freshId call).2
        sessions := Function.update traffic.sessions party
          (further (traffic.memory.respond now freshId call).1) } := by
  rw [next, asks]

theorem sessions_next_of_ne (traffic : Traffic Failure α) {party other : Nat}
    (different : party ≠ other) (now : Instant) (freshId : Account.Id) :
    (traffic.next (.advance other now freshId)).sessions party = traffic.sessions party := by
  rw [next]
  split
  · exact Function.update_of_ne different ..
  · rfl

/-- What holds of a party's session at the start, and stays so with every call of its own and while
others move, holds after every schedule. -/
theorem session_run {motive : List Move → Session Failure α → Prop} {start : Traffic Failure α}
    {party : Nat} (initial : motive [] (start.sessions party))
    (waits : ∀ moves move session, motive moves session → motive (moves ++ [move]) session)
    (calls : ∀ moves now freshId call further, motive moves (.ask call further) →
      motive (moves ++ [.advance party now freshId])
        (further ((start.run moves).memory.respond now freshId call).1))
    (moves : List Move) : motive moves ((start.run moves).sessions party) := by
  induction moves using List.reverseRecOn with
  | nil => exact initial
  | append_singleton moves move induction =>
      rw [run_append_singleton]
      cases move with
      | arrive arrival => exact waits moves _ _ induction
      | advance other now freshId =>
          by_cases same : party = other
          · subst other
            cases session : (start.run moves).sessions party with
            | ask call further =>
                rw [session] at induction
                rw [next_advance session]
                dsimp only
                rw [Function.update_self]
                exact calls moves now freshId call further induction
            | _ =>
                rw [next, session]
                dsimp only
                exact waits moves _ _ induction
          · rw [sessions_next_of_ne _ same]
            exact waits moves _ _ induction

theorem everywhere_run
    {described : (call : Call) → (call.Answer → Session Failure α) → Prop}
    {start : Traffic Failure α} {party : Nat}
    (everywhere : (start.sessions party).Everywhere described) (moves : List Move) :
    ((start.run moves).sessions party).Everywhere described := by
  refine session_run (motive := fun _ session => session.Everywhere described) everywhere ?_ ?_
    moves
  · intro moves move session kept
    exact kept
  · intro moves now freshId call further kept
    exact kept.right _

end Traffic

end Turnstile.Store
