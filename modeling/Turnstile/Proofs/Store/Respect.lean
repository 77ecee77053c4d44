import Turnstile.Proofs.Store.Growth
import Turnstile.Proofs.Store.Interleaving

/-!
Sessions that respect the rows of a store. Whatever others do to a store between the calls of such
a session, as long as they respect its rows themselves, its updates fit the rows that they replace.
So any number of them can go on side by side, and a store only gains rows.
-/

namespace Turnstile.Store

open Turnstile.Time

/-- Every update fits when it is asked for, however the store has grown in the meantime. -/
def Respectful {Failure α : Type} : Session Failure α → Memory → Prop
  | .done _, _ => True
  | .fail _, _ => True
  | .ask call next, memory => ∀ later, memory.GrowsInto later →
      call.Respects later ∧ ∀ now freshId,
        Respectful (next (later.respond now freshId call).1) (later.respond now freshId call).2

section Sessions

variable {Failure α : Type}

theorem Respectful.later {session : Session Failure α} {before after : Memory}
    (respectful : Respectful session before) (grows : before.GrowsInto after) :
    Respectful session after := by
  cases session with
  | done value => trivial
  | fail failure => trivial
  | ask call next => exact fun later growsMore => respectful later (grows.trans growsMore)

theorem respectful_of_asks {session : Session Failure α}
    (asks : session.Asks fun call => call.method ≠ .update) (memory : Memory) :
    Respectful session memory := by
  induction session generalizing memory with
  | done value => trivial
  | fail failure => trivial
  | ask call next induction =>
      intro later _
      exact ⟨Call.respects_of_ne asks.left later, fun now freshId => induction _ (asks.right _) _⟩

theorem Respectful.gains_run {session : Session Failure α} {memory : Memory}
    (respectful : Respectful session memory) (unique : memory.IsUnique)
    (asks : session.Asks fun call => call.method ≠ .create) (now : Instant)
    (freshId : Account.Id) :
    (session.run (Memory.respond now freshId) memory).2.IsUnique ∧
      memory.Gains [] (session.run (Memory.respond now freshId) memory).2 := by
  induction session generalizing memory with
  | done value => exact ⟨unique, .refl memory⟩
  | fail failure => exact ⟨unique, .refl memory⟩
  | ask call next induction =>
      have step := respectful memory (.refl memory)
      have gains := Memory.gains_respond unique.ids step.left now freshId
      rw [Memory.created_of_ne asks.left] at gains
      have kept : (memory.respond now freshId call).2.IsUnique :=
        unique.respond now fun creates => absurd creates asks.left
      rcases induction _ (step.right now freshId) kept (asks.right _) with ⟨last, gainsMore⟩
      exact ⟨last, gains.trans gainsMore⟩

end Sessions

/-! ## Many sessions at once -/

/-- A party makes its next call, if it has one; an account that it creates gets the identifier. -/
structure Turn where
  party : Nat
  now : Instant
  freshId : Account.Id
  deriving DecidableEq

def Turn.move (turn : Turn) : Move :=
  .advance turn.party turn.now turn.freshId

structure Creation where
  party : Nat
  row : Row
  deriving DecidableEq

namespace Traffic

variable {Failure α : Type}

def play (traffic : Traffic Failure α) (turns : List Turn) : Traffic Failure α :=
  traffic.run (turns.map Turn.move)

def created (traffic : Traffic Failure α) (turn : Turn) : List Row :=
  match traffic.sessions turn.party with
  | .ask call _ => traffic.memory.created turn.freshId call
  | _ => []

def creations : Traffic Failure α → List Turn → List Creation
  | _, [] => []
  | traffic, turn :: rest =>
      (traffic.created turn).map (Creation.mk turn.party) ++ (traffic.next turn.move).creations rest

/-- The identifier that a turn brings is free, if it may be needed. -/
def IsFresh (traffic : Traffic Failure α) (turn : Turn) : Prop :=
  ∀ call further, traffic.sessions turn.party = .ask call further →
    traffic.memory.IsFresh turn.freshId call

def AllFresh : Traffic Failure α → List Turn → Prop
  | _, [] => True
  | traffic, turn :: rest => traffic.IsFresh turn ∧ (traffic.next turn.move).AllFresh rest

/-- The store is as it should be, and nobody is going to spoil it. -/
structure IsOrderly (traffic : Traffic Failure α) : Prop where
  unique : traffic.memory.IsUnique
  respectful : ∀ party, Respectful (traffic.sessions party) traffic.memory

/-- One turn: the party on turn respects the rows as they are now, and for all others the store has
only grown. -/
theorem IsOrderly.next {traffic : Traffic Failure α} (orderly : traffic.IsOrderly) {turn : Turn}
    (fresh : traffic.IsFresh turn) :
    (traffic.next turn.move).IsOrderly ∧
      traffic.memory.Gains (traffic.created turn) (traffic.next turn.move).memory := by
  cases session : traffic.sessions turn.party with
  | ask call further =>
      have own := orderly.respectful turn.party
      rw [session] at own
      have step := own traffic.memory (.refl traffic.memory)
      have gains := Memory.gains_respond orderly.unique.ids step.left turn.now turn.freshId
      have advanced : traffic.next turn.move = _ := next_advance session turn.now turn.freshId
      have created : traffic.created turn = traffic.memory.created turn.freshId call := by
        rw [Traffic.created, session]
      rw [advanced, created]
      refine ⟨⟨orderly.unique.respond turn.now (fresh call further session), ?_⟩, gains⟩
      intro party
      dsimp only
      by_cases same : party = turn.party
      · subst same
        rw [Function.update_self]
        exact step.right turn.now turn.freshId
      · rw [Function.update_of_ne same]
        exact (orderly.respectful party).later ⟨_, gains⟩
  | _ =>
      have waits : traffic.next turn.move = traffic := by
        rw [Turn.move, Traffic.next, session]
      have nothing : traffic.created turn = [] := by
        rw [Traffic.created, session]
      rw [waits, nothing]
      exact ⟨orderly, .refl traffic.memory⟩

theorem IsOrderly.play {traffic : Traffic Failure α} (orderly : traffic.IsOrderly)
    {turns : List Turn} (fresh : traffic.AllFresh turns) :
    (traffic.play turns).IsOrderly ∧
      traffic.memory.Gains ((traffic.creations turns).map Creation.row)
        (traffic.play turns).memory := by
  induction turns generalizing traffic with
  | nil => exact ⟨orderly, .refl traffic.memory⟩
  | cons turn rest induction =>
      rcases orderly.next fresh.left with ⟨next, gains⟩
      rcases induction next fresh.right with ⟨last, gainsMore⟩
      refine ⟨last, ?_⟩
      have rows : (traffic.creations (turn :: rest)).map Creation.row =
          traffic.created turn ++
            ((traffic.next turn.move).creations rest).map Creation.row := by
        rw [creations, List.map_append, List.map_map]
        exact congrArg (· ++ _) (List.map_id' _)
      rw [rows]
      exact gains.trans gainsMore

end Traffic

theorem Memory.id_of_mem_respond {now : Instant} {freshId : Account.Id} {call : Call}
    {memory : Memory} {row : Row} (member : row ∈ (memory.respond now freshId call).2.rows) :
    row.account.id = freshId ∨ ∃ other ∈ memory.rows, other.account.id = row.account.id := by
  have kept (there : row ∈ memory.rows) :
      row.account.id = freshId ∨ ∃ other ∈ memory.rows, other.account.id = row.account.id :=
    .inr ⟨row, there, rfl⟩
  cases call with
  | create account =>
      simp only [respond, create] at member
      split at member
      · exact kept member
      · rcases List.mem_append.mp member with there | new
        · exact kept there
        · rw [List.mem_singleton.mp new]
          exact .inl rfl
  | update account =>
      simp only [respond, update] at member
      split at member
      · exact kept member
      · split at member
        · rcases List.mem_map.mp member with ⟨other, otherMember, rfl⟩
          refine .inr ⟨other, otherMember, ?_⟩
          split
          · rename_i same
            exact same
          · rfl
        · exact kept member
  | _ => exact kept member

theorem Traffic.allFresh_of_nodup {Failure α : Type} {traffic : Traffic Failure α}
    {turns : List Turn} (distinct : (turns.map Turn.freshId).Nodup)
    (free : ∀ row ∈ traffic.memory.rows, row.account.id ∉ turns.map Turn.freshId) :
    traffic.AllFresh turns := by
  induction turns generalizing traffic with
  | nil => trivial
  | cons turn rest induction =>
      rw [List.map_cons, List.nodup_cons] at distinct
      refine ⟨?_, induction distinct.right ?_⟩
      · intro call further _ _ row member same
        exact free row member (same ▸ List.mem_cons_self ..)
      · intro row member
        cases session : traffic.sessions turn.party with
        | ask call further =>
            rw [Turn.move, next_advance session] at member
            rcases Memory.id_of_mem_respond member with own | ⟨other, otherMember, same⟩
            · rw [own]
              exact distinct.left
            · rw [← same]
              exact fun later => free other otherMember (List.mem_cons_of_mem _ later)
        | _ =>
            rw [Turn.move, Traffic.next, session] at member
            exact fun later => free row member (List.mem_cons_of_mem _ later)

end Turnstile.Store
