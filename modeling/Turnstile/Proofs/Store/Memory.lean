import Mathlib.Data.List.Forall2
import Turnstile.Proofs.Dialogue
import Turnstile.Store.Memory

/-!
What calls do to a store in memory: reads leave it as it is, and an update changes no row but that
of its account.
-/

namespace Turnstile.Store

open Turnstile.Time

def Call.IsRead (call : Call) : Prop :=
  call.isWrite = false

def Call.Spares (id : Account.Id) (call : Call) : Prop :=
  call.IsRead ∨ ∃ account, call = .update account ∧ account.id = id

theorem asks_request {Failure : Type} {allowed : Call → Prop} {call : Call}
    (explain : Error → Failure) (admitted : allowed call) :
    (request call explain).Asks allowed := by
  refine ⟨admitted, fun answer => ?_⟩
  cases answer with
  | ok result => trivial
  | error error => trivial

theorem run_request {Failure State : Type} (responder : Dialogue.Responder Call.Answer State)
    (state : State) (call : Call) (explain : Error → Failure) :
    (request call explain).run responder state =
      ((responder call state).1.mapError explain, (responder call state).2) := by
  rw [request, Dialogue.run]
  rcases responder call state with ⟨answer, after⟩
  cases answer with
  | ok result => rfl
  | error error => rfl

theorem forall₂_trans {α : Type} {related : α → α → Prop}
    (trans : ∀ before between after, related before between → related between after →
      related before after)
    {before between after : List α} (first : List.Forall₂ related before between)
    (second : List.Forall₂ related between after) : List.Forall₂ related before after := by
  induction first generalizing after with
  | nil => exact second
  | cons head _ induction =>
      cases second with
      | cons next rest => exact .cons (trans _ _ _ head next) (induction rest)

namespace Memory

theorem respond_of_read (now : Instant) (freshId : Account.Id) {call : Call}
    (read : call.IsRead) (memory : Memory) :
    (respond now freshId call memory).2 = memory := by
  cases call with
  | create account => cases read
  | update account => cases read
  | _ => rfl

theorem id_of_find {memory : Memory} {id : Account.Id} {account : Account}
    (found : memory.find (fun account => account.id == id) = .ok account) : account.id = id := by
  rw [find] at found
  split at found
  · rename_i row there
    cases found
    have wanted := List.find?_some there
    exact eq_of_beq wanted
  · cases found

theorem find_replace {memory : Memory} {account current : Account}
    (found : memory.find (fun other => other.id == account.id) = .ok current) :
    (memory.replace account).find (fun other => other.id == account.id) = .ok account := by
  rw [find] at found ⊢
  rw [replace, List.find?_map]
  -- the row that is found before is found after, since a replacement keeps the identifier
  have same : ((fun row : Row => row.account.id == account.id) ∘ fun row =>
      if row.account.id = account.id then { row with account } else row) =
      fun row => row.account.id == account.id := by
    funext row
    rw [Function.comp_apply]
    split
    · rename_i there
      rw [there]
    · rfl
  rw [same]
  split at found
  · rename_i row there
    have wanted := List.find?_some there
    rw [there, Option.map_some, if_pos (eq_of_beq wanted)]
  · cases found

theorem update_of_ok {memory : Memory} {now : Instant} {account stored : Account}
    (updated : (memory.update now account).1 = .ok stored) :
    stored = { account with updatedAt := now } ∧
      (memory.update now account).2 = memory.replace stored ∧
      ∃ current, memory.find (fun other => other.id == account.id) = .ok current := by
  rw [update] at updated ⊢
  split at updated
  · cases updated
  · split at updated
    · rename_i there
      cases updated
      dsimp only
      rw [if_pos there]
      refine ⟨rfl, rfl, ?_⟩
      rw [List.any_eq_true] at there
      rw [find]
      cases found : memory.rows.find? fun row => row.account.id == account.id with
      | some row => exact ⟨row.account, rfl⟩
      | none =>
          rcases there with ⟨row, member, same⟩
          exact absurd same (List.find?_eq_none.mp found row member)
    · cases updated

/-- The same rows, but for the account in those with one identifier. -/
def ChangesOnly (id : Account.Id) (before after : Memory) : Prop :=
  List.Forall₂
    (fun old new => new.account.id = old.account.id ∧ (old.account.id ≠ id → new = old))
    before.rows after.rows

theorem ChangesOnly.refl (id : Account.Id) (memory : Memory) : memory.ChangesOnly id memory :=
  List.forall₂_same.mpr fun _ _ => ⟨rfl, fun _ => rfl⟩

theorem ChangesOnly.trans {id : Account.Id} {before between after : Memory}
    (first : before.ChangesOnly id between) (second : between.ChangesOnly id after) :
    before.ChangesOnly id after := by
  refine forall₂_trans ?_ first second
  intro old middle new kept again
  refine ⟨again.left.trans kept.left, fun other => ?_⟩
  have same := kept.right other
  rw [← same] at other ⊢
  exact again.right other

theorem changesOnly_replace (memory : Memory) (account : Account) :
    memory.ChangesOnly account.id (memory.replace account) := by
  rw [ChangesOnly, replace, List.forall₂_map_right_iff, List.forall₂_same]
  intro row _
  by_cases same : row.account.id = account.id
  · rw [if_pos same]
    exact ⟨same.symm, fun other => absurd same other⟩
  · rw [if_neg same]
    exact ⟨rfl, fun _ => rfl⟩

theorem changesOnly_update (memory : Memory) (now : Instant) (account : Account) :
    memory.ChangesOnly account.id (memory.update now account).2 := by
  rw [update]
  split
  · exact .refl ..
  · split
    · exact changesOnly_replace memory { account with updatedAt := now }
    · exact .refl ..

section Sessions

variable {Failure α : Type} {session : Session Failure α} (now : Instant) (freshId : Account.Id)

theorem run_of_reads (reads : session.Asks Call.IsRead) (memory : Memory) :
    (session.run (respond now freshId) memory).2 = memory := by
  refine reads.related_run (fun before after => after = before) (fun _ => rfl) ?_ ?_ memory
  · intro before between after first second
    exact second.trans first
  · intro call before read
    exact respond_of_read now freshId read before

theorem run_of_updates {id : Account.Id} (updates : session.Asks (Call.Spares id))
    (memory : Memory) : memory.ChangesOnly id (session.run (respond now freshId) memory).2 := by
  refine updates.related_run (ChangesOnly id) (.refl id) .trans ?_ memory
  intro call memory allowed
  rcases allowed with read | ⟨account, rfl, rfl⟩
  · rw [respond_of_read now freshId read]
    exact .refl ..
  · exact changesOnly_update memory now account

end Sessions

end Memory

end Turnstile.Store
