import Turnstile.Proofs.Store.Memory
import Turnstile.Proofs.Store.Uniqueness

/-!
Updates in memory of an account that its caller holds. The account and the row that is kept of it
change together, or neither does.
-/

namespace Turnstile.Store

open Turnstile.Time

def Row.Takes (stored : Account) (before after : Row) : Prop :=
  after.passwordHash = before.passwordHash ∧
    after.account = if before.account.id = stored.id then stored else before.account

namespace Memory

theorem forall₂_replace (memory : Memory) (stored : Account) :
    List.Forall₂ (Row.Takes stored) memory.rows (memory.replace stored).rows := by
  rw [replace, List.forall₂_map_right_iff, List.forall₂_same]
  intro row _
  by_cases same : row.account.id = stored.id
  · rw [if_pos same]
    exact ⟨rfl, (if_pos same).symm⟩
  · rw [if_neg same]
    exact ⟨rfl, (if_neg same).symm⟩

def HasRoomFor (memory : Memory) (account : Account) : Prop :=
  (∃ row ∈ memory.rows, row.account.id = account.id) ∧
    ∀ row ∈ memory.rows, row.account.id ≠ account.id →
      row.account.email ≠ account.email ∧ row.account.phoneNumber ≠ account.phoneNumber

theorem accept_eq_ok_iff (memory : Memory) (account : Account) :
    memory.accept account = .ok () ↔ memory.HasRoomFor account := by
  have there : (memory.rows.any fun row => row.account.id == account.id) = true ↔
      ∃ row ∈ memory.rows, row.account.id = account.id := by
    simp only [List.any_eq_true, beq_iff_eq]
  rw [accept, HasRoomFor, ← there]
  cases free : memory.conflict? (some account.id) account.email account.phoneNumber with
  | some field =>
      refine iff_of_false (by simp) fun room => ?_
      rw [conflict?_eq, if_neg, if_neg] at free
      · cases free
      · rintro ⟨row, member, other, same⟩
        exact (room.right row member (by simpa using other)).right same
      · rintro ⟨row, member, other, same⟩
        exact (room.right row member (by simpa using other)).left same
  | none =>
      have apart : ∀ row ∈ memory.rows, row.account.id ≠ account.id →
          row.account.email ≠ account.email ∧ row.account.phoneNumber ≠ account.phoneNumber :=
        fun row member other => free_of_conflict? free member (by simpa using other)
      dsimp only
      split
      · rename_i found
        exact iff_of_true rfl ⟨found, apart⟩
      · rename_i missing
        exact iff_of_false (by simp) fun room => missing room.left

theorem run_updateInPlace (memory : Memory) (now : Instant) (account : Account) :
    ((updateInPlace now).on account).run memory =
      match memory.accept account with
      | .error error => ((.error error, account), memory)
      | .ok () =>
          let stored := { account with updatedAt := now }
          ((.ok (), stored), memory.replace stored) := by
  have opened : ((updateInPlace now).on account).run memory =
      ((liftExcept (memory.accept account) >>= fun _ => refresh now :
        InPlace (StateM Memory) Unit).on account).run memory := rfl
  rw [opened]
  cases memory.accept account with
  | error error => rfl
  | ok => rfl

theorem update_eq_updateInPlace (memory : Memory) (now : Instant) (account : Account) :
    memory.update now account =
      match ((updateInPlace now).on account).run memory with
      | ((verdict, after), later) => (verdict.map fun _ => after, later) := by
  rw [run_updateInPlace, update, accept]
  cases memory.conflict? (some account.id) account.email account.phoneNumber with
  | some field => rfl
  | none =>
      dsimp only
      split
      · rfl
      · rfl

/-- What a verdict says about the account that the caller holds and about the rows. -/
def TellsTruth (memory : Memory) (now : Instant) (account : Account) :
    Except Error Unit → Account → Memory → Prop
  | .error _, after, later => after = account ∧ later = memory
  | .ok (), after, later =>
      after = { account with updatedAt := now } ∧
        later.find (fun other => other.id == account.id) = .ok after ∧
        List.Forall₂ (Row.Takes after) memory.rows later.rows

theorem updateInPlace_tellsTruth (memory : Memory) (now : Instant) (account : Account) :
    ∃ verdict after later,
      ((updateInPlace now).on account).run memory = ((verdict, after), later) ∧
        memory.update now account = (verdict.map fun _ => after, later) ∧
        (verdict = .ok () ↔ memory.HasRoomFor account) ∧
        memory.TellsTruth now account verdict after later := by
  have given := memory.update_eq_updateInPlace now account
  rw [run_updateInPlace] at given
  rw [run_updateInPlace, ← accept_eq_ok_iff]
  cases accepted : memory.accept account with
  | error error =>
      rw [accepted] at given
      exact ⟨_, _, _, rfl, given, Iff.rfl, rfl, rfl⟩
  | ok =>
      rw [accepted] at given
      rcases update_of_ok (congrArg Prod.fst given) with ⟨-, -, current, found⟩
      exact ⟨_, _, _, rfl, given, Iff.rfl, rfl, find_replace found, memory.forall₂_replace _⟩

end Memory

end Turnstile.Store
