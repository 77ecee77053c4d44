import Turnstile.Proofs.Store.Uniqueness

/-!
One's own row in a store whose rows are unique. An account that is written back under its identifier
and its email can only meet another one with its phone number. If there is none, its row is replaced
where it stands, the hash stays in it, and no other row is touched.
-/

namespace Turnstile.Store.Memory

open Turnstile.Time

def Swaps (row : Row) (account : Account) (before after : Memory) : Prop :=
  ∃ front back, before.rows = front ++ row :: back ∧
    after.rows = front ++ { row with account } :: back

def HoldsElsewhere (memory : Memory) (row : Row) (phoneNumber : String) : Prop :=
  ∃ other ∈ memory.rows, other ≠ row ∧ other.account.phoneNumber = phoneNumber

instance (memory : Memory) (row : Row) (phoneNumber : String) :
    Decidable (memory.HoldsElsewhere row phoneNumber) :=
  inferInstanceAs (Decidable (∃ other ∈ memory.rows, _))

section Own

variable {memory : Memory} {row : Row} (unique : memory.IsUnique) (member : row ∈ memory.rows)
include unique member

theorem IsUnique.swaps_replace {account : Account} (own : account.id = row.account.id) :
    Swaps row account memory (memory.replace account) := by
  rcases List.append_of_mem member with ⟨front, back, split⟩
  refine ⟨front, back, split, ?_⟩
  have separate := unique.ids
  rw [Separates, split, List.map_append, List.map_cons, List.nodup_middle, List.nodup_cons,
    ← List.map_append] at separate
  have kept : ∀ other ∈ front ++ back,
      (if other.account.id = account.id then { other with account } else other) = other := by
    intro other there
    refine if_neg fun same => separate.left ?_
    rw [← own, ← same]
    exact List.mem_map_of_mem there
  have before := List.map_congr_left fun other there => kept other (List.mem_append_left back there)
  have after := List.map_congr_left fun other there => kept other (List.mem_append_right front there)
  rw [List.map_id'] at before after
  rw [replace, split, List.map_append, List.map_cons, before, after, if_pos own.symm]

theorem IsUnique.id_ne_iff {other : Row} (there : other ∈ memory.rows) :
    other.account.id ≠ row.account.id ↔ other ≠ row := by
  constructor
  · rintro different rfl
    exact different rfl
  · exact fun different same => different (unique.ids.eq_of_mem there member same)

theorem IsUnique.conflict?_own (phoneNumber : String) :
    memory.conflict? (some row.account.id) row.account.email phoneNumber =
      if memory.HoldsElsewhere row phoneNumber then some .phoneNumber else none := by
  have ownEmail : ¬ ∃ other ∈ memory.rows,
      some other.account.id ≠ some row.account.id ∧ other.account.email = row.account.email := by
    rintro ⟨other, there, different, same⟩
    exact different (congrArg (fun row : Row => some row.account.id)
      (unique.emails.eq_of_mem there member same))
  have elsewhere : (∃ other ∈ memory.rows, some other.account.id ≠ some row.account.id ∧
      other.account.phoneNumber = phoneNumber) ↔ memory.HoldsElsewhere row phoneNumber := by
    refine exists_congr fun other => and_congr_right fun there => and_congr_left fun _ => ?_
    rw [ne_eq, Option.some.injEq]
    exact unique.id_ne_iff member there
  rw [conflict?_eq, if_neg ownEmail]
  simp only [elsewhere]

/-- One's own phone number is nobody else's, so it matters only if another one is wanted. -/
theorem IsUnique.holdsElsewhere_getD_iff (wanted : Option String) :
    memory.HoldsElsewhere row (wanted.getD row.account.phoneNumber) ↔
      ∃ phoneNumber, wanted = some phoneNumber ∧ memory.HoldsElsewhere row phoneNumber := by
  cases wanted with
  | some phoneNumber => simp
  | none =>
      refine iff_of_false ?_ (by simp)
      rintro ⟨other, there, different, same⟩
      exact different (unique.phoneNumbers.eq_of_mem there member same)

theorem IsUnique.update_own (account : Account) (id : account.id = row.account.id)
    (email : account.email = row.account.email) (now : Instant) :
    memory.update now account =
      if memory.HoldsElsewhere row account.phoneNumber then
        (.error (.uniqueViolation .phoneNumber), memory)
      else
        (.ok { account with updatedAt := now },
          memory.replace { account with updatedAt := now }) := by
  have there : (memory.rows.any fun other => other.account.id == row.account.id) = true :=
    List.any_eq_true.mpr ⟨row, member, beq_self_eq_true _⟩
  rw [Memory.update, id, email, unique.conflict?_own member]
  by_cases held : memory.HoldsElsewhere row account.phoneNumber
  · rw [if_pos held, if_pos held]
  · rw [if_neg held, if_neg held]
    dsimp only
    rw [if_pos there]

end Own

end Turnstile.Store.Memory
