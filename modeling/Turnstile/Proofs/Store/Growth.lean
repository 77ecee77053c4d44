import Turnstile.Proofs.Store.Uniqueness

/-!
How the rows of a store live on. An account may get another name, phone number or other details,
but its row stays where it is and belongs to the same account: the identifier, the email, the
status, the time of its creation and the hash of its password are the same as before. Creations
add rows after those that are there, and no call takes one away.
-/

namespace Turnstile.Store

open Turnstile.Time

structure Row.Becomes (old new : Row) : Prop where
  id : new.account.id = old.account.id
  email : new.account.email = old.account.email
  status : new.account.status = old.account.status
  createdAt : new.account.createdAt = old.account.createdAt
  passwordHash : new.passwordHash = old.passwordHash

namespace Row.Becomes

theorem refl (row : Row) : row.Becomes row :=
  ⟨rfl, rfl, rfl, rfl, rfl⟩

theorem symm {old new : Row} (becomes : old.Becomes new) : new.Becomes old :=
  ⟨becomes.id.symm, becomes.email.symm, becomes.status.symm, becomes.createdAt.symm,
    becomes.passwordHash.symm⟩

theorem trans {old between new : Row} (first : old.Becomes between)
    (second : between.Becomes new) : old.Becomes new :=
  ⟨second.id.trans first.id, second.email.trans first.email, second.status.trans first.status,
    second.createdAt.trans first.createdAt, second.passwordHash.trans first.passwordHash⟩

theorem withAccount {old new : Row} (becomes : old.Becomes new) {account : Account}
    (fits : old.Becomes { old with account }) : new.Becomes { new with account } :=
  { becomes.symm.trans fits with passwordHash := rfl }

end Row.Becomes

/-- An update that fits into the row which it replaces. Other calls replace none. -/
def Call.Respects (memory : Memory) : Call → Prop
  | .update account => ∃ row ∈ memory.rows, row.Becomes { row with account }
  | _ => True

theorem Call.respects_of_ne {call : Call} (other : call.method ≠ .update) (memory : Memory) :
    call.Respects memory := by
  cases call with
  | update account => exact absurd rfl other
  | _ => trivial

namespace Memory

/-- The same rows at a later time, with others created after them. -/
def Gains (before : Memory) (created : List Row) (after : Memory) : Prop :=
  List.Forall₂ Row.Becomes (before.rows ++ created) after.rows

theorem Gains.refl (memory : Memory) : memory.Gains [] memory := by
  rw [Gains, List.append_nil]
  exact List.forall₂_same.mpr fun row _ => .refl row

theorem Gains.trans {before between after : Memory} {first second : List Row}
    (gains : before.Gains first between) (gainsMore : between.Gains second after) :
    before.Gains (first ++ second) after := by
  have kept : List.Forall₂ Row.Becomes (before.rows ++ first ++ second)
      (between.rows ++ second) :=
    List.rel_append gains (List.forall₂_same.mpr fun row _ => .refl row)
  rw [Gains, ← List.append_assoc]
  refine forall₂_trans ?_ kept gainsMore
  intro old middle new becomes becomesNext
  exact becomes.trans becomesNext

theorem Gains.exists_mem {before after : Memory} {created : List Row}
    (gains : before.Gains created after) {row : Row} (member : row ∈ before.rows ++ created) :
    ∃ later ∈ after.rows, row.Becomes later := by
  rw [Gains] at gains
  generalize before.rows ++ created = rows at gains member
  generalize after.rows = others at gains
  induction gains with
  | nil => cases member
  | cons becomes _ induction =>
      rcases List.mem_cons.mp member with rfl | member
      · exact ⟨_, List.mem_cons_self .., becomes⟩
      · rcases induction member with ⟨later, laterMember, becomes⟩
        exact ⟨later, List.mem_cons_of_mem _ laterMember, becomes⟩

theorem Gains.map_eq {before after : Memory} {created : List Row}
    (gains : before.Gains created after) {Value : Type} {field : Row → Value}
    (kept : ∀ {old new : Row}, old.Becomes new → field new = field old) :
    after.rows.map field = before.rows.map field ++ created.map field := by
  rw [Gains] at gains
  rw [← List.map_append]
  generalize before.rows ++ created = rows at gains ⊢
  generalize after.rows = others at gains ⊢
  induction gains with
  | nil => rfl
  | cons becomes _ induction => rw [List.map_cons, List.map_cons, kept becomes, induction]

theorem gains_insert (memory : Memory) (row : Row) : memory.Gains [row] (memory.insert row) :=
  List.forall₂_same.mpr fun row _ => .refl row

theorem gains_replace {memory : Memory} (ids : memory.Separates Account.id) {account : Account}
    {row : Row} (member : row ∈ memory.rows) (fits : row.Becomes { row with account }) :
    memory.Gains [] (memory.replace account) := by
  rw [Gains, List.append_nil, replace, List.forall₂_map_right_iff, List.forall₂_same]
  intro other otherMember
  by_cases replaced : other.account.id = account.id
  · have same := ids.eq_of_mem otherMember member (replaced.trans fits.id)
    subst same
    rw [if_pos replaced]
    exact fits
  · rw [if_neg replaced]
    exact .refl other

def created (memory : Memory) (freshId : Account.Id) : Call → List Row
  | .create account =>
      match memory.conflict? none account.email account.phoneNumber with
      | some _ => []
      | none => [{ account := account.withId freshId, passwordHash := account.passwordHash }]
  | _ => []

theorem created_of_ne {call : Call} (other : call.method ≠ .create) (memory : Memory)
    (freshId : Account.Id) : memory.created freshId call = [] := by
  cases call with
  | create account => exact absurd rfl other
  | _ => rfl

theorem eq_of_mem_created {memory : Memory} {freshId : Account.Id} {call : Call} {row : Row}
    (member : row ∈ memory.created freshId call) :
    ∃ account, call = .create account ∧
      row = { account := account.withId freshId, passwordHash := account.passwordHash } := by
  cases call with
  | create account =>
      rw [created.eq_def] at member
      dsimp only at member
      split at member
      · cases member
      · exact ⟨account, rfl, List.mem_singleton.mp member⟩
  | _ => cases member

theorem gains_create (memory : Memory) (freshId : Account.Id) (account : NewAccount) :
    memory.Gains (memory.created freshId (.create account))
      (memory.create freshId account).2 := by
  rw [created, create]
  cases memory.conflict? none account.email account.phoneNumber with
  | some field => exact .refl memory
  | none => exact memory.gains_insert _

theorem gains_update {memory : Memory} (ids : memory.Separates Account.id) {account : Account}
    (respects : Call.Respects memory (.update account)) (now : Instant) :
    memory.Gains [] (memory.update now account).2 := by
  rcases respects with ⟨row, member, fits⟩
  rw [update]
  split
  · exact .refl memory
  · split
    · apply gains_replace ids member
      exact ⟨fits.id, fits.email, fits.status, fits.createdAt, rfl⟩
    · exact .refl memory

theorem gains_respond {memory : Memory} (ids : memory.Separates Account.id) {call : Call}
    (respects : call.Respects memory) (now : Instant) (freshId : Account.Id) :
    memory.Gains (memory.created freshId call) (memory.respond now freshId call).2 := by
  cases call with
  | create account => exact memory.gains_create freshId account
  | update account => exact gains_update ids respects now
  | _ => exact .refl memory

def GrowsInto (before after : Memory) : Prop :=
  ∃ created, before.Gains created after

theorem GrowsInto.refl (memory : Memory) : memory.GrowsInto memory :=
  ⟨[], .refl memory⟩

theorem GrowsInto.trans {before between after : Memory} (first : before.GrowsInto between)
    (second : between.GrowsInto after) : before.GrowsInto after := by
  rcases first with ⟨created, gains⟩
  rcases second with ⟨others, gainsMore⟩
  exact ⟨created ++ others, gains.trans gainsMore⟩

theorem GrowsInto.exists_mem {before after : Memory} (grows : before.GrowsInto after) {row : Row}
    (member : row ∈ before.rows) : ∃ later ∈ after.rows, row.Becomes later := by
  rcases grows with ⟨created, gains⟩
  exact gains.exists_mem (List.mem_append_left created member)

end Memory

theorem Call.Respects.later {before after : Memory} {call : Call} (respects : call.Respects before)
    (grows : before.GrowsInto after) : call.Respects after := by
  cases call with
  | update account =>
      rcases respects with ⟨row, member, fits⟩
      rcases grows.exists_mem member with ⟨later, laterMember, becomes⟩
      exact ⟨later, laterMember, becomes.withAccount fits⟩
  | _ => trivial

end Turnstile.Store
