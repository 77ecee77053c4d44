import Turnstile.Proofs.Store.Arrivals

/-!
The store in memory as a hash table would keep it: rows under keys, in an order that may be another
one after every call. Whatever the order, each row stays under the identifier of its own account,
and every answer is the one that the store gives which keeps its rows in the order of their
creation.
-/

namespace Turnstile.Store

open Turnstile.Time

structure Table where
  entries : List (Account.Id × Row) := []
  deriving DecidableEq

namespace Table

def listed (table : Table) : Memory :=
  { rows := table.entries.map (·.2) }

def row? (table : Table) (key : Account.Id) : Option Row :=
  (table.entries.find? fun entry => entry.1 == key).map (·.2)

def insert (table : Table) (key : Account.Id) (row : Row) : Table :=
  { entries := (key, row) :: table.entries.filter fun entry => entry.1 != key }

def setAccount (table : Table) (key : Account.Id) (account : Account) : Table :=
  { entries := table.entries.map fun entry =>
      if entry.1 = key then (entry.1, { entry.2 with account }) else entry }

def findById (table : Table) (id : Account.Id) : Except Error Account :=
  match table.row? id with
  | some row => .ok row.account
  | none => .error .noRows

def create (table : Table) (id : Account.Id) (account : NewAccount) :
    Except Error Account × Table :=
  match table.listed.conflict? none account.email account.phoneNumber with
  | some field => (.error (.uniqueViolation field), table)
  | none =>
      (.ok (account.withId id),
        table.insert id { account := account.withId id, passwordHash := account.passwordHash })

def update (table : Table) (now : Instant) (account : Account) :
    Except Error Account × Table :=
  match table.listed.conflict? (some account.id) account.email account.phoneNumber with
  | some field => (.error (.uniqueViolation field), table)
  | none =>
      match table.row? account.id with
      | some _ =>
          let stored := { account with updatedAt := now }
          (.ok stored, table.setAccount account.id stored)
      | none => (.error .noRows, table)

/-- Identifiers are looked up by key; everything else goes through the rows one by one. -/
def respond (now : Instant) (freshId : Account.Id) : Dialogue.Responder Call.Answer Table
  | .authenticate email, table => (table.listed.credentials email, table)
  | .create account, table => table.create freshId account
  | .findById id, table => (table.findById id, table)
  | .findByEmail email, table =>
      (table.listed.find fun account => account.email == email, table)
  | .findByPhoneNumber phoneNumber, table =>
      (table.listed.find fun account => account.phoneNumber == phoneNumber, table)
  | .requireVacant email phoneNumber, table =>
      (table.listed.requireVacant email phoneNumber, table)
  | .update account, table => table.update now account

end Table

def Row.entry (row : Row) : Account.Id × Row :=
  (row.account.id, row)

theorem find?_eq_of_perm {α : Type} {left right : List α} {wanted : α → Bool}
    (same : left.Perm right)
    (single : ∀ first ∈ left, ∀ second ∈ left, wanted first → wanted second → first = second) :
    left.find? wanted = right.find? wanted := by
  cases found : right.find? wanted with
  | none =>
      rw [List.find?_eq_none] at found ⊢
      intro value member
      exact found value (same.subset member)
  | some value =>
      cases first : left.find? wanted with
      | none =>
          have unwanted := List.find?_eq_none.mp first value
            (same.symm.subset (List.mem_of_find?_eq_some found))
          exact absurd (List.find?_some found) unwanted
      | some other =>
          exact congrArg some
            (single other (List.mem_of_find?_eq_some first) value
              (same.symm.subset (List.mem_of_find?_eq_some found)) (List.find?_some first)
              (List.find?_some found))

namespace Memory

variable {left right : Memory}

theorem conflict?_of_perm (same : left.rows.Perm right.rows) (skipped : Option Account.Id)
    (email phoneNumber : String) :
    left.conflict? skipped email phoneNumber = right.conflict? skipped email phoneNumber := by
  simp only [conflict?_eq, same.mem_iff]

theorem Separates.find?_of_perm {Value : Type} [DecidableEq Value] {field : Account → Value}
    (separate : left.Separates field) (same : left.rows.Perm right.rows) (value : Value) :
    left.rows.find? (fun row => field row.account == value) =
      right.rows.find? (fun row => field row.account == value) := by
  apply find?_eq_of_perm same
  intro first firstMember second secondMember firstWanted secondWanted
  exact separate.eq_of_mem firstMember secondMember
    ((eq_of_beq firstWanted).trans (eq_of_beq secondWanted).symm)

end Memory

namespace Table

/-- The table has the rows of the store, each under the identifier of its account. -/
def Holds (table : Table) (memory : Memory) : Prop :=
  table.entries.Perm (memory.rows.map Row.entry)

theorem holds_empty : Holds {} {} := .nil

section Calls

variable {table : Table} {memory : Memory}

theorem Holds.key_eq (holds : table.Holds memory) {entry : Account.Id × Row}
    (member : entry ∈ table.entries) : entry.1 = entry.2.account.id := by
  rcases List.mem_map.mp (holds.subset member) with ⟨row, -, rfl⟩
  rfl

theorem Holds.listed (holds : table.Holds memory) : memory.rows.Perm table.listed.rows := by
  have same := (holds.map fun entry : Account.Id × Row => entry.2).symm
  rw [List.map_map] at same
  exact (List.Perm.of_eq (List.map_id' memory.rows).symm).trans same

theorem Holds.row?_eq (holds : table.Holds memory) (unique : memory.IsUnique)
    (id : Account.Id) :
    table.row? id = memory.rows.find? fun row => row.account.id == id := by
  have found : (memory.rows.map Row.entry).find? (fun entry => entry.1 == id) =
      table.entries.find? fun entry => entry.1 == id := by
    apply find?_eq_of_perm holds.symm
    intro first firstMember second secondMember firstWanted secondWanted
    rcases List.mem_map.mp firstMember with ⟨left, leftMember, rfl⟩
    rcases List.mem_map.mp secondMember with ⟨right, rightMember, rfl⟩
    exact congrArg Row.entry (unique.ids.eq_of_mem leftMember rightMember
      ((eq_of_beq firstWanted).trans (eq_of_beq secondWanted).symm))
  rw [row?, ← found, List.find?_map, Option.map_map]
  exact Option.map_id'

theorem Holds.insert (holds : table.Holds memory) (row : Row)
    (free : ∀ other ∈ memory.rows, other.account.id ≠ row.account.id) :
    (table.insert row.account.id row).Holds (memory.insert row) := by
  have kept : (table.entries.filter fun entry => entry.1 != row.account.id) = table.entries := by
    rw [List.filter_eq_self]
    intro entry member
    rcases List.mem_map.mp (holds.subset member) with ⟨other, otherMember, rfl⟩
    exact bne_iff_ne.mpr (free other otherMember)
  rw [Holds, Table.insert, Memory.insert, kept, List.map_append]
  exact (List.Perm.cons _ holds).trans (List.perm_append_singleton ..).symm

theorem Holds.setAccount (holds : table.Holds memory) (account : Account) :
    (table.setAccount account.id account).Holds (memory.replace account) := by
  have same := holds.map fun entry : Account.Id × Row =>
    if entry.1 = account.id then (entry.1, { entry.2 with account }) else entry
  rw [Holds, Table.setAccount, Memory.replace, List.map_map]
  refine same.trans (List.Perm.of_eq ?_)
  rw [List.map_map]
  apply List.map_congr_left
  intro row _
  by_cases replaced : row.account.id = account.id
  · simp [Row.entry, replaced]
  · simp [Row.entry, replaced]

theorem Holds.create (holds : table.Holds memory) {id : Account.Id}
    (free : ∀ row ∈ memory.rows, row.account.id ≠ id) (account : NewAccount) :
    (table.create id account).1 = (memory.create id account).1 ∧
      (table.create id account).2.Holds (memory.create id account).2 := by
  rw [Table.create, Memory.create, ← Memory.conflict?_of_perm holds.listed]
  cases memory.conflict? none account.email account.phoneNumber with
  | some field => exact ⟨rfl, holds⟩
  | none => exact ⟨rfl, holds.insert ⟨account.withId id, account.passwordHash⟩ free⟩

theorem Holds.update (holds : table.Holds memory) (unique : memory.IsUnique) (now : Instant)
    (account : Account) :
    (table.update now account).1 = (memory.update now account).1 ∧
      (table.update now account).2.Holds (memory.update now account).2 := by
  rw [Table.update, Memory.update, ← Memory.conflict?_of_perm holds.listed,
    holds.row?_eq unique]
  cases memory.conflict? (some account.id) account.email account.phoneNumber with
  | some field => exact ⟨rfl, holds⟩
  | none =>
      dsimp only
      rw [← List.isSome_find?]
      cases memory.rows.find? fun row => row.account.id == account.id with
      | none => exact ⟨rfl, holds⟩
      | some row => exact ⟨rfl, holds.setAccount { account with updatedAt := now }⟩

theorem Holds.respond (holds : table.Holds memory) (unique : memory.IsUnique) (now : Instant)
    {freshId : Account.Id} {call : Call} (fresh : memory.IsFresh freshId call) :
    (table.respond now freshId call).1 = (Memory.respond now freshId call memory).1 ∧
      (Table.respond now freshId call table).2.Holds
        (Memory.respond now freshId call memory).2 := by
  have same := holds.listed
  cases call with
  | authenticate email =>
      refine ⟨?_, holds⟩
      change table.listed.credentials email = memory.credentials email
      rw [Memory.credentials, Memory.credentials, unique.emails.find?_of_perm same]
  | create account => exact holds.create (fresh rfl) account
  | findById id =>
      refine ⟨?_, holds⟩
      change table.findById id = memory.find fun account => account.id == id
      rewrite [Table.findById, Memory.find, holds.row?_eq unique]
      rfl
  | findByEmail email =>
      refine ⟨?_, holds⟩
      change (table.listed.find fun account => account.email == email) =
        memory.find fun account => account.email == email
      rw [Memory.find, Memory.find, unique.emails.find?_of_perm same]
  | findByPhoneNumber phoneNumber =>
      refine ⟨?_, holds⟩
      change (table.listed.find fun account => account.phoneNumber == phoneNumber) =
        memory.find fun account => account.phoneNumber == phoneNumber
      rw [Memory.find, Memory.find, unique.phoneNumbers.find?_of_perm same]
  | requireVacant email phoneNumber =>
      refine ⟨?_, holds⟩
      change table.listed.requireVacant _ _ = memory.requireVacant _ _
      rw [Memory.requireVacant, Memory.requireVacant, Memory.conflict?_of_perm same]
  | update account => exact holds.update unique now account

theorem Holds.answersFor (holds : table.Holds memory) (unique : memory.IsUnique) (now : Instant)
    (freshId : Account.Id) :
    AnswersFor memory.rows fun call => (table.respond now freshId call).1 := by
  apply (unique.answersFor now freshId).congr
  intro call read
  apply And.left (holds.respond unique now _)
  intro creation
  cases call with
  | create account => cases read
  | _ => cases creation

theorem Holds.isUnique (holds : table.Holds memory) (unique : memory.IsUnique) :
    table.listed.IsUnique where
  ids := unique.ids.of_perm holds.listed
  emails := unique.emails.of_perm holds.listed
  phoneNumbers := unique.phoneNumbers.of_perm holds.listed

theorem Holds.length_eq (holds : table.Holds memory) : table.entries.length = memory.size := by
  rw [List.Perm.length_eq holds, List.length_map, Memory.size]

end Calls

def after (table : Table) (arrival : Arrival) : Table :=
  (table.respond arrival.now arrival.freshId arrival.call).2

/-- How a table may come about: call by call, and its entries may come into another order at any
time. -/
inductive Run : Table → List Arrival → Table → Prop
  | done (table : Table) : Run table [] table
  | call {table final : Table} {arrival : Arrival} {arrivals : List Arrival}
      (rest : Run (table.after arrival) arrivals final) : Run table (arrival :: arrivals) final
  | reorder {table other final : Table} {arrivals : List Arrival}
      (same : table.entries.Perm other.entries) (rest : Run other arrivals final) :
      Run table arrivals final

theorem Run.holds {table final : Table} {arrivals : List Arrival}
    (run : Run table arrivals final) {memory : Memory} (holds : table.Holds memory)
    (unique : memory.IsUnique) (fresh : memory.AllFresh arrivals) :
    final.Holds (memory.afterAll arrivals) := by
  induction run generalizing memory with
  | done table => exact holds
  | call rest induction =>
      apply induction
      · exact (holds.respond unique _ fresh.left).right
      · exact unique.respond _ fresh.left
      · exact fresh.right
  | reorder same rest induction => exact induction (same.symm.trans holds) unique fresh

/-- Whatever calls have come to an empty store, its rows are under their own identifiers and apart
from each other, there are as many as have been created, and each look-up has the one answer that
they call for, in whatever order the rows stand. -/
theorem rows_stay_apart {arrivals : List Arrival} {table : Table}
    (fresh : Memory.AllFresh {} arrivals) (run : Run {} arrivals table) :
    let memory := Memory.afterAll {} arrivals
    (∀ entry ∈ table.entries, entry.1 = entry.2.account.id) ∧
      table.Holds memory ∧
      table.listed.IsUnique ∧ memory.IsUnique ∧
      table.entries.length = Memory.creations {} arrivals ∧
      memory.size = Memory.creations {} arrivals ∧
      ∀ now freshId,
        AnswersFor memory.rows (fun call => (table.respond now freshId call).1) ∧
        AnswersFor memory.rows (fun call => (Memory.respond now freshId call memory).1) := by
  have unique := Memory.isUnique_empty.afterAll fresh
  have holds := run.holds holds_empty Memory.isUnique_empty fresh
  have size : (Memory.afterAll {} arrivals).size = Memory.creations {} arrivals :=
    (Memory.size_afterAll {} arrivals).trans (Nat.zero_add _)
  refine ⟨fun entry member => holds.key_eq member, holds, holds.isUnique unique, unique,
    holds.length_eq.trans size, size, fun now freshId => ⟨?_, ?_⟩⟩
  · exact holds.answersFor unique now freshId
  · exact unique.answersFor now freshId

def newcomer (email phoneNumber : String) : NewAccount :=
  { name := "Ada", email, phoneNumber, passwordHash := "", status := .active, details := {}
    createdAt := .epoch, updatedAt := .epoch }

/-- The second creation is refused for its email, and the update gives up the phone number 1. -/
def visits : List Arrival :=
  [⟨.create (newcomer "ada@example.com" "1"), .epoch, .ofNat 1⟩,
   ⟨.create (newcomer "ada@example.com" "2"), .epoch, .ofNat 2⟩,
   ⟨.create (newcomer "bob@example.com" "2"), .epoch, .ofNat 2⟩,
   ⟨.update ((newcomer "ada@example.com" "3").withId (.ofNat 1)), .epoch, .ofNat 3⟩]

def visited : Table :=
  { entries :=
      [(.ofNat 1, ⟨(newcomer "ada@example.com" "3").withId (.ofNat 1), ""⟩),
       (.ofNat 2, ⟨(newcomer "bob@example.com" "2").withId (.ofNat 2), ""⟩)] }

theorem visited_stays_apart :
    Memory.AllFresh {} visits ∧ Run {} visits visited ∧ visited.listed.IsUnique ∧
      visited.entries.length = Memory.creations {} visits ∧
      (visited.respond .epoch (.ofNat 0) (.findByPhoneNumber "1")).1 = .error .noRows := by
  have fresh : Memory.AllFresh {} visits := by decide +kernel
  have run : Run {} visits visited :=
    .call (.call (.call (.call (.reorder (by decide +kernel) (.done visited)))))
  rcases rows_stay_apart fresh run with ⟨-, -, apart, -, length, -, answers⟩
  refine ⟨fresh, run, apart, length, ?_⟩
  apply (answers .epoch (.ofNat 0)).left.unknownPhoneNumber
  decide +kernel

end Table

end Turnstile.Store
