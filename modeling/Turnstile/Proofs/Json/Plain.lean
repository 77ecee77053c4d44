import Mathlib.Data.List.Nodup
import Turnstile.Json.Plain
import Turnstile.Proofs.Json.Arrangement

/-!
Documents that a database keeps as they are. Such a document holds nothing that a database has no
use for, in whatever order its members come, and the details of every account are one.
-/

namespace Turnstile.Json

/-- Strings and names are text, numbers are finite, no object has a name twice, and no more values
than the number given are nested in one another. -/
inductive IsPlain : Nat → Json → Prop
  | null {depth : Nat} : IsPlain depth null
  | bool {depth : Nat} (value : Bool) : IsPlain depth (bool value)
  | number {depth : Nat} {value : Number} (finite : value.isFinite = true) :
      IsPlain depth (number value)
  | string {depth : Nat} (text : String) : IsPlain depth (ofString text)
  | array {depth : Nat} {items : List Json} (plain : ∀ item ∈ items, IsPlain depth item) :
      IsPlain (depth + 1) (array items)
  | object {depth : Nat} {members : List (Content × Json)}
      (distinct : (members.map (·.1)).Nodup) (named : ∀ member ∈ members, member.1 ≠ none)
      (plain : ∀ member ∈ members, IsPlain depth member.2) : IsPlain (depth + 1) (object members)

/-! ## Nothing is dropped -/

theorem nodup_named_iff (record : Record) :
    ((record.map fun member => ((some member.1 : Content), member.2)).map (·.1)).Nodup ↔
      (record.map (·.1)).Nodup := by
  have names : (record.map fun member => ((some member.1 : Content), member.2)).map (·.1) =
      (record.map (·.1)).map some := by
    rw [List.map_map, List.map_map]
    rfl
  rw [names, List.nodup_map_iff (Option.some_injective String)]

theorem lastMembers_eq_self {α : Type} {members : List (String × α)}
    (distinct : (members.map (·.1)).Nodup) : lastMembers members = members := by
  induction members with
  | nil => rfl
  | cons member members induction =>
      rw [List.map_cons, List.nodup_cons] at distinct
      have once : (members.any fun other => other.1 == member.1) = false := by
        rw [List.any_eq_false]
        intro other inside same
        exact distinct.left (List.mem_map.mpr ⟨other, inside, eq_of_beq same⟩)
      rw [lastMembers, once, induction distinct.right]
      rfl

theorem plainItems?_eq_some {depth : Nat} {items : List Json}
    (plain : ∀ item ∈ items, plain? depth item = some item) :
    plainItems? depth items = some items := by
  induction items with
  | nil => rw [plainItems?]
  | cons item items induction =>
      rcases List.forall_mem_cons.mp plain with ⟨first, rest⟩
      rw [plainItems?, first, induction rest]
      rfl

theorem exists_plainMembers? {depth : Nat} {members : List (Content × Json)}
    (named : ∀ member ∈ members, member.1 ≠ none)
    (plain : ∀ member ∈ members, plain? depth member.2 = some member.2) :
    ∃ record : Record, plainMembers? depth members = some record ∧
      members = record.map fun member => (some member.1, member.2) := by
  induction members with
  | nil => exact ⟨[], by rw [plainMembers?], rfl⟩
  | cons member members induction =>
      rcases List.forall_mem_cons.mp named with ⟨isNamed, restNamed⟩
      rcases List.forall_mem_cons.mp plain with ⟨isPlain, restPlain⟩
      rcases induction restNamed restPlain with ⟨record, found, rfl⟩
      rcases member with ⟨_ | name, value⟩
      · exact absurd rfl isNamed
      · refine ⟨(name, value) :: record, ?_, rfl⟩
        rw [plainMembers?, isPlain, found]
        rfl

theorem IsPlain.plain?_eq_some {depth : Nat} {json : Json} (plain : IsPlain depth json) :
    plain? depth json = some json := by
  induction plain with
  | null => rw [plain?]
  | bool value => rw [plain?]
  | number finite => rw [plain?, if_pos finite]
  | string text => rw [ofString, plain?, Option.map_some, ofString]
  | array _ induction => rw [plain?, plainItems?_eq_some induction, Option.map_some]
  | object distinct named _ induction =>
      rcases exists_plainMembers? named induction with ⟨record, found, rfl⟩
      rw [plain?, found, Option.map_some,
        lastMembers_eq_self ((nodup_named_iff record).mp distinct)]
      rfl

/-! ## The order makes no difference -/

theorem Reordered.isPlain {json other : Json} (reordered : Reordered json other) {depth : Nat}
    (plain : IsPlain depth json) : IsPlain depth other := by
  induction reordered generalizing depth with
  | object same =>
      cases plain with
      | object distinct named plain =>
          refine .object ((same.map _).nodup_iff.mp distinct) ?_ ?_
          · intro member inside
            exact named member (same.mem_iff.mpr inside)
          · intro member inside
            exact plain member (same.mem_iff.mpr inside)
  | member before after name _ induction =>
      cases plain with
      | object distinct named plain =>
          simp only [List.map_append, List.map_cons, List.forall_mem_append,
            List.forall_mem_cons] at distinct named plain
          rcases plain with ⟨plainBefore, plainValue, plainAfter⟩
          refine .object ?_ ?_ ?_
          · simpa only [List.map_append, List.map_cons] using distinct
          · simpa only [List.forall_mem_append, List.forall_mem_cons] using named
          · simp only [List.forall_mem_append, List.forall_mem_cons]
            exact ⟨plainBefore, induction plainValue, plainAfter⟩
  | item before after _ induction =>
      cases plain with
      | array plain =>
          simp only [List.forall_mem_append, List.forall_mem_cons] at plain
          rcases plain with ⟨plainBefore, plainValue, plainAfter⟩
          refine .array ?_
          simp only [List.forall_mem_append, List.forall_mem_cons]
          exact ⟨plainBefore, induction plainValue, plainAfter⟩

theorem IsPlain.of_reordered {depth : Nat} {json other : Json} (plain : IsPlain depth json)
    (reordered : Relation.ReflTransGen Reordered json other) : IsPlain depth other := by
  induction reordered with
  | refl => exact plain
  | tail _ last induction => exact last.isPlain induction

/-! ## What is written of details -/

theorem isPlain_ofMembers {depth : Nat} {record : Record} (distinct : (record.map (·.1)).Nodup)
    (plain : ∀ member ∈ record, IsPlain depth member.2) :
    IsPlain (depth + 1) (ofMembers record) := by
  refine .object ((nodup_named_iff record).mpr distinct) ?_ ?_
  · rw [List.forall_mem_map]
    intro member _ nameless
    cases nameless
  · rwa [List.forall_mem_map]

theorem isPlain_ofOption {α : Type} {depth : Nat} {toJson : α → Json}
    (plain : ∀ value, IsPlain depth (toJson value)) (value : Option α) :
    IsPlain depth (ofOption toJson value) := by
  cases value with
  | none => exact .null
  | some value => exact plain value

end Turnstile.Json

namespace Turnstile.Account

open Turnstile.Json

theorem Address.isPlain_toJson (depth : Nat) (address : Address) :
    IsPlain (depth + 1) address.toJson := by
  apply isPlain_ofMembers
  · show Address.fieldNames.Nodup
    decide
  · simp only [List.forall_mem_cons]
    exact ⟨.string _, .string _, .string _, .string _, .string _, .string _,
      fun _ member => by cases member⟩

theorem Kyc.isPlain_toJson (depth : Nat) (kyc : Kyc) : IsPlain (depth + 2) kyc.toJson := by
  apply isPlain_ofMembers
  · show Kyc.fieldNames.Nodup
    decide
  · simp only [List.forall_mem_cons]
    exact ⟨.string _, .string _, isPlain_ofOption (fun _ => .string _) _,
      isPlain_ofOption (Address.isPlain_toJson depth) _, isPlain_ofOption (fun _ => .string _) _,
      fun _ member => by cases member⟩

theorem Meta.isPlain_toJson (depth : Nat) (details : Meta) :
    IsPlain (depth + 3) details.toJson := by
  apply isPlain_ofMembers
  · show Meta.fieldNames.Nodup
    decide
  · simp only [List.forall_mem_cons]
    exact ⟨isPlain_ofOption (Kyc.isPlain_toJson depth) _, fun _ member => by cases member⟩

end Turnstile.Account
