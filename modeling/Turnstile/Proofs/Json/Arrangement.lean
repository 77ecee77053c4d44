import Mathlib.Logic.Relation
import Turnstile.Proofs.Account.Json

/-!
Documents whose members are kept in an order of their keeper's own. What is read from a document
field by field does not depend on that order: so the details of an account read back from any
arrangement of their document.
-/

namespace Turnstile.Json

/-- The members of a single object, somewhere in the document, come in another order. -/
inductive Reordered : Json → Json → Prop where
  | object {members others : List (Content × Json)} (same : members.Perm others) :
      Reordered (object members) (object others)
  | member {value other : Json} (before after : List (Content × Json)) (name : Content)
      (inside : Reordered value other) :
      Reordered (object (before ++ (name, value) :: after))
        (object (before ++ (name, other) :: after))
  | item {value other : Json} (before after : List Json) (inside : Reordered value other) :
      Reordered (array (before ++ value :: after)) (array (before ++ other :: after))

/-- What somebody makes of a document who keeps no order of members. -/
structure Arrangement where
  arrange : Json → Json
  reordered : ∀ json, Relation.ReflTransGen Reordered json (arrange json)

namespace Arrangement

def asWritten : Arrangement where
  arrange := id
  reordered _ := .refl

end Arrangement

/-! ## Fields of a record -/

namespace Record

def Alike (left right : Record) : Prop :=
  ∀ name, left.lookup name = right.lookup name ∨
    ∃ value other, left.lookup name = some value ∧ right.lookup name = some other
      ∧ Reordered value other

theorem alike_of_member {value other : Json} (inside : Reordered value other)
    (before after : Record) (name : String) :
    Alike (before ++ (name, value) :: after) (before ++ (name, other) :: after) := by
  intro wanted
  rw [List.lookup_append, List.lookup_append, List.lookup_cons, List.lookup_cons]
  cases before.lookup wanted with
  | some found => exact .inl rfl
  | none =>
      cases wanted == name with
      | true => exact .inr ⟨value, other, rfl, rfl, inside⟩
      | false => exact .inl rfl

end Record

theorem knownMembers_member (names : List String) (before after : List (Content × Json))
    (name : Content) :
    (∀ value, knownMembers names (before ++ (name, value) :: after) =
        knownMembers names before ++ knownMembers names after)
      ∨ ∃ known, ∀ value, knownMembers names (before ++ (name, value) :: after) =
        knownMembers names before ++ (known, value) :: knownMembers names after := by
  simp only [knownMembers_append]
  cases name with
  | none => exact .inl fun value => rfl
  | some name =>
      by_cases known : names.contains name = true
      · refine .inr ⟨name, fun value => congrArg _ ?_⟩
        exact List.filter_cons_of_pos known
      · refine .inl fun value => congrArg _ ?_
        exact List.filter_cons_of_neg known

theorem zip_item (names : List String) (before after : List Json) :
    (∀ value : Json, names.zip (before ++ value :: after) = names.zip before)
      ∨ ∃ record rest name, ∀ value : Json,
        names.zip (before ++ value :: after) = record ++ (name, value) :: rest := by
  induction before generalizing names with
  | nil =>
      cases names with
      | nil => exact .inl fun value => rfl
      | cons name names => exact .inr ⟨[], names.zip after, name, fun value => rfl⟩
  | cons item before induction =>
      cases names with
      | nil => exact .inl fun value => rfl
      | cons name names =>
          rcases induction names with same | ⟨record, rest, holder, same⟩
          · exact .inl fun value => congrArg ((name, item) :: ·) (same value)
          · exact .inr ⟨(name, item) :: record, rest, holder,
              fun value => congrArg ((name, item) :: ·) (same value)⟩

theorem record?_reordered (names : List String) {json other : Json}
    (reordered : Reordered json other) :
    (json.record? names = none ∧ other.record? names = none)
      ∨ ∃ left right, json.record? names = some left ∧ other.record? names = some right
        ∧ Record.Alike left right := by
  cases reordered with
  | object same =>
      rename_i members others
      have known := knownMembers_of_perm names same
      have distinct : isDistinct ((knownMembers names members).map (·.1)) =
          isDistinct ((knownMembers names others).map (·.1)) := by
        rw [Bool.eq_iff_iff, isDistinct_iff, isDistinct_iff]
        exact (known.map _).nodup_iff
      rw [record?_object, record?_object, distinct, same.all_eq]
      split
      · rename_i accepted
        rw [Bool.and_eq_true, ← distinct, isDistinct_iff] at accepted
        exact .inr ⟨_, _, rfl, rfl, fun name => .inl (lookup_of_perm known accepted.right name)⟩
      · exact .inl ⟨rfl, rfl⟩
  | member before after name inside =>
      rename_i value changed
      rw [record?_object, record?_object]
      simp only [List.all_append, List.all_cons]
      rcases knownMembers_member names before after name with same | ⟨known, same⟩
      · simp only [same]
        split
        · exact .inr ⟨_, _, rfl, rfl, fun name => .inl rfl⟩
        · exact .inl ⟨rfl, rfl⟩
      · simp only [same, List.map_append, List.map_cons]
        split
        · exact .inr ⟨_, _, rfl, rfl, Record.alike_of_member inside _ _ known⟩
        · exact .inl ⟨rfl, rfl⟩
  | item before after inside =>
      simp only [record?, List.length_append, List.length_cons]
      split
      · refine .inr ⟨_, _, rfl, rfl, ?_⟩
        rcases zip_item names before after with same | ⟨record, rest, name, same⟩
        · rw [same, same]
          exact fun name => .inl rfl
        · rw [same, same]
          exact Record.alike_of_member inside record rest name
      · exact .inl ⟨rfl, rfl⟩

/-! ## Reading what is kept -/

def IgnoresOrder {α : Type} (read? : Json → Option α) : Prop :=
  ∀ {json other}, Reordered json other → read? json = read? other

section Readers

variable {α : Type} {read? : Json → Option α}

theorem ignoresOrder_text? : IgnoresOrder text? := by
  intro json other reordered
  cases reordered with
  | object _ => rfl
  | member _ _ _ _ => rfl
  | item _ _ _ => rfl

theorem ignoresOrder_ofText {parse? : String → Option α} :
    IgnoresOrder fun json => json.text?.bind parse? := by
  intro json other reordered
  exact congrArg (Option.bind · parse?) (ignoresOrder_text? reordered)

theorem IgnoresOrder.option? (ignores : IgnoresOrder read?) : IgnoresOrder (option? read?) := by
  intro json other reordered
  have same := ignores reordered
  cases reordered with
  | object _ => exact congrArg (Option.map some) same
  | member _ _ _ _ => exact congrArg (Option.map some) same
  | item _ _ _ => exact congrArg (Option.map some) same

theorem Record.Alike.withDefault {left right : Record} (alike : left.Alike right)
    (ignores : IgnoresOrder read?) (name : String) (default : α) :
    left.withDefault name default read? = right.withDefault name default read? := by
  rw [Record.withDefault, Record.withDefault]
  rcases alike name with same | ⟨value, other, found, foundOther, reordered⟩
  · rw [same]
  · rw [found, foundOther]
    exact ignores reordered

theorem ignoresOrder_ofRecord {names : List String} {ofRecord? : Record → Option α}
    (fields : ∀ left right : Record, left.Alike right → ofRecord? left = ofRecord? right) :
    IgnoresOrder fun json => json.record? names >>= ofRecord? := by
  intro json other reordered
  dsimp only
  rcases record?_reordered names reordered with ⟨left, right⟩ | ⟨left, right, found, other, alike⟩
  · rw [left, right]
  · rw [found, other]
    exact fields left right alike

theorem IgnoresOrder.eq_of_reordered (ignores : IgnoresOrder read?) {json other : Json}
    (reordered : Relation.ReflTransGen Reordered json other) : read? other = read? json := by
  induction reordered with
  | refl => rfl
  | tail _ reordered induction => exact (ignores reordered).symm.trans induction

theorem IgnoresOrder.arrange (ignores : IgnoresOrder read?) (arrangement : Arrangement)
    (json : Json) : read? (arrangement.arrange json) = read? json :=
  ignores.eq_of_reordered (arrangement.reordered json)

end Readers

end Turnstile.Json

namespace Turnstile.Account

open Turnstile.Json Turnstile.Time

theorem Address.ignoresOrder_ofJson? : IgnoresOrder Address.ofJson? := by
  apply ignoresOrder_ofRecord
  intro left right alike
  simp only [alike.withDefault ignoresOrder_text?]

theorem Kyc.ignoresOrder_ofJson? : IgnoresOrder Kyc.ofJson? := by
  have date : IgnoresOrder Date.ofJson? := ignoresOrder_ofText
  have instant : IgnoresOrder Instant.ofJson? := ignoresOrder_ofText
  apply ignoresOrder_ofRecord
  intro left right alike
  simp only [alike.withDefault ignoresOrder_text?, alike.withDefault date.option?,
    alike.withDefault Address.ignoresOrder_ofJson?.option?, alike.withDefault instant.option?]

theorem Meta.ignoresOrder_ofJson? : IgnoresOrder Meta.ofJson? := by
  apply ignoresOrder_ofRecord
  intro left right alike
  simp only [alike.withDefault Kyc.ignoresOrder_ofJson?.option?]

theorem Meta.ofJson?_arrange (arrangement : Arrangement) (details : Meta) :
    Meta.ofJson? (arrangement.arrange details.toJson) = some details := by
  rw [Meta.ignoresOrder_ofJson?.arrange, Meta.ofJson?_toJson]

end Turnstile.Account
