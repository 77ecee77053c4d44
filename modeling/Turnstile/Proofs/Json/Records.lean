import Turnstile.Json.Record

/-!
The fields that a document gives. In an object they are the members whose names are known, and what
is found under a name does not depend on their order.
-/

namespace Turnstile.Json

@[simp] theorem text?_ofString (text : String) : (ofString text).text? = some text := rfl

theorem ofString_ne_null (text : String) : ofString text ≠ null := by
  intro same
  cases same

theorem isDistinct_iff (names : List String) : isDistinct names = true ↔ names.Nodup := by
  induction names with
  | nil => simp [isDistinct]
  | cons name names induction =>
      rw [isDistinct, Bool.and_eq_true, induction, List.nodup_cons, Bool.not_eq_true',
        List.contains_eq_mem, decide_eq_false_iff_not]

theorem lookup_eq_none_of_not_mem {record : Record} {name : String}
    (absent : name ∉ record.map (·.1)) : record.lookup name = none := by
  rw [List.lookup_eq_none_iff]
  intro member inRecord
  rw [bne_iff_ne]
  rintro rfl
  exact absent (List.mem_map_of_mem inRecord)

theorem lookup_eq_some_iff_mem {record : Record} (distinct : (record.map (·.1)).Nodup)
    {name : String} {json : Json} : record.lookup name = some json ↔ (name, json) ∈ record := by
  rw [List.lookup_eq_some_iff]
  constructor
  · rintro ⟨front, back, rfl, -⟩
    exact List.mem_append_right front (List.mem_cons_self ..)
  · intro member
    rcases List.append_of_mem member with ⟨front, back, rfl⟩
    rw [List.map_append, List.map_cons] at distinct
    refine ⟨front, back, rfl, fun other inFront => bne_iff_ne.mpr ?_⟩
    have different := (List.nodup_append.mp distinct).right.right other.1
      (List.mem_map_of_mem inFront) name (List.mem_cons_self ..)
    exact different.symm

theorem lookup_of_perm {left right : Record} (same : left.Perm right)
    (distinct : (left.map (·.1)).Nodup) (name : String) :
    left.lookup name = right.lookup name := by
  apply Option.ext
  intro json
  rw [lookup_eq_some_iff_mem distinct,
    lookup_eq_some_iff_mem ((same.map _).nodup_iff.mp distinct), same.mem_iff]

def knownMembers (names : List String) (members : List (Content × Json)) : Record :=
  (members.filterMap fun (name, value) => name.map (·, value)).filter fun (name, _) =>
    names.contains name

theorem mapM_eq_filterMap {α β : Type} (transform : α → Option β) (values : List α) :
    values.mapM transform =
      if values.all fun value => (transform value).isSome then some (values.filterMap transform)
      else none := by
  induction values with
  | nil => rfl
  | cons value values induction =>
      rw [List.mapM_cons, induction]
      cases transformed : transform value with
      | none => simp [transformed]
      | some result =>
          by_cases rest : values.all fun value => (transform value).isSome
          · simp [transformed, rest]
          · simp [transformed, rest]

theorem record?_object (names : List String) (members : List (Content × Json)) :
    (object members).record? names =
      if (members.all fun (name, _) => name.isSome)
          && isDistinct ((knownMembers names members).map (·.1)) then
        some (knownMembers names members)
      else none := by
  rw [record?, mapM_eq_filterMap]
  simp only [Option.isSome_map, knownMembers]
  by_cases named : members.all fun (name, _) => name.isSome
  · simp [named]
  · simp [named]

theorem knownMembers_append (names : List String) (left right : List (Content × Json)) :
    knownMembers names (left ++ right) = knownMembers names left ++ knownMembers names right := by
  rw [knownMembers, List.filterMap_append, List.filter_append]
  rfl

theorem knownMembers_of_perm (names : List String) {members others : List (Content × Json)}
    (same : members.Perm others) :
    (knownMembers names members).Perm (knownMembers names others) :=
  (same.filterMap _).filter _

theorem knownMembers_named (names : List String) (record : Record) :
    knownMembers names (record.map fun member => (some member.1, member.2)) =
      record.filter fun member => names.contains member.1 := by
  rw [knownMembers, List.filterMap_map]
  exact congrArg (List.filter _) List.filterMap_some

theorem mem_knownMembers {names : List String} {members : List (Content × Json)} {name : String}
    {value : Json} : (name, value) ∈ knownMembers names members ↔
      (some name, value) ∈ members ∧ name ∈ names := by
  simp only [knownMembers, List.mem_filter, List.mem_filterMap, List.contains_eq_mem,
    decide_eq_true_eq, Prod.exists, Option.map_eq_some_iff, Prod.mk.injEq]
  constructor
  · rintro ⟨⟨_, _, member, _, rfl, rfl, rfl⟩, known⟩
    exact ⟨member, known⟩
  · rintro ⟨member, known⟩
    exact ⟨⟨some name, value, member, name, rfl, rfl, rfl⟩, known⟩

end Turnstile.Json
