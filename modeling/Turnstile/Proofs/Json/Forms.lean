import Mathlib.Data.List.Forall2
import Turnstile.Proofs.Json.Records

/-!
The many documents of one record. As an object it may have its members in any order and others
among them that nobody asks for, and it may lack a member whose field holds its default. As an array
it has the values in the order of the fields. Whatever document is read, each field is found with
one of the documents of its value, or it is not found and holds its default.
-/

namespace Turnstile.Json

/-- A field with a value: the documents that stand for the value, and whether it is the default of
the field, so that nothing needs to be written. -/
structure Field where
  name : String
  IsForm : Json → Prop
  isSpare : Prop

/-- The record has the fields in their order, but for some that may be left out. -/
inductive Gives : List Field → Record → Prop
  | nothing : Gives [] []
  | given {field : Field} {fields : List Field} {json : Json} {record : Record}
      (form : field.IsForm json) (more : Gives fields record) :
      Gives (field :: fields) ((field.name, json) :: record)
  | leftOut {field : Field} {fields : List Field} {record : Record} (spare : field.isSpare)
      (more : Gives fields record) : Gives (field :: fields) record

inductive IsRecordOf (fields : List Field) : Json → Prop
  | object {record others : Record} {members : List (Content × Json)} (gives : Gives fields record)
      (unknown : ∀ other ∈ others, other.1 ∉ fields.map Field.name)
      (arranged : members.Perm ((record ++ others).map fun member => (some member.1, member.2))) :
      IsRecordOf fields (object members)
  | array {items : List Json} (forms : List.Forall₂ Field.IsForm fields items) :
      IsRecordOf fields (array items)

def Record.Answers (record : Record) (field : Field) : Prop :=
  match record.lookup field.name with
  | none => field.isSpare
  | some json => field.IsForm json

theorem Gives.sublist {fields : List Field} {record : Record} (gives : Gives fields record) :
    (record.map (·.1)).Sublist (fields.map Field.name) := by
  induction gives with
  | nothing => exact .slnil
  | given _ _ induction => exact induction.cons_cons _
  | leftOut _ _ induction => exact induction.cons _

theorem Gives.answers {fields : List Field} {record : Record} (gives : Gives fields record)
    (distinct : (fields.map Field.name).Nodup) : ∀ field ∈ fields, record.Answers field := by
  induction gives with
  | nothing =>
      intro field member
      cases member
  | @given first fields json record form more induction =>
      rw [List.map_cons, List.nodup_cons] at distinct
      intro field member
      rcases List.mem_cons.mp member with rfl | member
      · rw [Record.Answers, List.lookup_cons_self]
        exact form
      · have different : field.name ≠ first.name := by
          intro same
          exact distinct.left (same ▸ List.mem_map_of_mem member)
        rw [Record.Answers, List.lookup_cons, beq_eq_false_iff_ne.mpr different]
        exact induction distinct.right field member
  | @leftOut first fields record spare more induction =>
      rw [List.map_cons, List.nodup_cons] at distinct
      intro field member
      rcases List.mem_cons.mp member with rfl | member
      · have absent : field.name ∉ record.map (·.1) :=
          fun inRecord => distinct.left (more.sublist.subset inRecord)
        rw [Record.Answers, lookup_eq_none_of_not_mem absent]
        exact spare
      · exact induction distinct.right field member

theorem gives_of_forall₂ {fields : List Field} {items : List Json}
    (forms : List.Forall₂ Field.IsForm fields items) :
    Gives fields ((fields.map Field.name).zip items) := by
  induction forms with
  | nil => exact .nothing
  | cons form _ induction => exact .given form induction

theorem knownMembers_perm {fields : List Field} {record others : Record}
    {members : List (Content × Json)} (gives : Gives fields record)
    (unknown : ∀ other ∈ others, other.1 ∉ fields.map Field.name)
    (arranged : members.Perm ((record ++ others).map fun member => (some member.1, member.2))) :
    (knownMembers (fields.map Field.name) members).Perm record := by
  have known : (record ++ others).filter (fun member => (fields.map Field.name).contains member.1) =
      record := by
    rw [List.filter_append, List.filter_eq_self.mpr, List.filter_eq_nil_iff.mpr, List.append_nil]
    · intro other member
      simpa using unknown other member
    · intro member inRecord
      simpa using gives.sublist.subset (List.mem_map_of_mem inRecord)
  have perm := knownMembers_of_perm (fields.map Field.name) arranged
  rwa [knownMembers_named, known] at perm

theorem IsRecordOf.exists_record {fields : List Field} {json : Json}
    (isRecord : IsRecordOf fields json) (distinct : (fields.map Field.name).Nodup) :
    ∃ record, json.record? (fields.map Field.name) = some record ∧
      ∀ field ∈ fields, record.Answers field := by
  cases isRecord with
  | @object record others members gives unknown arranged =>
      have perm := knownMembers_perm gives unknown arranged
      have namesDistinct : ((knownMembers (fields.map Field.name) members).map (·.1)).Nodup :=
        (perm.map _).nodup_iff.mpr (gives.sublist.nodup distinct)
      refine ⟨knownMembers (fields.map Field.name) members, ?_, fun field member => ?_⟩
      · rw [record?_object, if_pos]
        rw [Bool.and_eq_true, isDistinct_iff, List.all_eq_true]
        refine ⟨fun member inMembers => ?_, namesDistinct⟩
        rcases List.mem_map.mp (arranged.mem_iff.mp inMembers) with ⟨_, _, rfl⟩
        rfl
      · rw [Record.Answers, lookup_of_perm perm namesDistinct]
        exact gives.answers distinct field member
  | @array items forms =>
      refine ⟨_, ?_, (gives_of_forall₂ forms).answers distinct⟩
      rw [record?, List.length_map, if_pos (Nat.le_of_eq (List.Forall₂.length_eq forms).symm)]

theorem isRecordOf_ofMembers {fields : List Field} {record : Record} (gives : Gives fields record) :
    IsRecordOf fields (ofMembers record) := by
  refine @IsRecordOf.object fields record [] _ gives (fun other member => ?_) ?_
  · cases member
  · rw [List.append_nil]

/-! ## Kinds of fields -/

def IsOptionForm {α : Type} (IsForm : α → Json → Prop) : Option α → Json → Prop
  | none, json => json = null
  | some value, json => IsForm value json

namespace Field

def written (name : String) (document : Json) : Field where
  name
  IsForm json := json = document
  isSpare := False

/-- A text that is left out only if it is empty. -/
def spareText (name text : String) : Field where
  name
  IsForm json := json = ofString text
  isSpare := text = ""

def option {α : Type} (name : String) (IsForm : α → Json → Prop) (value : Option α) : Field where
  name
  IsForm := IsOptionForm IsForm value
  isSpare := value = none

end Field

theorem Field.isForm_option {α : Type} {name : String} {IsForm : α → Json → Prop}
    {toJson : α → Json} (forms : ∀ value, IsForm value (toJson value)) (value : Option α) :
    (Field.option name IsForm value).IsForm (ofOption toJson value) := by
  cases value with
  | none => exact rfl
  | some value => exact forms value

theorem IsOptionForm.option?_eq {α : Type} {IsForm : α → Json → Prop} {read? : Json → Option α}
    (reads : ∀ {value json}, IsForm value json → read? json = some value ∧ json ≠ null)
    {value : Option α} {json : Json} (form : IsOptionForm IsForm value json) :
    option? read? json = some value := by
  cases value with
  | none =>
      rw [show json = null from form]
      rfl
  | some value =>
      rcases reads form with ⟨read, notNull⟩
      rw [option?, read, Option.map_some]
      exact notNull

theorem IsRecordOf.ne_null {fields : List Field} {json : Json} (isRecord : IsRecordOf fields json) :
    json ≠ null := by
  rintro rfl
  cases isRecord

namespace Record.Answers

variable {α : Type} {record : Record} {name : String} {IsForm : Json → Prop} {isSpare : Prop}
  {read? : Json → Option α} {value : α}

theorem withDefault (answers : record.Answers ⟨name, IsForm, isSpare⟩)
    (reads : ∀ {json}, IsForm json → read? json = some value) {default : α}
    (spare : isSpare → value = default) : record.withDefault name default read? = some value := by
  rw [Answers] at answers
  rw [Record.withDefault]
  split at answers
  · rename_i found
    rw [found, spare answers]
  · rename_i json found
    rw [found]
    exact reads answers

theorem required (answers : record.Answers ⟨name, IsForm, False⟩)
    (reads : ∀ {json}, IsForm json → read? json = some value) :
    record.required name read? = some value := by
  rw [Answers] at answers
  rw [Record.required]
  split at answers
  · exact answers.elim
  · rename_i json found
    rw [found]
    exact reads answers

theorem written {document : Json} (answers : record.Answers (.written name document))
    (read : read? document = some value) : record.required name read? = some value := by
  refine answers.required fun form => ?_
  rw [show _ = document from form, read]

theorem spareText {text : String} (answers : record.Answers (.spareText name text)) :
    record.withDefault name "" text? = some text := by
  refine answers.withDefault (fun form => ?_) fun empty => empty
  rw [show _ = ofString text from form, text?_ofString]

theorem option {IsForm : α → Json → Prop} {value : Option α}
    (answers : record.Answers (.option name IsForm value))
    (reads : ∀ {value json}, IsForm value json → read? json = some value ∧ json ≠ null) :
    record.withDefault name none (option? read?) = some value :=
  answers.withDefault (fun form => IsOptionForm.option?_eq reads form) fun absent => absent

end Record.Answers

/-! ## What is no record -/

/-- The value stands where the document has the field of that name. -/
inductive HasField (names : List String) (name : String) (value : Json) : Json → Prop
  | member {members : List (Content × Json)} (member : (some name, value) ∈ members) :
      HasField names name value (object members)
  | item {items : List Json} (position : (name, value) ∈ names.zip items) :
      HasField names name value (array items)

theorem sublist_map_fst_zip (names : List String) (items : List Json) :
    ((names.zip items).map (·.1)).Sublist names := by
  induction names generalizing items with
  | nil => exact .slnil
  | cons name names induction =>
      cases items with
      | nil => exact List.nil_sublist _
      | cons item items => exact (induction items).cons_cons name

theorem lookup_eq_some_iff {names : List String} (distinct : names.Nodup) {json : Json}
    {record : Record} (found : json.record? names = some record) {name : String}
    (known : name ∈ names) {value : Json} :
    record.lookup name = some value ↔ HasField names name value json := by
  cases json with
  | object members =>
      rw [record?_object] at found
      split at found
      · rename_i accepted
        cases found
        rw [Bool.and_eq_true, isDistinct_iff] at accepted
        rw [lookup_eq_some_iff_mem accepted.right, mem_knownMembers]
        constructor
        · exact fun both => .member both.left
        · rintro (member | _)
          exact ⟨member, known⟩
      · cases found
  | array items =>
      rw [record?] at found
      split at found
      · cases found
        rw [lookup_eq_some_iff_mem ((sublist_map_fst_zip names items).nodup distinct)]
        constructor
        · exact .item
        · rintro (_ | position)
          exact position
      · cases found
  | null => cases found
  | bool _ => cases found
  | number _ => cases found
  | string _ => cases found

theorem record?_of_repeated {names : List String} {name : String} (known : name ∈ names)
    (first second : Json) (front middle back : List (Content × Json)) :
    (object (front ++ (some name, first) :: middle ++ (some name, second) :: back)).record? names =
      none := by
  rw [record?_object, if_neg]
  rw [Bool.and_eq_true, isDistinct_iff]
  rintro ⟨-, distinct⟩
  have shown (value : Json) (rest : List (Content × Json)) :
      knownMembers names ((some name, value) :: rest) = (name, value) :: knownMembers names rest :=
    List.filter_cons_of_pos (List.contains_iff_mem.mpr known)
  rw [List.append_assoc, knownMembers_append, List.cons_append, shown, knownMembers_append, shown,
    List.map_append, List.map_cons, List.map_append, List.map_cons] at distinct
  have again := (List.nodup_cons.mp (List.nodup_append.mp distinct).right.left).left
  exact again (List.mem_append_right _ (List.mem_cons_self ..))

theorem record?_of_nameless {names : List String} {value : Json}
    {members : List (Content × Json)} (member : (none, value) ∈ members) :
    (object members).record? names = none := by
  rw [record?_object, if_neg]
  rw [Bool.and_eq_true, List.all_eq_true]
  rintro ⟨named, -⟩
  cases named _ member

end Turnstile.Json
