import Turnstile.Proofs.Account.JsonText

/-!
Accounts as others may write them. Every record in a document, the account, its metadata, and so on
down to the address, may have its members in an order of its own, members that nobody here knows
and gaps where a default stands, or it may be an array; all of these are read as the same value. A
document that has a field twice, or lacks one that has no default, is not read at all.
-/

namespace Turnstile

open Turnstile.Json Turnstile.Text Turnstile.Time

namespace Json

section Reading

variable {α : Type} {record : Record} {name : String} {read? : Json → Option α} {value : α}
  {json : Json}

theorem read_of_required (read : record.required name read? = some value)
    (found : record.lookup name = some json) : read? json = some value := by
  rwa [Record.required, found] at read

theorem lookup_ne_none_of_required (read : record.required name read? = some value) :
    record.lookup name ≠ none := by
  intro absent
  rw [Record.required, absent] at read
  cases read

theorem read_of_withDefault {default : α}
    (read : record.withDefault name default read? = some value)
    (found : record.lookup name = some json) : read? json = some value := by
  rwa [Record.withDefault, found] at read

theorem null_or_of_option? {value : Option α} (read : option? read? json = some value) :
    json = null ∨ read? json ≠ none := by
  cases json with
  | null => exact .inl rfl
  | _ =>
      refine .inr fun failed => ?_
      rw [option?, failed] at read
      · cases read
      · exact fun same => by cases same

end Reading

end Json

namespace Json.Shape

def IsForm : (shape : Shape) → shape.Value → Json → Prop
  | id => fun id json => json = id.toJson
  | status => Account.Status.IsForm
  | address => Account.Address.IsForm
  | kyc => Account.Kyc.IsForm
  | details => Account.Meta.IsForm
  | account => Account.IsForm
  | claims => Token.Claims.IsForm

variable {shape : Shape}

theorem isForm_toJson (value : shape.Value) : shape.IsForm value (shape.toJson value) := by
  cases shape with
  | id => exact rfl
  | status => exact .name
  | address => exact Account.Address.isForm_toJson value
  | kyc => exact Account.Kyc.isForm_toJson value
  | details => exact Account.Meta.isForm_toJson value
  | account => exact Account.isForm_toJson value
  | claims => exact Token.Claims.isForm_toJson value

theorem ofJson?_of_isForm {value : shape.Value} {json : Json} (form : shape.IsForm value json) :
    shape.ofJson? json = some value := by
  cases shape with
  | id =>
      rw [show json = Account.Id.toJson value from form]
      exact Account.Id.ofJson?_toJson value
  | status => exact Account.Status.IsForm.ofJson?_eq form
  | address => exact Account.Address.IsForm.ofJson?_eq form
  | kyc => exact Account.Kyc.IsForm.ofJson?_eq form
  | details => exact Account.Meta.IsForm.ofJson?_eq form
  | account => exact Account.IsForm.ofJson?_eq form
  | claims => exact Token.Claims.IsForm.ofJson?_eq form

def fieldNames : Shape → List String
  | id => []
  | status => []
  | address => Account.Address.fieldNames
  | kyc => Account.Kyc.fieldNames
  | details => Account.Meta.fieldNames
  | account => Account.fieldNames
  | claims => Token.Claims.fieldNames

def requiredNames : Shape → List String
  | account => ["id", "name", "email", "phone_number", "status", "created_at", "updated_at"]
  | claims => Token.Claims.fieldNames
  | _ => []

def parts : Shape → List (String × Shape)
  | kyc => [("address", address)]
  | details => [("kyc", kyc)]
  | account => [("meta", details)]
  | claims => [("account", account)]
  | _ => []

/-- Somewhere in the document a record has a field twice, lacks a field that it needs, or has a
member whose name is no text. -/
inductive IsSpoilt : Shape → Json → Prop
  | repeated {shape : Shape} {name : String} (known : name ∈ shape.fieldNames)
      (first second : Json) (front middle back : List (Content × Json)) :
      IsSpoilt shape
        (object (front ++ (some name, first) :: middle ++ (some name, second) :: back))
  | lacking {shape : Shape} {name : String} {json : Json} (notNull : json ≠ null)
      (required : name ∈ shape.requiredNames)
      (absent : ∀ value, ¬ HasField shape.fieldNames name value json) : IsSpoilt shape json
  | nameless {shape : Shape} {value : Json} {members : List (Content × Json)}
      (isRecord : shape.fieldNames ≠ []) (member : (none, value) ∈ members) :
      IsSpoilt shape (object members)
  | within {shape part : Shape} {name : String} {json value : Json}
      (isPart : (name, part) ∈ shape.parts) (has : HasField shape.fieldNames name value json)
      (spoilt : IsSpoilt part value) : IsSpoilt shape json

theorem distinct_fieldNames : shape.fieldNames.Nodup := by
  cases shape <;> decide

theorem requiredNames_subset {name : String} (member : name ∈ shape.requiredNames) :
    name ∈ shape.fieldNames := by
  have all (shape : Shape) : ∀ name ∈ shape.requiredNames, name ∈ shape.fieldNames := by
    cases shape <;> decide
  exact all shape name member

theorem parts_subset {name : String} {part : Shape} (member : (name, part) ∈ shape.parts) :
    name ∈ shape.fieldNames := by
  have all (shape : Shape) : ∀ part ∈ shape.parts, part.1 ∈ shape.fieldNames := by
    cases shape <;> decide
  exact all shape (name, part) member

/-- What is found in a document that is read: the fields that are needed, and records where records
belong. -/
structure Yields (shape : Shape) (json : Json) (record : Record) : Prop where
  found : json.record? shape.fieldNames = some record
  required : ∀ name ∈ shape.requiredNames, record.lookup name ≠ none
  parts : ∀ {name part value}, (name, part) ∈ shape.parts → record.lookup name = some value →
    value = null ∨ part.ofJson? value ≠ none

theorem exists_yields {json : Json} {value : shape.Value} (isRecord : shape.fieldNames ≠ [])
    (read : shape.ofJson? json = some value) : ∃ record, shape.Yields json record := by
  cases shape with
  | id => exact absurd rfl isRecord
  | status => exact absurd rfl isRecord
  | address =>
      simp only [ofJson?, Account.Address.ofJson?, Option.bind_eq_bind,
        Option.bind_eq_some_iff] at read
      rcases read with ⟨record, found, -⟩
      exact ⟨record, found, (fun _ member => by cases member), fun member => by cases member⟩
  | kyc =>
      simp only [ofJson?, Account.Kyc.ofJson?, Option.bind_eq_bind, Option.bind_eq_some_iff] at read
      rcases read with ⟨record, found, _, -, _, -, _, -, _, address, -⟩
      refine ⟨record, found, (fun _ member => by cases member), fun member stands => ?_⟩
      cases List.mem_singleton.mp member
      exact null_or_of_option? (read_of_withDefault address stands)
  | details =>
      simp only [ofJson?, Account.Meta.ofJson?, Option.bind_eq_bind,
        Option.bind_eq_some_iff] at read
      rcases read with ⟨record, found, _, kyc, -⟩
      refine ⟨record, found, (fun _ member => by cases member), fun member stands => ?_⟩
      cases List.mem_singleton.mp member
      exact null_or_of_option? (read_of_withDefault kyc stands)
  | account =>
      simp only [ofJson?, Account.ofJson?, Option.bind_eq_bind, Option.bind_eq_some_iff] at read
      rcases read with ⟨record, found, _, id, _, name, _, email, _, phoneNumber, _, status, _,
        details, _, createdAt, _, updatedAt, -⟩
      refine ⟨record, found, ?_, fun member stands => ?_⟩
      · simp only [requiredNames, List.forall_mem_cons]
        exact ⟨lookup_ne_none_of_required id, lookup_ne_none_of_required name,
          lookup_ne_none_of_required email, lookup_ne_none_of_required phoneNumber,
          lookup_ne_none_of_required status, lookup_ne_none_of_required createdAt,
          lookup_ne_none_of_required updatedAt, fun _ member => by cases member⟩
      · cases List.mem_singleton.mp member
        exact .inr (Option.ne_none_iff_exists'.mpr ⟨_, read_of_withDefault details stands⟩)
  | claims =>
      simp only [ofJson?, Token.Claims.ofJson?, Option.bind_eq_bind,
        Option.bind_eq_some_iff] at read
      rcases read with ⟨record, found, _, audience, _, issuer, _, issuedAt, _, notBefore, _,
        expiresAt, _, subject, _, account, -⟩
      refine ⟨record, found, ?_, fun member stands => ?_⟩
      · simp only [requiredNames, Token.Claims.fieldNames, List.forall_mem_cons]
        exact ⟨lookup_ne_none_of_required audience, lookup_ne_none_of_required issuer,
          lookup_ne_none_of_required issuedAt, lookup_ne_none_of_required notBefore,
          lookup_ne_none_of_required expiresAt, lookup_ne_none_of_required subject,
          lookup_ne_none_of_required account, fun _ member => by cases member⟩
      · cases List.mem_singleton.mp member
        exact .inr (Option.ne_none_iff_exists'.mpr ⟨_, read_of_required account stands⟩)

theorem IsSpoilt.ne_null {json : Json} (spoilt : shape.IsSpoilt json) : json ≠ null := by
  cases spoilt with
  | lacking notNull _ _ => exact notNull
  | repeated _ _ _ _ _ _ => exact fun same => by cases same
  | nameless _ _ => exact fun same => by cases same
  | within _ has _ =>
      rintro rfl
      cases has

theorem ofJson?_of_isSpoilt {json : Json} (spoilt : shape.IsSpoilt json) :
    shape.ofJson? json = none := by
  rw [Option.eq_none_iff_forall_ne_some]
  induction spoilt with
  | repeated known first second front middle back =>
      intro value read
      rcases exists_yields (List.ne_nil_of_mem known) read with ⟨record, yields⟩
      have found := yields.found
      rw [record?_of_repeated known] at found
      cases found
  | lacking _ required absent =>
      intro value read
      have known := requiredNames_subset required
      rcases exists_yields (List.ne_nil_of_mem known) read with ⟨record, yields⟩
      rcases Option.ne_none_iff_exists'.mp (yields.required _ required) with ⟨stands, found⟩
      exact absent stands
        ((lookup_eq_some_iff distinct_fieldNames yields.found known).mp found)
  | nameless isRecord member =>
      intro value read
      rcases exists_yields isRecord read with ⟨record, yields⟩
      have found := yields.found
      rw [record?_of_nameless member] at found
      cases found
  | within isPart has spoilt induction =>
      intro value read
      have known := parts_subset isPart
      rcases exists_yields (List.ne_nil_of_mem known) read with ⟨record, yields⟩
      have stands := (lookup_eq_some_iff distinct_fieldNames yields.found known).mpr has
      rcases yields.parts isPart stands with absent | whole
      · exact spoilt.ne_null absent
      · exact whole (Option.eq_none_iff_forall_ne_some.mpr induction)

theorem decode?_of_spells {json : Json} {text : String} (spells : Spells json (Utf8.encode text)) :
    shape.decode? text = shape.ofJson? json := by
  rw [decode?, ofText?, spells.ofBytes?_eq, Option.bind_some]

/-- However a value is put into a document, and however the document is spelled, the value is read;
its own text is one of these. No spelling of a spoilt document is read. -/
theorem reads_every_form (shape : Shape) :
    (∀ value json text, shape.IsForm value json → Spells json (Utf8.encode text) →
        shape.decode? text = some value) ∧
      (∀ json text, shape.IsSpoilt json → Spells json (Utf8.encode text) →
        shape.decode? text = none) ∧
      ∀ value, shape.IsForm value (shape.toJson value) ∧
        Spells (shape.toJson value) (Utf8.encode (shape.encode value)) := by
  refine ⟨fun value json text form spells => ?_, fun json text spoilt spells => ?_,
    fun value => ⟨isForm_toJson value, ?_⟩⟩
  · rw [decode?_of_spells spells, ofJson?_of_isForm form]
  · rw [decode?_of_spells spells, ofJson?_of_isSpoilt spoilt]
  · rw [encode, encode_text]
    exact spells_write (shape.toJson value)

theorem address_reads_every_form :
    (address.IsForm { city := "Oslo" }
        (object [(some "x", array []), (some "city", ofString "Oslo"), (some "x", null)]) ∧
      Spells (object [(some "x", array []), (some "city", ofString "Oslo"), (some "x", null)])
        (Utf8.encode "\x7b\"x\":[],\"city\":\"Oslo\",\"x\":null\x7d") ∧
      address.decode? "\x7b\"x\":[],\"city\":\"Oslo\",\"x\":null\x7d" =
        some { city := "Oslo" }) ∧
    address.IsSpoilt (object [(some "city", null), (some "city", ofString "Oslo")]) ∧
      Spells (object [(some "city", null), (some "city", ofString "Oslo")])
        (Utf8.encode "\x7b\"city\":null,\"city\":\"Oslo\"\x7d") ∧
      address.decode? "\x7b\"city\":null,\"city\":\"Oslo\"\x7d" = none := by
  have spells {json : Json} {text : String} (written : Utf8.encode text = json.write) :
      Spells json (Utf8.encode text) := written ▸ spells_write json
  have gives : Gives (Account.Address.fields { city := "Oslo" }) [("city", ofString "Oslo")] :=
    .leftOut rfl (.leftOut rfl (.given rfl (.leftOut rfl (.leftOut rfl (.leftOut rfl .nothing)))))
  have arranged := @List.perm_middle _ (some "x", array []) [(some "city", ofString "Oslo")]
    [(some "x", null)]
  have form : address.IsForm { city := "Oslo" }
      (object [(some "x", array []), (some "city", ofString "Oslo"), (some "x", null)]) :=
    @IsRecordOf.object _ _ [("x", array []), ("x", null)] _ gives (by decide) arranged.symm
  have spelled := @spells
    (object [(some "x", array []), (some "city", ofString "Oslo"), (some "x", null)])
    "\x7b\"x\":[],\"city\":\"Oslo\",\"x\":null\x7d" (by decide +kernel)
  have spoilt : address.IsSpoilt (object [(some "city", null), (some "city", ofString "Oslo")]) :=
    @IsSpoilt.repeated address "city" (by decide) null (ofString "Oslo") [] [] []
  have spelledTwice := @spells (object [(some "city", null), (some "city", ofString "Oslo")])
    "\x7b\"city\":null,\"city\":\"Oslo\"\x7d" (by decide +kernel)
  have reads := reads_every_form address
  exact ⟨⟨form, spelled, reads.left _ _ _ form spelled⟩, spoilt, spelledTwice,
    reads.right.left _ _ spoilt spelledTwice⟩

theorem half_pair_is_no_name :
    Spells (object [(none, ofString "half")]) (Utf8.encode "\x7b\"\\ud800\":\"half\"\x7d") ∧
      address.decode? "\x7b\"\\ud800\":\"half\"\x7d" = none ∧
      address.decode? "\x7b\"half\":\"\\ud800\"\x7d" = some {} ∧
      address.decode? "\x7b\x7d" = some {} := by
  have written : Utf8.encode "\x7b\"\\ud800\":\"half\"\x7d" =
      (object [(none, ofString "half")]).write := by decide +kernel
  exact ⟨written ▸ spells_write _, by decide +kernel, by decide +kernel, by decide +kernel⟩

end Json.Shape

end Turnstile
