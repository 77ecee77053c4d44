import Turnstile.Proofs.Password.HashText

/-!
Hashes and their texts. A text is read as a hash exactly if the parts of the hash keep to their
limits and the text is what they are written as, with dollar signs before them: nothing is read
from two texts, and nothing that is written is read as something else. For this a parameter must not
stand where the version is expected and look like it.
-/

namespace Turnstile.Password.HashText

open Turnstile.Text

/-! ## Fields -/

def versionFields (version : Option Nat) : List (List Char) :=
  version.toList.map fun number => 'v' :: '=' :: Decimal.ofNat number

def parameterFields (parameters : List (List Char × List Char)) : List (List Char) :=
  if parameters.isEmpty then [] else [parametersChars parameters]

def endFields (salt : Option (List Char)) (digest : Option Bytes) : List (List Char) :=
  salt.toList ++ digest.toList.map (Base64.encodeChars Base64.standard)

def fields (text : HashText) : List (List Char) :=
  versionFields text.version ++
    (parameterFields text.parameters ++ endFields text.salt text.digest)

/-- The first field is taken for a version: a list of several parameters is not. -/
def StartsWithVersion (fields : List (List Char)) : Prop :=
  ∃ letters rest, fields = ('v' :: '=' :: letters) :: rest ∧ ',' ∉ letters

/-- Only a hash with a salt has a digest. -/
structure AreEnds (salt : Option (List Char)) (digest : Option Bytes) : Prop where
  isSalt : ∀ letters ∈ salt, IsSalt letters
  isDigest : ∀ bytes ∈ digest, IsDigest bytes
  salted : salt = none → digest = none

theorem takeVersion_eq_some_iff {fields rest : List (List Char)} {version : Option Nat} :
    takeVersion fields = some (version, rest) ↔
      (∀ number ∈ version, number < 0x100000000) ∧ (version = none → ¬ StartsWithVersion rest) ∧
        fields = versionFields version ++ rest := by
  constructor
  · intro taken
    rw [takeVersion.eq_def] at taken
    split at taken
    · rename_i letters others
      split at taken
      · rename_i several
        cases taken
        refine ⟨nofun, fun _ => ?_, rfl⟩
        rintro ⟨_, _, same, alone⟩
        cases same
        exact alone (List.contains_iff_mem.mp several)
      · rcases Option.map_eq_some_iff.mp taken with ⟨number, read, same⟩
        cases same
        rcases version?_eq_some_iff.mp read with ⟨small, rfl⟩
        refine ⟨?_, nofun, rfl⟩
        rintro _ ⟨⟩
        exact small
    · rename_i noVersion
      cases taken
      refine ⟨nofun, fun _ => ?_, rfl⟩
      rintro ⟨letters, others, same, -⟩
      exact noVersion letters others same
  · rintro ⟨small, unversioned, rfl⟩
    cases version with
    | none =>
        show takeVersion rest = _
        rw [takeVersion.eq_def]
        split
        · rename_i letters others
          have several : ',' ∈ letters := by
            by_contra alone
            exact unversioned rfl ⟨letters, others, rfl, alone⟩
          rw [if_pos (List.contains_iff_mem.mpr several)]
        · rfl
    | some number =>
        have fits := small number rfl
        have alone : (Decimal.ofNat number).contains ',' = false := by
          simpa using isMark_comma.not_mem_value (isValue_ofNat fits)
        show takeVersion (('v' :: '=' :: Decimal.ofNat number) :: rest) = _
        rw [takeVersion, alone, version?_eq_some_iff.mpr ⟨fits, rfl⟩]
        rfl

theorem takeParameters_eq_some_iff {fields rest : List (List Char)}
    {parameters : List (List Char × List Char)} :
    takeParameters fields = some (parameters, rest) ↔
      AreWritable parameters ∧ (parameters = [] → ∀ field ∈ rest.head?, '=' ∉ field) ∧
        fields = parameterFields parameters ++ rest := by
  have none : AreWritable [] := ⟨nofun, by decide⟩
  constructor
  · intro taken
    rw [takeParameters.eq_def] at taken
    split at taken
    · rename_i field others
      split at taken
      · rcases Option.map_eq_some_iff.mp taken with ⟨found, read, same⟩
        cases same
        rcases parameters?_eq_some_iff.mp read with ⟨present, writable, rfl⟩
        refine ⟨writable, fun empty => absurd empty present, ?_⟩
        rw [parameterFields, List.isEmpty_eq_false_iff.mpr present]
        rfl
      · rename_i noEquals
        cases taken
        refine ⟨none, fun _ => ?_, rfl⟩
        rintro _ ⟨⟩
        exact mt List.contains_iff_mem.mpr noEquals
    · cases taken
      exact ⟨none, fun _ => nofun, rfl⟩
  · rintro ⟨writable, unequal, rfl⟩
    by_cases empty : parameters = []
    · subst empty
      cases rest with
      | nil => rfl
      | cons field others =>
          show takeParameters (field :: others) = _
          rw [takeParameters, if_neg (mt List.contains_iff_mem.mp (unequal rfl field rfl))]
    · rw [parameterFields, List.isEmpty_eq_false_iff.mpr empty]
      show takeParameters (parametersChars parameters :: rest) = _
      rw [takeParameters, if_pos (List.contains_iff_mem.mpr (equals_mem_parametersChars empty)),
        parameters?_eq_some_iff.mpr ⟨empty, writable, rfl⟩]
      rfl

theorem saltAndDigest?_eq_some_iff {fields : List (List Char)} {salt : Option (List Char)}
    {digest : Option Bytes} :
    saltAndDigest? fields = some (salt, digest) ↔
      AreEnds salt digest ∧ fields = endFields salt digest := by
  constructor
  · intro read
    rw [saltAndDigest?.eq_def] at read
    split at read
    · cases read
      exact ⟨⟨nofun, nofun, fun _ => rfl⟩, rfl⟩
    · rcases Option.map_eq_some_iff.mp read with ⟨letters, saltRead, same⟩
      cases same
      rcases salt?_eq_some_iff.mp saltRead with ⟨isSalt, rfl⟩
      exact ⟨⟨fun _ same => Option.some.inj same ▸ isSalt, nofun, nofun⟩, rfl⟩
    · simp only [Option.bind_eq_bind, Option.bind_eq_some_iff, Option.pure_def, Option.some.injEq,
        Prod.mk.injEq] at read
      rcases read with ⟨letters, saltRead, bytes, digestRead, rfl, rfl⟩
      rcases salt?_eq_some_iff.mp saltRead with ⟨isSalt, rfl⟩
      rcases digest?_eq_some_iff.mp digestRead with ⟨isDigest, rfl⟩
      exact ⟨⟨fun _ same => Option.some.inj same ▸ isSalt,
        fun _ same => Option.some.inj same ▸ isDigest, nofun⟩, rfl⟩
    · cases read
  · rintro ⟨ends, rfl⟩
    cases salt with
    | none =>
        rw [ends.salted rfl]
        rfl
    | some letters =>
        have saltRead := salt?_eq_some_iff.mpr ⟨ends.isSalt letters rfl, rfl⟩
        cases digest with
        | none =>
            show (salt? letters).map _ = _
            rw [saltRead]
            rfl
        | some bytes =>
            show (salt? letters).bind _ = _
            rw [saltRead, Option.bind_some,
              digest?_eq_some_iff.mpr ⟨ends.isDigest bytes rfl, rfl⟩]
            rfl

/-! ## The marks in the fields -/

theorem AreEnds.not_mem_endFields {salt : Option (List Char)} {digest : Option Bytes}
    (ends : AreEnds salt digest) {mark : Char} (isMark : IsMark mark) :
    ∀ field ∈ endFields salt digest, mark ∉ field := by
  intro field member
  simp only [endFields, List.mem_append, Option.mem_toList, List.mem_map] at member
  rcases member with salted | ⟨bytes, -, rfl⟩
  · exact isMark.not_mem_value (ends.isSalt field salted).right
  · exact not_mem_of_all (all_isValueLetter_encodeChars bytes) isMark.right

theorem startsWithVersion_iff {parameters : List (List Char × List Char)}
    {salt : Option (List Char)} {digest : Option Bytes} (writable : AreWritable parameters)
    (ends : AreEnds salt digest) :
    StartsWithVersion (parameterFields parameters ++ endFields salt digest) ↔
      ∃ value, parameters = [(['v'], value)] := by
  constructor
  · rintro ⟨letters, rest, same, alone⟩
    match parameters with
    | [] =>
        have member : 'v' :: '=' :: letters ∈ endFields salt digest := by
          rw [show endFields salt digest = _ from same]
          exact List.mem_cons_self ..
        exact absurd (by simp) (ends.not_mem_endFields isMark_equals _ member)
    | [(name, value)] =>
        have noEquals := isMark_equals.not_mem_name (writable.each _ (List.mem_cons_self ..)).left
        have spelled : name ++ '=' :: value = 'v' :: '=' :: letters := (List.cons.inj same).left
        match name with
        | [] => cases spelled
        | ['v'] => exact ⟨value, rfl⟩
        | first :: second :: others =>
            simp only [List.cons_append, List.cons.injEq] at spelled
            rw [spelled.right.left] at noEquals
            exact absurd (by simp) noEquals
    | parameter :: next :: others =>
        have spelled : parameterChars parameter ++ ',' :: parametersChars (next :: others) =
            'v' :: '=' :: letters := (List.cons.inj same).left
        have comma : ',' ∈ 'v' :: '=' :: letters := by
          rw [← spelled]
          exact List.mem_append_right _ (List.mem_cons_self ..)
        simp only [List.mem_cons, Char.reduceEq, false_or] at comma
        exact absurd comma alone
  · rintro ⟨value, rfl⟩
    refine ⟨value, endFields salt digest, rfl, ?_⟩
    exact isMark_comma.not_mem_value (writable.each _ (List.mem_cons_self ..)).right

/-! ## The whole text -/

/-- Every part keeps to its limits, and no parameter is taken for the version. -/
structure IsProper (text : HashText) : Prop where
  algorithm : isName text.algorithm = true
  version : ∀ number ∈ text.version, number < 0x100000000
  parameters : AreWritable text.parameters
  unversioned : text.version = none → ∀ value, text.parameters ≠ [(['v'], value)]
  ends : AreEnds text.salt text.digest

theorem toChars_eq (text : HashText) :
    text.toChars = ['$'].intercalate ([] :: text.algorithm :: text.fields) := by
  rcases text with ⟨algorithm, version, parameters, salt, digest⟩
  rw [intercalate_eq_append_flatMap]
  simp only [toChars, fields, List.nil_append, List.flatMap_cons, List.flatMap_append,
    List.append_assoc]
  congr 1
  congr 1
  · cases version <;> simp [versionFields]
  congr 1
  · rw [parameterFields]
    split <;> simp
  · cases salt <;> cases digest <;> simp [endFields]

theorem IsProper.not_mem_fields {text : HashText} (proper : text.IsProper) {mark : Char}
    (isMark : IsMark mark) (noComma : mark ≠ ',') (noEquals : mark ≠ '=') :
    ∀ field ∈ text.fields, mark ∉ field := by
  intro field member
  rw [fields, List.mem_append, List.mem_append] at member
  rcases member with inVersion | inParameters | inEnds
  · rcases List.mem_map.mp inVersion with ⟨number, present, rfl⟩
    have noVersion : mark ≠ 'v' := by
      rintro rfl
      cases isMark.right
    have digits := isMark.not_mem_value
      (isValue_ofNat (proper.version number (Option.mem_toList.mp present)))
    simp [noVersion, noEquals, digits]
  · rw [parameterFields] at inParameters
    split at inParameters
    · cases inParameters
    · rw [List.mem_singleton.mp inParameters]
      exact not_mem_parametersChars isMark noEquals noComma proper.parameters.each
  · exact proper.ends.not_mem_endFields isMark field inEnds

theorem IsProper.not_mem_toChars {text : HashText} (proper : text.IsProper) {letter : Char}
    (isMark : IsMark letter) (others : letter ∉ ['$', ',', '=']) : letter ∉ text.toChars := by
  simp only [List.mem_cons, List.not_mem_nil, or_false, not_or] at others
  rcases others with ⟨noDollar, noComma, noEquals⟩
  rw [toChars_eq, intercalate_eq_append_flatMap, List.nil_append, List.mem_flatMap]
  rintro ⟨field, member, inField⟩
  rcases List.mem_cons.mp inField with same | inField
  · exact noDollar same
  rcases List.mem_cons.mp member with rfl | member
  · exact isMark.not_mem_name proper.algorithm inField
  · exact proper.not_mem_fields isMark noComma noEquals field member inField

theorem IsProper.splitAll_toChars {text : HashText} (proper : text.IsProper) :
    splitAll '$' text.toChars = [] :: text.algorithm :: text.fields := by
  refine splitAll_eq_iff.mpr ⟨List.cons_ne_nil _ _, ?_, toChars_eq text⟩
  simp only [List.forall_mem_cons]
  exact ⟨List.not_mem_nil, isMark_dollar.not_mem_name proper.algorithm,
    proper.not_mem_fields isMark_dollar (by decide) (by decide)⟩

theorem ofChars?_toChars {text : HashText} (proper : text.IsProper) :
    ofChars? text.toChars = some text := by
  have noEquals : ∀ field ∈ (endFields text.salt text.digest).head?, '=' ∉ field :=
    fun field head => proper.ends.not_mem_endFields isMark_equals field (List.mem_of_mem_head? head)
  have version : takeVersion text.fields = _ := takeVersion_eq_some_iff.mpr
    ⟨proper.version, fun none starts => ?_, rfl⟩
  rw [ofChars?, proper.splitAll_toChars]
  · dsimp only
    rw [if_pos proper.algorithm, version, Option.bind_eq_bind, Option.bind_some,
      takeParameters_eq_some_iff.mpr ⟨proper.parameters, fun _ => noEquals, rfl⟩]
    dsimp only [Option.bind_eq_bind, Option.bind_some]
    rw [saltAndDigest?_eq_some_iff.mpr ⟨proper.ends, rfl⟩]
    rfl
  · rcases (startsWithVersion_iff proper.parameters proper.ends).mp starts with ⟨value, alone⟩
    exact proper.unversioned none value alone

/-- Reading and writing are inverse to each other. -/
theorem ofChars?_eq_some_iff {letters : List Char} {text : HashText} :
    ofChars? letters = some text ↔ text.IsProper ∧ letters = text.toChars := by
  constructor
  · intro read
    rw [ofChars?] at read
    split at read
    · rename_i algorithm fields parts
      rw [Option.ite_none_right_eq_some] at read
      simp only [Option.bind_eq_bind, Option.bind_eq_some_iff, Prod.exists, Option.pure_def,
        Option.some.injEq] at read
      rcases read with ⟨named, version, _, versionRead, parameters, _, parametersRead, salt, digest,
        endsRead, rfl⟩
      rcases takeVersion_eq_some_iff.mp versionRead with ⟨small, unversioned, rfl⟩
      rcases takeParameters_eq_some_iff.mp parametersRead with ⟨writable, -, rfl⟩
      rcases saltAndDigest?_eq_some_iff.mp endsRead with ⟨ends, rfl⟩
      refine ⟨⟨named, small, writable, fun none value alone => unversioned none ?_, ends⟩, ?_⟩
      · exact (startsWithVersion_iff writable ends).mpr ⟨value, alone⟩
      · rw [toChars_eq]
        exact (splitAll_eq_iff.mp parts).right.right
    · cases read
  · rintro ⟨proper, rfl⟩
    exact ofChars?_toChars proper

end Turnstile.Password.HashText
