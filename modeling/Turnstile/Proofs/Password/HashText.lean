import Turnstile.Password.HashText
import Turnstile.Proofs.Text.Base64
import Turnstile.Proofs.Text.Decimal
import Turnstile.Proofs.Text.Split

/-!
The parts of a hash in text. Each is read from one spelling only, which is the one that is written:
numbers without leading zeros, parameters joined with commas and each of them with an equals sign,
and digests in base 64. None of these marks is a letter that a name or a value may have.
-/

namespace Turnstile.Password.HashText

open Turnstile.Text

/-! ## Letters and marks -/

def IsMark (letter : Char) : Prop :=
  isNameLetter letter = false ∧ isValueLetter letter = false

theorem isMark_dollar : IsMark '$' :=
  ⟨rfl, rfl⟩

theorem isMark_comma : IsMark ',' :=
  ⟨rfl, rfl⟩

theorem isMark_equals : IsMark '=' :=
  ⟨rfl, rfl⟩

theorem not_mem_of_all {allowed : Char → Bool} {letters : List Char}
    (all : letters.all allowed = true) {mark : Char} (excluded : allowed mark = false) :
    mark ∉ letters := by
  intro member
  have admitted := List.all_eq_true.mp all mark member
  rw [excluded] at admitted
  cases admitted

theorem IsMark.not_mem_name {mark : Char} (isMark : IsMark mark) {name : List Char}
    (named : isName name = true) : mark ∉ name := by
  rw [isName, Bool.and_eq_true] at named
  exact not_mem_of_all named.right isMark.left

theorem IsMark.not_mem_value {mark : Char} (isMark : IsMark mark) {value : List Char}
    (valued : isValue value = true) : mark ∉ value := by
  rw [isValue, Bool.and_eq_true] at valued
  exact not_mem_of_all valued.right isMark.right

theorem isValueLetter_of_isDigit {letter : Char} (isDigit : Decimal.isDigit letter = true) :
    isValueLetter letter = true := by
  rw [isValueLetter, isDigit]
  simp

theorem isValueLetter_of_value? {letter : Char}
    (valued : (Base64.value? Base64.standard letter).isSome = true) :
    isValueLetter letter = true := by
  rw [Base64.value?] at valued
  rw [isValueLetter, Decimal.isDigit]
  split at valued
  · simp_all
  · split at valued
    · simp_all
    · split at valued
      · simp_all
      · split at valued
        · rename_i plus
          subst plus
          decide
        · split at valued
          · rename_i slash
            subst slash
            decide
          · cases valued

theorem all_isValueLetter_encodeChars (bytes : Bytes) :
    (Base64.encodeChars Base64.standard bytes).all isValueLetter = true := by
  rw [List.all_eq_true]
  intro letter member
  exact isValueLetter_of_value? (Base64.isSome_value?_of_mem
    (Base64.decodeChars?_encodeChars Base64.standard_isFaithful bytes) letter member)

theorem isValue_encodeChars {bytes : Bytes} (short : bytes.length ≤ 48) :
    isValue (Base64.encodeChars Base64.standard bytes) = true := by
  rw [isValue, all_isValueLetter_encodeChars, Base64.length_encodeChars, Bool.and_true,
    decide_eq_true_eq]
  omega

theorem isValue_ofNat {number : Nat} (small : number < 0x100000000) :
    isValue (Decimal.ofNat number) = true := by
  have short : (Decimal.ofNat number).length ≤ 10 :=
    Decimal.length_ofNat_le (by decide) (by omega)
  have letters : (Decimal.ofNat number).all isValueLetter = true := by
    rw [List.all_eq_true]
    exact fun letter member => isValueLetter_of_isDigit (Decimal.areDigits_ofNat _ letter member)
  rw [isValue, letters, Bool.and_true, decide_eq_true_eq]
  omega

/-! ## Numbers -/

theorem number?_eq_some_iff {letters : List Char} {number : Nat} :
    number? letters = some number ↔ number < 0x100000000 ∧ letters = Decimal.ofNat number := by
  rw [number?, Option.ite_none_left_eq_some, Option.filter_eq_some_iff, Decimal.ofChars?_eq_some_iff,
    decide_eq_true_eq]
  constructor
  · rintro ⟨plain, ⟨areDigits, nonempty, rfl⟩, small⟩
    refine ⟨small, (Decimal.ofNat_value areDigits nonempty fun rest begins => ?_).symm⟩
    by_contra further
    refine plain ⟨by rw [begins, List.head?_cons], ?_⟩
    rw [begins, List.length_cons, Ne, Nat.succ_inj, List.length_eq_zero_iff]
    exact further
  · rintro ⟨small, rfl⟩
    refine ⟨?_, ⟨Decimal.areDigits_ofNat number, Decimal.ofNat_ne_nil number,
      Decimal.value_ofNat number⟩, small⟩
    rintro ⟨head, long⟩
    rcases List.head?_eq_some_iff.mp head with ⟨rest, numeral⟩
    have zero : number = 0 := by
      by_contra positive
      exact Decimal.ofNat_ne_zero_cons (Nat.pos_of_ne_zero positive) rest numeral
    subst zero
    rw [Decimal.ofNat] at long
    exact long rfl

theorem number?_ofNat {number : Nat} (small : number < 0x100000000) :
    number? (Decimal.ofNat number) = some number :=
  number?_eq_some_iff.mpr ⟨small, rfl⟩

theorem version?_eq_some_iff {letters : List Char} {number : Nat} :
    version? letters = some number ↔ number < 0x100000000 ∧ letters = Decimal.ofNat number := by
  rw [version?, Option.ite_none_right_eq_some, number?_eq_some_iff]
  constructor
  · exact And.right
  · rintro ⟨small, rfl⟩
    exact ⟨isValue_ofNat small, small, rfl⟩

/-! ## Parameters -/

def IsWritable (parameter : List Char × List Char) : Prop :=
  isName parameter.1 = true ∧ isValue parameter.2 = true

structure AreWritable (parameters : List (List Char × List Char)) : Prop where
  each : ∀ parameter ∈ parameters, IsWritable parameter
  short : (parametersChars parameters).length ≤ 127

theorem parameterChars_eq (parameter : List Char × List Char) :
    parameterChars parameter = ['='].intercalate [parameter.1, parameter.2] := by
  rw [parameterChars, List.intercalate_cons_cons, List.intercalate_singleton, List.append_assoc]
  rfl

theorem IsWritable.not_mem {parameter : List Char × List Char} (writable : IsWritable parameter)
    {mark : Char} (isMark : IsMark mark) (different : mark ≠ '=') :
    mark ∉ parameterChars parameter := by
  rw [parameterChars, List.mem_append, List.mem_cons]
  rintro (inName | same | inValue)
  · exact isMark.not_mem_name writable.left inName
  · exact different same
  · exact isMark.not_mem_value writable.right inValue

theorem parameter?_eq_some_iff {letters : List Char} {parameter : List Char × List Char} :
    parameter? letters = some parameter ↔
      IsWritable parameter ∧ letters = parameterChars parameter := by
  constructor
  · intro read
    rw [parameter?] at read
    split at read
    · rename_i name value parts
      rw [Option.ite_none_right_eq_some, Bool.and_eq_true, Option.some.injEq] at read
      rcases read with ⟨writable, rfl⟩
      rw [parameterChars_eq]
      exact ⟨writable, (splitAll_eq_iff.mp parts).right.right⟩
    · cases read
  · rintro ⟨writable, rfl⟩
    have parts : splitAll '=' (parameterChars parameter) = [parameter.1, parameter.2] := by
      refine splitAll_eq_iff.mpr ⟨List.cons_ne_nil _ _, ?_, parameterChars_eq parameter⟩
      simp only [List.forall_mem_cons]
      exact ⟨isMark_equals.not_mem_name writable.left, isMark_equals.not_mem_value writable.right,
        nofun⟩
    rw [parameter?, parts]
    exact if_pos (by rw [writable.left, writable.right]; rfl)

theorem parametersChars_eq : ∀ parameters : List (List Char × List Char),
    parametersChars parameters = [','].intercalate (parameters.map parameterChars)
  | [] => rfl
  | [parameter] => List.intercalate_singleton.symm
  | parameter :: next :: rest => by
      rw [parametersChars, parametersChars_eq (next :: rest)]
      · simp only [List.map_cons, List.intercalate_cons_cons, List.append_assoc]
        rfl
      · exact List.cons_ne_nil next rest

theorem not_mem_parametersChars {mark : Char} (isMark : IsMark mark) (noEquals : mark ≠ '=')
    (noComma : mark ≠ ',') : ∀ {parameters : List (List Char × List Char)},
      (∀ parameter ∈ parameters, IsWritable parameter) → mark ∉ parametersChars parameters
  | [], _ => List.not_mem_nil
  | [parameter], writable =>
      (writable parameter (List.mem_singleton_self _)).not_mem isMark noEquals
  | parameter :: next :: rest, writable => by
      rw [parametersChars, List.mem_append, List.mem_cons]
      · rintro (first | same | later)
        · exact (writable parameter (List.mem_cons_self ..)).not_mem isMark noEquals first
        · exact noComma same
        · exact not_mem_parametersChars isMark noEquals noComma
            (fun other member => writable other (List.mem_cons_of_mem _ member)) later
      · exact List.cons_ne_nil next rest

theorem equals_mem_parametersChars : ∀ {parameters : List (List Char × List Char)},
    parameters ≠ [] → '=' ∈ parametersChars parameters
  | [], empty => absurd rfl empty
  | [parameter], _ => List.mem_append_right _ (List.mem_cons_self ..)
  | parameter :: next :: rest, _ => by
      rw [parametersChars]
      · exact List.mem_append_left _ (List.mem_append_right _ (List.mem_cons_self ..))
      · exact List.cons_ne_nil next rest

theorem mapM_parameter?_eq_some_iff {parts : List (List Char)}
    {parameters : List (List Char × List Char)} :
    parts.mapM parameter? = some parameters ↔
      (∀ parameter ∈ parameters, IsWritable parameter) ∧ parts = parameters.map parameterChars := by
  induction parts generalizing parameters with
  | nil =>
      cases parameters with
      | nil => exact ⟨fun _ => ⟨nofun, rfl⟩, fun _ => rfl⟩
      | cons parameter rest => exact ⟨nofun, nofun⟩
  | cons part parts induction =>
      simp only [List.mapM_cons, Option.bind_eq_bind, Option.bind_eq_some_iff,
        parameter?_eq_some_iff, induction, Option.pure_def, Option.some.injEq]
      constructor
      · rintro ⟨parameter, ⟨first, rfl⟩, rest, ⟨others, rfl⟩, rfl⟩
        exact ⟨List.forall_mem_cons.mpr ⟨first, others⟩, rfl⟩
      · rintro ⟨writable, same⟩
        cases parameters with
        | nil => cases same
        | cons parameter rest =>
            cases same
            rcases List.forall_mem_cons.mp writable with ⟨first, others⟩
            exact ⟨parameter, ⟨first, rfl⟩, rest, ⟨others, rfl⟩, rfl⟩

theorem parameters?_eq_some_iff {letters : List Char} {parameters : List (List Char × List Char)} :
    parameters? letters = some parameters ↔
      parameters ≠ [] ∧ AreWritable parameters ∧ letters = parametersChars parameters := by
  rw [parameters?, Option.ite_none_right_eq_some, mapM_parameter?_eq_some_iff, splitAll_eq_iff,
    ← parametersChars_eq, Ne, List.map_eq_nil_iff]
  constructor
  · rintro ⟨short, each, present, -, rfl⟩
    exact ⟨present, ⟨each, short⟩, rfl⟩
  · rintro ⟨present, ⟨each, short⟩, rfl⟩
    refine ⟨short, each, present, ?_, rfl⟩
    intro part member
    rcases List.mem_map.mp member with ⟨parameter, parameterMember, rfl⟩
    exact (each parameter parameterMember).not_mem isMark_comma (by decide)

/-! ## Salts and digests -/

def IsSalt (letters : List Char) : Prop :=
  4 ≤ letters.length ∧ isValue letters = true

def IsDigest (bytes : Bytes) : Prop :=
  10 ≤ bytes.length ∧ bytes.length ≤ 64

theorem salt?_eq_some_iff {letters salt : List Char} :
    salt? letters = some salt ↔ IsSalt salt ∧ letters = salt := by
  rw [salt?, Option.ite_none_right_eq_some, Option.some.injEq]
  constructor
  · rintro ⟨isSalt, rfl⟩
    exact ⟨isSalt, rfl⟩
  · rintro ⟨isSalt, rfl⟩
    exact ⟨isSalt, rfl⟩

theorem digest?_eq_some_iff {letters : List Char} {digest : Bytes} :
    digest? letters = some digest ↔
      IsDigest digest ∧ letters = Base64.encodeChars Base64.standard digest := by
  rw [digest?, Option.filter_eq_some_iff, Base64.decodeChars?_eq_some_iff Base64.standard_isFaithful,
    Bool.and_eq_true, decide_eq_true_eq, decide_eq_true_eq, and_comm]
  rfl

end Turnstile.Password.HashText
