import Mathlib.Data.List.Induction
import Mathlib.Tactic.IntervalCases
import Turnstile.Text.Decimal

/-!
What is written as a decimal numeral reads back as the number, whatever follows it, as long as the
reader can tell where the numeral ends.
-/

namespace Turnstile.Text.Decimal

@[simp] theorem isDigit_digit {value : Nat} (small : value < 10) :
    isDigit (digit value) = true := by
  interval_cases value <;> decide

@[simp] theorem digitValue_digit {value : Nat} (small : value < 10) :
    digitValue (digit value) = value := by
  interval_cases value <;> decide

theorem toNat_digit_bounds {letter : Char} (isDigit : Decimal.isDigit letter = true) :
    48 ≤ letter.toNat ∧ letter.toNat ≤ 57 := by
  simpa [Decimal.isDigit, Char.le_def, UInt32.le_iff_toNat_le] using isDigit

def AreDigits (letters : List Char) : Prop :=
  ∀ letter ∈ letters, isDigit letter = true

/-- What follows a numeral that ends there: nothing, or something that is no digit. -/
def EndsNumeral (rest : List Char) : Prop :=
  ∀ letter ∈ rest.head?, isDigit letter = false

@[simp] theorem endsNumeral_nil : EndsNumeral [] := by
  simp [EndsNumeral]

@[simp] theorem endsNumeral_cons (letter : Char) (rest : List Char) :
    EndsNumeral (letter :: rest) ↔ isDigit letter = false := by
  simp [EndsNumeral]

theorem value_append (digits : List Char) (letter : Char) :
    value (digits ++ [letter]) = 10 * value digits + digitValue letter := by
  simp [value]

/-! ## Numerals of fixed width -/

@[simp] theorem length_fixed (width value : Nat) : (fixed width value).length = width := by
  induction width generalizing value with
  | zero => rfl
  | succ width hypothesis => simp [fixed, hypothesis]

theorem areDigits_fixed (width value : Nat) : AreDigits (fixed width value) := by
  induction width generalizing value with
  | zero => simp [AreDigits, fixed]
  | succ width hypothesis =>
      intro letter member
      rcases List.mem_append.mp member with member | member
      · exact hypothesis _ letter member
      · rw [List.mem_singleton.mp member]
        exact isDigit_digit (Nat.mod_lt _ (by decide))

theorem value_fixed {width value : Nat} (fits : value < 10 ^ width) :
    Decimal.value (fixed width value) = value := by
  induction width generalizing value with
  | zero =>
      have zero : value = 0 := by omega
      rw [zero]
      rfl
  | succ width hypothesis =>
      have quotient : value / 10 < 10 ^ width := by
        rw [Nat.pow_succ] at fits
        omega
      rw [fixed, value_append, hypothesis quotient, digitValue_digit (Nat.mod_lt _ (by decide))]
      omega

/-! ## Numerals without leading zeros -/

theorem areDigits_ofNat (value : Nat) : AreDigits (ofNat value) := by
  rw [ofNat]
  split
  · rename_i small
    intro letter member
    rw [List.mem_singleton.mp member]
    exact isDigit_digit small
  · intro letter member
    rcases List.mem_append.mp member with member | member
    · exact areDigits_ofNat (value / 10) letter member
    · rw [List.mem_singleton.mp member]
      exact isDigit_digit (Nat.mod_lt _ (by decide))

theorem ofNat_ne_nil (value : Nat) : ofNat value ≠ [] := by
  rw [ofNat]
  split <;> simp

theorem value_ofNat (value : Nat) : Decimal.value (ofNat value) = value := by
  rw [ofNat]
  split
  · rename_i small
    simp [Decimal.value, small]
  · rw [value_append, value_ofNat (value / 10), digitValue_digit (Nat.mod_lt _ (by decide))]
    omega

theorem ofNat_ne_zero_cons {number : Nat} (positive : 0 < number) (letters : List Char) :
    ofNat number ≠ '0' :: letters := by
  rw [ofNat]
  split
  · rename_i small
    interval_cases number <;> simp [digit]
  · intro same
    cases head : ofNat (number / 10) with
    | nil => exact ofNat_ne_nil _ head
    | cons first rest =>
        rw [head, List.cons_append, List.cons.injEq] at same
        rw [same.1] at head
        exact ofNat_ne_zero_cons (by omega) rest head

theorem length_ofNat_le {width : Nat} (positive : 0 < width) {number : Nat}
    (fits : number < 10 ^ width) : (ofNat number).length ≤ width := by
  induction width generalizing number with
  | zero => exact absurd positive (by decide)
  | succ width induction =>
      rw [ofNat]
      split
      · exact Nat.le_add_left 1 width
      · rename_i long
        have quotient : number / 10 < 10 ^ width := by
          rw [Nat.pow_succ] at fits
          omega
        have further : 0 < width := by
          by_contra none
          obtain rfl : width = 0 := by omega
          exact long fits
        rw [List.length_append, List.length_singleton]
        exact Nat.succ_le_succ (induction further quotient)

theorem ofChars?_eq_some_iff {digits : List Char} {number : Nat} :
    ofChars? digits = some number ↔
      AreDigits digits ∧ digits ≠ [] ∧ value digits = number := by
  rw [ofChars?, Option.ite_none_left_eq_some, Option.some.injEq, Bool.or_eq_true, not_or,
    List.isEmpty_iff, Bool.not_eq_true', Bool.not_eq_false, List.all_eq_true, AreDigits]
  constructor
  · rintro ⟨⟨nonempty, areDigits⟩, same⟩
    exact ⟨areDigits, nonempty, same⟩
  · rintro ⟨areDigits, nonempty, same⟩
    exact ⟨⟨nonempty, areDigits⟩, same⟩

/-! ## Numerals of a least width -/

theorem areDigits_padded (width value : Nat) : AreDigits (padded width value) := by
  intro letter member
  rcases List.mem_append.mp member with member | member
  · rw [(List.mem_replicate.mp member).2]
    decide
  · exact areDigits_ofNat value letter member

theorem padded_ne_nil (width value : Nat) : padded width value ≠ [] := by
  simp [padded, ofNat_ne_nil]

theorem value_padded (width value : Nat) : Decimal.value (padded width value) = value := by
  have zeros (count : Nat) : Decimal.value (List.replicate count '0' ++ ofNat value) =
      Decimal.value (ofNat value) := by
    induction count with
    | zero => rfl
    | succ count hypothesis => exact hypothesis
  rw [padded, zeros, value_ofNat]

/-! ## Reading -/

theorem takeWhile_digits {digits rest : List Char} (areDigits : AreDigits digits)
    (ends : EndsNumeral rest) : (digits ++ rest).takeWhile isDigit = digits := by
  rw [List.takeWhile_append_of_pos areDigits]
  cases rest with
  | nil => simp
  | cons letter rest => simp_all

theorem dropWhile_of_endsNumeral {rest : List Char} (ends : EndsNumeral rest) :
    rest.dropWhile isDigit = rest := by
  cases rest with
  | nil => rfl
  | cons letter rest => simp_all

/-- A reader stops where its numeral is as long as it may be, or where the digits end. -/
theorem scan_append {least most : Nat} {digits rest : List Char} (areDigits : AreDigits digits)
    (enough : least ≤ digits.length) (fits : digits.length ≤ most)
    (ends : digits.length = most ∨ EndsNumeral rest) :
    scan least most (digits ++ rest) = some (value digits, rest) := by
  have taken : ((digits ++ rest).take most).takeWhile isDigit = digits := by
    rcases ends with full | ends
    · rw [← full, List.take_left]
      simpa using takeWhile_digits areDigits endsNumeral_nil
    · rw [List.take_append, List.take_of_length_le fits]
      refine takeWhile_digits areDigits fun letter member => ends letter ?_
      cases rest with
      | nil => simp at member
      | cons head rest =>
          cases count : most - digits.length with
          | zero => simp [count] at member
          | succ count' => simpa [count] using member
  rw [scan]
  simp only [taken, List.drop_left]
  rw [if_neg (by omega)]

theorem scan_fixed {width number : Nat} (least : Nat) (rest : List Char)
    (fits : number < 10 ^ width) (enough : least ≤ width) :
    scan least width (fixed width number ++ rest) = some (number, rest) := by
  rw [scan_append (areDigits_fixed width number) (by simpa) (by simp) (.inl (by simp)),
    value_fixed fits]

/-! ## How large a numeral may be -/

theorem digitValue_lt {letter : Char} (digit : isDigit letter = true) : digitValue letter < 10 := by
  have bounds := toNat_digit_bounds digit
  simp only [digitValue]
  have zero : '0'.toNat = 48 := rfl
  omega

theorem value_lt {digits : List Char} (areDigits : AreDigits digits) :
    value digits < 10 ^ digits.length := by
  induction digits using List.reverseRecOn with
  | nil => decide
  | append_singleton digits letter induction =>
      have rest := induction fun other member => areDigits other (List.mem_append_left _ member)
      have last := digitValue_lt (areDigits letter (by simp))
      rw [value_append, List.length_append, List.length_singleton, Nat.pow_succ]
      omega

theorem exists_digits_of_scan {least most number : Nat} {letters rest : List Char}
    (scanned : scan least most letters = some (number, rest)) :
    ∃ digits, letters = digits ++ rest ∧ AreDigits digits ∧ least ≤ digits.length ∧
      digits.length ≤ most ∧ value digits = number := by
  simp only [scan] at scanned
  split at scanned
  · cases scanned
  · rename_i enough
    cases scanned
    have beginning := (List.takeWhile_prefix isDigit (l := letters.take most)).trans
      (List.take_prefix most letters)
    have short := (List.takeWhile_prefix isDigit (l := letters.take most)).length_le
    refine ⟨_, (List.prefix_iff_eq_append.mp beginning).symm, List.all_eq_true.mp List.all_takeWhile,
      Nat.le_of_not_lt enough, short.trans (List.length_take_le ..), rfl⟩

theorem lt_of_scan {least most number : Nat} {letters rest : List Char}
    (scanned : scan least most letters = some (number, rest)) : number < 10 ^ most := by
  rcases exists_digits_of_scan scanned with ⟨digits, -, areDigits, -, short, rfl⟩
  exact Nat.lt_of_lt_of_le (value_lt areDigits) (Nat.pow_le_pow_right (by decide) short)

/-! ## How a number may be written -/

theorem digit_digitValue {letter : Char} (isDigit : Decimal.isDigit letter = true) :
    digit (digitValue letter) = letter := by
  have bounds := toNat_digit_bounds isDigit
  have zero : '0'.toNat = 48 := rfl
  have code : '0'.toNat + (letter.toNat - '0'.toNat) = letter.toNat := by omega
  rw [digit, digitValue, code, Char.ofNat_toNat]

theorem fixed_value {digits : List Char} (areDigits : AreDigits digits) :
    fixed digits.length (value digits) = digits := by
  induction digits using List.reverseRecOn with
  | nil => rfl
  | append_singleton front last induction =>
      have isDigit := areDigits last (by simp)
      have small := digitValue_lt isDigit
      have quotient : (10 * value front + digitValue last) / 10 = value front := by omega
      have remainder : (10 * value front + digitValue last) % 10 = digitValue last := by omega
      rw [value_append, List.length_append, List.length_singleton, fixed, quotient, remainder,
        digit_digitValue isDigit,
        induction fun letter member => areDigits letter (List.mem_append_left _ member)]

theorem ofNat_value {digits : List Char} (areDigits : AreDigits digits) (nonempty : digits ≠ [])
    (plain : ∀ rest, digits = '0' :: rest → rest = []) : ofNat (value digits) = digits := by
  induction digits using List.reverseRecOn with
  | nil => exact absurd rfl nonempty
  | append_singleton front last induction =>
      have isDigit := areDigits last (by simp)
      have small := digitValue_lt isDigit
      by_cases alone : front = []
      · subst alone
        rw [value_append, value, List.foldl_nil, Nat.mul_zero, Nat.zero_add, ofNat, if_pos small,
          digit_digitValue isDigit, List.nil_append]
      · have significant : ∀ rest, front ≠ '0' :: rest := by
          rintro rest rfl
          exact absurd (plain (rest ++ [last]) rfl) (by simp)
        have written := induction (fun letter member => areDigits letter (by simp [member])) alone
          fun rest same => absurd same (significant rest)
        have positive : value front ≠ 0 := by
          intro zero
          rw [zero, ofNat] at written
          exact significant [] written.symm
        rw [value_append, ofNat, if_neg (by omega)]
        have quotient : (10 * value front + digitValue last) / 10 = value front := by omega
        have remainder : (10 * value front + digitValue last) % 10 = digitValue last := by omega
        rw [quotient, remainder, written, digit_digitValue isDigit]

end Turnstile.Text.Decimal
