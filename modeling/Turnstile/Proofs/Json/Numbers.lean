import Turnstile.Json.Writer
import Turnstile.Proofs.Json.Spelling
import Turnstile.Proofs.Text.Decimal

/-!
A number is written in one of its spellings: the shortest, but for an exponent that it keeps.
-/

namespace Turnstile.Json

open Turnstile.Text Turnstile.Text.Decimal

@[simp] theorem ascii_append (left right : List Char) :
    ascii (left ++ right) = ascii left ++ ascii right :=
  List.map_append

@[simp] theorem ascii_cons (letter : Char) (rest : List Char) :
    ascii (letter :: rest) = UInt8.ofNat letter.toNat :: ascii rest := rfl

@[simp] theorem ascii_nil : ascii [] = [] := rfl

/-! ## Digits -/

theorem toNat_digitByte {letter : Char} (isDigit : Decimal.isDigit letter = true) :
    (UInt8.ofNat letter.toNat).toNat = letter.toNat := by
  have bounds := toNat_digit_bounds isDigit
  simp
  omega

theorem isDigitByte_digit {letter : Char} (isDigit : Decimal.isDigit letter = true) :
    isDigitByte (UInt8.ofNat letter.toNat) = true := by
  have bounds := toNat_digit_bounds isDigit
  have same := toNat_digitByte isDigit
  simp [isDigitByte, UInt8.le_iff_toNat_le, same]
  omega

theorem digitsValue_ascii {digits : List Char} (areDigits : AreDigits digits) :
    digitsValue (ascii digits) = value digits := by
  have step (total : Nat) :
      (ascii digits).foldl (fun total byte => 10 * total + (byte.toNat - 0x30)) total =
        digits.foldl (fun total letter => 10 * total + digitValue letter) total := by
    induction digits generalizing total with
    | nil => rfl
    | cons letter digits hypothesis =>
        have first := toNat_digitByte (areDigits letter (List.mem_cons_self ..))
        simp only [ascii_cons, List.foldl_cons, first]
        exact hypothesis (fun other member => areDigits other (List.mem_cons_of_mem _ member)) _
  exact step 0

theorem isNumeral_ascii {digits : List Char} (areDigits : AreDigits digits)
    (nonempty : digits ≠ []) : IsNumeral (ascii digits) where
  nonempty same := nonempty (List.map_eq_nil_iff.mp same)
  digits byte member := by
    rcases List.mem_map.mp member with ⟨letter, inDigits, rfl⟩
    exact isDigitByte_digit (areDigits letter inDigits)

theorem isNumeral_ofNat (number : Nat) : IsNumeral (ascii (ofNat number)) :=
  isNumeral_ascii (areDigits_ofNat number) (ofNat_ne_nil number)

theorem digitsValue_ofNat (number : Nat) : digitsValue (ascii (ofNat number)) = number := by
  rw [digitsValue_ascii (areDigits_ofNat number), value_ofNat]

/-! ## The parts of a number -/

theorem ascii_ofNat_ne (number : Nat) (byte : UInt8) (bytes : Bytes) :
    ascii (ofNat number) ≠ 0x30 :: byte :: bytes := by
  intro same
  cases numeral : ofNat number with
  | nil => exact ofNat_ne_nil _ numeral
  | cons first letters =>
      have isDigit := areDigits_ofNat number first (by simp [numeral])
      rw [numeral, ascii_cons, List.cons.injEq] at same
      have code : first.toNat = '0'.toNat := by
        rw [← toNat_digitByte isDigit, same.1]
        rfl
      have zero : number = 0 := by
        by_contra positive
        rw [Char.toNat_inj.mp code] at numeral
        exact ofNat_ne_zero_cons (Nat.pos_of_ne_zero positive) letters numeral
      rw [zero, ofNat] at numeral
      cases numeral
      simp at same

theorem spellsWhole_ofNat (number : Nat) : SpellsWhole number (ascii (ofNat number)) where
  numeral := isNumeral_ofNat number
  noZero rest same := by
    cases rest with
    | nil => rfl
    | cons byte rest => exact absurd same (ascii_ofNat_ne number byte rest)
  value := digitsValue_ofNat number

theorem areDigits_places (places : List (Fin 10)) :
    AreDigits (places.map fun place => digit place.val) := by
  intro letter member
  rcases List.mem_map.mp member with ⟨place, _, rfl⟩
  exact isDigit_digit place.isLt

theorem placeOfByte_digit : ∀ place : Fin 10,
    Fin.ofNat 10 ((UInt8.ofNat (digit place.val).toNat).toNat - 0x30) = place := by
  decide

theorem places_ofBytes (places : List (Fin 10)) :
    (ascii (places.map fun place => digit place.val)).map
      (fun byte => Fin.ofNat 10 (byte.toNat - 0x30)) = places := by
  induction places with
  | nil => rfl
  | cons place places hypothesis =>
      rw [List.map_cons, ascii_cons, List.map_cons, placeOfByte_digit, hypothesis]

def placesText (places : List (Fin 10)) : List Char :=
  if places.isEmpty then [] else '.' :: places.map fun place => digit place.val

theorem spellsPlaces_ascii (places : List (Fin 10)) :
    SpellsPlaces places (ascii (placesText places)) := by
  cases places with
  | nil => exact .absent
  | cons place places =>
      have spells := SpellsPlaces.present
        (isNumeral_ascii (areDigits_places (place :: places)) (List.cons_ne_nil _ _))
      rwa [places_ofBytes] at spells

def exponentText (exponent : Int) : List Char :=
  if exponent = 0 then [] else 'e' :: ofInt exponent

theorem spellsExponent_ascii (exponent : Int) :
    SpellsExponent exponent (ascii (exponentText exponent)) := by
  rw [exponentText]
  split
  · rename_i zero
    rw [zero]
    exact .absent
  · cases exponent with
    | ofNat number =>
        have spells := SpellsExponent.unsigned (.inl rfl) (isNumeral_ofNat number)
        rwa [digitsValue_ofNat] at spells
    | negSucc number =>
        have spells := SpellsExponent.negative (.inl rfl) (isNumeral_ofNat (number + 1))
        rwa [digitsValue_ofNat] at spells

theorem spellsNumber_write (value : Number) : SpellsNumber value (writeNumber value) := by
  rcases value with ⟨negative, whole, places, exponent⟩
  have written : writeNumber ⟨negative, whole, places, exponent⟩ =
      ascii (if negative then ['-'] else []) ++ ascii (ofNat whole)
        ++ ascii (placesText places) ++ ascii (exponentText exponent) := by
    simp only [writeNumber, placesText, exponentText, ascii_append]
  rw [written]
  cases negative with
  | true =>
      exact .negative (spellsWhole_ofNat whole) (spellsPlaces_ascii places)
        (spellsExponent_ascii exponent)
  | false =>
      exact .positive (spellsWhole_ofNat whole) (spellsPlaces_ascii places)
        (spellsExponent_ascii exponent)

end Turnstile.Json
