import Turnstile.Proofs.Text.Decimal
import Turnstile.Proofs.Time.Calendar
import Turnstile.Time.DateText

/-!
A date reads back from its text, by the strict reader and by the lenient one.
-/

namespace Turnstile.Time

open Turnstile.Text Turnstile.Text.Decimal

theorem isBlank_of_isDigit {letter : Char} (isDigit : Decimal.isDigit letter = true) :
    isBlank letter = false := by
  have bounds := toNat_digit_bounds isDigit
  simp [isBlank]
  omega

theorem skipBlanks_cons {letter : Char} (notBlank : isBlank letter = false) (rest : List Char) :
    skipBlanks (letter :: rest) = letter :: rest := by
  simp [skipBlanks, notBlank]

theorem skipBlanks_digits {digits : List Char} (areDigits : AreDigits digits)
    (nonempty : digits ≠ []) (rest : List Char) : skipBlanks (digits ++ rest) = digits ++ rest := by
  cases digits with
  | nil => exact absurd rfl nonempty
  | cons first digits =>
      exact skipBlanks_cons (isBlank_of_isDigit (areDigits first (List.mem_cons_self ..))) _

namespace Scan

theorem field_fixed {number : Nat} (fits : number < 100) (rest : List Char) :
    field (fixed 2 number ++ rest) = some (number, rest) := by
  rw [field, skipBlanks_digits (areDigits_fixed 2 number) (by simp [fixed]),
    scan_fixed 1 rest fits (by decide)]

theorem year_digits {digits : List Char} (areDigits : AreDigits digits) (nonempty : digits ≠ [])
    (rest : List Char) :
    Scan.year (digits ++ rest) =
      (Decimal.scan 1 4 (digits ++ rest)).map fun (value, rest) => ((value : Int), rest) := by
  rw [Scan.year, skipBlanks_digits areDigits nonempty]
  cases digits with
  | nil => exact absurd rfl nonempty
  | cons first digits =>
      have isDigit := areDigits first (List.mem_cons_self ..)
      split
      · rename_i same
        cases same
        exact absurd isDigit (by decide)
      · rename_i same
        cases same
        exact absurd isDigit (by decide)
      · rfl

theorem scan_signed {digits rest : List Char} (areDigits : AreDigits digits)
    (nonempty : digits ≠ []) (ends : EndsNumeral rest) :
    Decimal.scan 1 (digits ++ rest).length (digits ++ rest) = some (value digits, rest) :=
  scan_append areDigits (List.length_pos_iff.mpr nonempty) (by simp) (.inr ends)

theorem scan_padded (width number : Nat) {rest : List Char} (ends : EndsNumeral rest) :
    Decimal.scan 1 (padded width number ++ rest).length (padded width number ++ rest) =
      some (number, rest) := by
  rw [scan_signed (areDigits_padded width number) (padded_ne_nil width number) ends, value_padded]

theorem year_yearText (year : Int) (rest : List Char) (ends : EndsNumeral rest) :
    Scan.year (yearText year ++ rest) = some (year, rest) := by
  rw [yearText]
  by_cases short : 0 ≤ year ∧ year ≤ 9999
  · rw [if_pos short, year_digits (areDigits_fixed 4 _) (by simp [fixed]),
      scan_fixed 1 rest (by omega) (by decide)]
    simp [short.1]
  · rw [if_neg short]
    by_cases negative : year < 0
    · rw [if_pos negative, Scan.year, List.cons_append, skipBlanks_cons (by decide)]
      simp only [scan_padded 4 year.natAbs ends, Option.map_some]
      congr
      omega
    · rw [if_neg negative, Scan.year, List.cons_append, skipBlanks_cons (by decide)]
      simp only [scan_padded 4 year.natAbs ends, Option.map_some]
      congr
      omega

theorem literal_cons (letter : Char) (rest : List Char) :
    Text.Scan.literal letter (letter :: rest) = some rest := by
  simp [Text.Scan.literal]

theorem literal_eq_some_iff {letter : Char} {letters rest : List Char} :
    Text.Scan.literal letter letters = some rest ↔ letters = letter :: rest := by
  cases letters with
  | nil => exact ⟨nofun, nofun⟩
  | cons first others =>
      rw [Text.Scan.literal, Option.ite_none_right_eq_some, Option.some.injEq, List.cons.injEq]

theorem civil_civilText (skip : List Char → List Char)
    (keeps : ∀ rest, skip ('-' :: rest) = '-' :: rest) (year : Int) {month day : Nat}
    (monthFits : month < 100) (dayFits : day < 100) (rest : List Char) :
    Scan.civil skip (civilText year month day ++ rest) = some (⟨year, month, day⟩, rest) := by
  have readYear := year_yearText year ('-' :: (fixed 2 month ++ '-' :: (fixed 2 day ++ rest)))
    ((endsNumeral_cons ..).mpr rfl)
  simp only [Scan.civil, civilText, List.append_assoc, List.cons_append, readYear,
    Option.bind_eq_bind, Option.bind_some, keeps, literal_cons, field_fixed monthFits,
    field_fixed dayFits]
  rfl

end Scan

namespace Date

theorem month_lt (date : Date) : date.month < 100 := by
  have valid := date.valid
  simp only [isCalendarDate, decide_eq_true_eq] at valid
  omega

theorem day_lt (date : Date) : date.day < 100 := by
  have valid := date.valid
  simp only [isCalendarDate, decide_eq_true_eq] at valid
  have month := daysInMonth_le date.year date.month
  omega

@[simp] theorem toDate?_fields (date : Date) :
    Civil.toDate? ⟨date.year, date.month, date.day⟩ = some date := by
  simp [Civil.toDate?, Date.ofFields?, date.valid]

theorem toDate?_eq_some_iff {civil : Civil} {date : Date} :
    civil.toDate? = some date ↔ civil = ⟨date.year, date.month, date.day⟩ := by
  constructor
  · intro valid
    rw [Civil.toDate?, ofFields?] at valid
    split at valid
    · cases valid
      rfl
    · cases valid
  · rintro rfl
    exact date.toDate?_fields

theorem ofText?_text (date : Date) : ofText? date.text = some date := by
  have read := Scan.civil_civilText id (fun _ => rfl) date.year date.month_lt
    date.day_lt []
  rw [List.append_nil] at read
  simp [ofText?, text, read]

theorem ofSpacedText?_text (date : Date) : ofSpacedText? date.text = some date := by
  have read := Scan.civil_civilText skipBlanks (skipBlanks_cons (by decide)) date.year
    date.month_lt date.day_lt []
  rw [List.append_nil] at read
  simp [ofSpacedText?, text, read, skipBlanks]

end Date

end Turnstile.Time
