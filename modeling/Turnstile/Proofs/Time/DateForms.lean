import Turnstile.Proofs.Time.DateText

/-!
Which texts are read as a date, and as which one. The plain form has four digits, two and two, and
every date of the years 0 to 9999 has one text of that form. Beside it the reader takes numbers with
fewer digits, years with a sign, and blanks before every number.
-/

namespace Turnstile.Time

open Turnstile.Text Turnstile.Text.Decimal

def AreBlank (letters : List Char) : Prop :=
  ∀ letter ∈ letters, isBlank letter = true

instance (letters : List Char) : Decidable (AreBlank letters) :=
  List.decidableBAll (isBlank · = true) letters

/-- A month or a day: one or two digits, after any blanks. -/
inductive SpellsField : List Char → Nat → Prop
  | digits {blanks digits : List Char} (areBlank : AreBlank blanks) (areDigits : AreDigits digits)
      (nonempty : digits ≠ []) (short : digits.length ≤ 2) :
      SpellsField (blanks ++ digits) (value digits)

/-- A year: up to four digits, or a sign and any number of digits, after any blanks. -/
inductive SpellsYear : List Char → Int → Prop
  | unsigned {blanks digits : List Char} (areBlank : AreBlank blanks)
      (areDigits : AreDigits digits) (nonempty : digits ≠ []) (short : digits.length ≤ 4) :
      SpellsYear (blanks ++ digits) (value digits)
  | negative {blanks digits : List Char} (areBlank : AreBlank blanks)
      (areDigits : AreDigits digits) (nonempty : digits ≠ []) :
      SpellsYear (blanks ++ '-' :: digits) (-value digits)
  | positive {blanks digits : List Char} (areBlank : AreBlank blanks)
      (areDigits : AreDigits digits) (nonempty : digits ≠ []) :
      SpellsYear (blanks ++ '+' :: digits) (value digits)

inductive SpellsDate : List Char → Date → Prop
  | parts {year month day : List Char} {date : Date} (spellsYear : SpellsYear year date.year)
      (spellsMonth : SpellsField month date.month) (spellsDay : SpellsField day date.day) :
      SpellsDate (year ++ '-' :: (month ++ '-' :: day)) date

structure IsNumeral (width : Nat) (digits : List Char) (number : Nat) : Prop where
  areDigits : AreDigits digits
  length : digits.length = width
  value : value digits = number

/-- `YYYY-MM-DD`. -/
inductive IsPlainForm : List Char → Date → Prop
  | parts {year month day : List Char} {number : Nat} {date : Date}
      (isYear : IsNumeral 4 year number) (same : (number : Int) = date.year)
      (isMonth : IsNumeral 2 month date.month) (isDay : IsNumeral 2 day date.day) :
      IsPlainForm (year ++ '-' :: (month ++ '-' :: day)) date

theorem areBlank_nil : AreBlank [] :=
  fun _ member => absurd member List.not_mem_nil

/-! ## Blanks in front -/

theorem AreBlank.append {blanks more : List Char} (areBlank : AreBlank blanks)
    (moreBlank : AreBlank more) : AreBlank (blanks ++ more) :=
  List.forall_mem_append.mpr ⟨areBlank, moreBlank⟩

theorem SpellsYear.blanks_append {blanks letters : List Char} {number : Int}
    (areBlank : AreBlank blanks) (spells : SpellsYear letters number) :
    SpellsYear (blanks ++ letters) number := by
  cases spells with
  | unsigned moreBlank areDigits nonempty short =>
      rw [← List.append_assoc]
      exact .unsigned (areBlank.append moreBlank) areDigits nonempty short
  | negative moreBlank areDigits nonempty =>
      rw [← List.append_assoc]
      exact .negative (areBlank.append moreBlank) areDigits nonempty
  | positive moreBlank areDigits nonempty =>
      rw [← List.append_assoc]
      exact .positive (areBlank.append moreBlank) areDigits nonempty

theorem SpellsDate.blanks_append {blanks letters : List Char} {date : Date}
    (areBlank : AreBlank blanks) (spells : SpellsDate letters date) :
    SpellsDate (blanks ++ letters) date := by
  cases spells with
  | parts spellsYear spellsMonth spellsDay =>
      rw [← List.append_assoc]
      exact .parts (spellsYear.blanks_append areBlank) spellsMonth spellsDay

/-! ## The plain form -/

theorem isNumeral_iff {width number : Nat} {digits : List Char} :
    IsNumeral width digits number ↔ number < 10 ^ width ∧ digits = fixed width number := by
  constructor
  · rintro ⟨areDigits, rfl, rfl⟩
    exact ⟨value_lt areDigits, (fixed_value areDigits).symm⟩
  · rintro ⟨fits, rfl⟩
    exact ⟨areDigits_fixed width number, length_fixed width number, value_fixed fits⟩

theorem isPlainForm_iff {text : String} {date : Date} :
    IsPlainForm text.toList date ↔ (0 ≤ date.year ∧ date.year ≤ 9999) ∧ text = date.text := by
  have written : text = date.text ↔
      text.toList = yearText date.year ++ '-' :: (fixed 2 date.month ++ '-' :: fixed 2 date.day) := by
    rw [← String.toList_inj, Date.text, String.toList_ofList, civilText, List.append_assoc,
      List.cons_append]
  rw [written]
  constructor
  · intro plain
    generalize text.toList = letters at plain ⊢
    cases plain with
    | parts isYear same isMonth isDay =>
        rcases isNumeral_iff.mp isYear with ⟨fits, rfl⟩
        rcases isNumeral_iff.mp isMonth with ⟨-, rfl⟩
        rcases isNumeral_iff.mp isDay with ⟨-, rfl⟩
        have plainYear : 0 ≤ date.year ∧ date.year ≤ 9999 := by omega
        have number : date.year.toNat = _ := congrArg Int.toNat same.symm
        refine ⟨plainYear, ?_⟩
        rw [yearText, if_pos plainYear, number, Int.toNat_natCast]
  · rintro ⟨plainYear, same⟩
    rw [same, yearText, if_pos plainYear]
    exact .parts (isNumeral_iff.mpr ⟨by omega, rfl⟩) (Int.toNat_of_nonneg plainYear.left)
      (isNumeral_iff.mpr ⟨date.month_lt, rfl⟩) (isNumeral_iff.mpr ⟨date.day_lt, rfl⟩)

theorem IsNumeral.spellsField {digits : List Char} {number : Nat}
    (isNumeral : IsNumeral 2 digits number) : SpellsField digits number := by
  rcases isNumeral with ⟨areDigits, length, rfl⟩
  have nonempty : digits ≠ [] := List.length_pos_iff.mp (by omega)
  exact .digits areBlank_nil areDigits nonempty length.le

theorem IsPlainForm.spellsDate {letters : List Char} {date : Date}
    (plain : IsPlainForm letters date) : SpellsDate letters date := by
  cases plain with
  | @parts year month day number date isYear same isMonth isDay =>
      refine .parts ?_ isMonth.spellsField isDay.spellsField
      rcases isYear with ⟨areDigits, length, rfl⟩
      have nonempty : year ≠ [] := List.length_pos_iff.mp (by omega)
      rw [← same]
      exact .unsigned areBlank_nil areDigits nonempty length.le

/-! ## Reading -/

theorem skipBlanks_append {blanks : List Char} (areBlank : AreBlank blanks) (rest : List Char) :
    skipBlanks (blanks ++ rest) = skipBlanks rest :=
  List.dropWhile_append_of_pos areBlank

theorem exists_blanks (letters : List Char) :
    ∃ blanks, AreBlank blanks ∧ letters = blanks ++ skipBlanks letters :=
  ⟨letters.takeWhile isBlank, List.all_eq_true.mp List.all_takeWhile,
    List.takeWhile_append_dropWhile.symm⟩

namespace Scan

theorem field_append {spelled rest : List Char} {number : Nat}
    (spells : SpellsField spelled number) (ends : EndsNumeral rest) :
    field (spelled ++ rest) = some (number, rest) := by
  cases spells with
  | digits areBlank areDigits nonempty short =>
      rw [field, List.append_assoc, skipBlanks_append areBlank,
        skipBlanks_digits areDigits nonempty,
        scan_append areDigits (List.length_pos_iff.mpr nonempty) short (.inr ends)]

theorem exists_digits_of_skipBlanks {most number : Nat} {letters rest : List Char}
    (scanned : Decimal.scan 1 most (skipBlanks letters) = some (number, rest)) :
    ∃ blanks digits, letters = blanks ++ digits ++ rest ∧ AreBlank blanks ∧ AreDigits digits ∧
      digits ≠ [] ∧ digits.length ≤ most ∧ value digits = number := by
  rcases exists_blanks letters with ⟨blanks, areBlank, whole⟩
  rcases exists_digits_of_scan scanned with ⟨digits, skipped, areDigits, enough, short, counted⟩
  refine ⟨blanks, digits, ?_, areBlank, areDigits, List.length_pos_iff.mp enough, short, counted⟩
  rw [List.append_assoc, ← skipped]
  exact whole

theorem exists_digits_of_sign {number : Nat} {letters signed rest : List Char} {sign : Char}
    (skipped : skipBlanks letters = sign :: signed)
    (scanned : Decimal.scan 1 signed.length signed = some (number, rest)) :
    ∃ blanks digits, letters = blanks ++ sign :: digits ++ rest ∧ AreBlank blanks ∧
      AreDigits digits ∧ digits ≠ [] ∧ value digits = number := by
  rcases exists_blanks letters with ⟨blanks, areBlank, whole⟩
  rcases exists_digits_of_scan scanned with ⟨digits, rfl, areDigits, enough, -, counted⟩
  refine ⟨blanks, digits, ?_, areBlank, areDigits, List.length_pos_iff.mp enough, counted⟩
  rw [List.append_assoc, List.cons_append, ← skipped]
  exact whole

theorem exists_spelling_of_field {letters rest : List Char} {number : Nat}
    (read : field letters = some (number, rest)) :
    ∃ spelled, letters = spelled ++ rest ∧ SpellsField spelled number := by
  rcases exists_digits_of_skipBlanks read with
    ⟨blanks, digits, whole, areBlank, areDigits, nonempty, short, rfl⟩
  exact ⟨_, whole, .digits areBlank areDigits nonempty short⟩

theorem year_blanks {blanks : List Char} (areBlank : AreBlank blanks) (letters : List Char) :
    Scan.year (blanks ++ letters) = Scan.year letters := by
  rw [Scan.year, Scan.year, skipBlanks_append areBlank]

theorem year_append {spelled rest : List Char} {number : Int} (spells : SpellsYear spelled number)
    (ends : EndsNumeral rest) : Scan.year (spelled ++ rest) = some (number, rest) := by
  cases spells with
  | unsigned areBlank areDigits nonempty short =>
      rw [List.append_assoc, year_blanks areBlank, year_digits areDigits nonempty,
        scan_append areDigits (List.length_pos_iff.mpr nonempty) short (.inr ends)]
      rfl
  | negative areBlank areDigits nonempty =>
      rw [List.append_assoc, year_blanks areBlank, List.cons_append, Scan.year,
        skipBlanks_cons (by decide)]
      simp only [scan_signed areDigits nonempty ends, Option.map_some]
  | positive areBlank areDigits nonempty =>
      rw [List.append_assoc, year_blanks areBlank, List.cons_append, Scan.year,
        skipBlanks_cons (by decide)]
      simp only [scan_signed areDigits nonempty ends, Option.map_some]

theorem exists_spelling_of_year {letters rest : List Char} {number : Int}
    (read : Scan.year letters = some (number, rest)) :
    ∃ spelled, letters = spelled ++ rest ∧ SpellsYear spelled number := by
  rw [Scan.year] at read
  split at read
  · rename_i signed skipped
    rcases Option.map_eq_some_iff.mp read with ⟨⟨found, after⟩, scanned, same⟩
    cases same
    rcases exists_digits_of_sign skipped scanned with
      ⟨blanks, digits, whole, areBlank, areDigits, nonempty, rfl⟩
    exact ⟨_, whole, .negative areBlank areDigits nonempty⟩
  · rename_i signed skipped
    rcases Option.map_eq_some_iff.mp read with ⟨⟨found, after⟩, scanned, same⟩
    cases same
    rcases exists_digits_of_sign skipped scanned with
      ⟨blanks, digits, whole, areBlank, areDigits, nonempty, rfl⟩
    exact ⟨_, whole, .positive areBlank areDigits nonempty⟩
  · rcases Option.map_eq_some_iff.mp read with ⟨⟨found, after⟩, scanned, same⟩
    cases same
    rcases exists_digits_of_skipBlanks scanned with
      ⟨blanks, digits, whole, areBlank, areDigits, nonempty, short, rfl⟩
    exact ⟨_, whole, .unsigned areBlank areDigits nonempty short⟩

end Scan

/-- The reader takes just the forms that are described. -/
theorem Date.ofText?_eq_some_iff (text : String) (date : Date) :
    Date.ofText? text = some date ↔ SpellsDate text.toList date := by
  rw [Date.ofText?]
  generalize text.toList = letters
  constructor
  · intro read
    split at read
    · rename_i civil scanned
      obtain rfl := toDate?_eq_some_iff.mp read
      simp only [Scan.civil, id, Option.bind_eq_bind, Option.bind_eq_some_iff, Prod.exists]
        at scanned
      rcases scanned with ⟨year, _, readYear, _, first, month, _, readMonth, _, second, day, _,
        readDay, same⟩
      cases same
      rcases Scan.exists_spelling_of_year readYear with ⟨yearSpelled, rfl, spellsYear⟩
      obtain rfl := Scan.literal_eq_some_iff.mp first
      rcases Scan.exists_spelling_of_field readMonth with ⟨monthSpelled, rfl, spellsMonth⟩
      obtain rfl := Scan.literal_eq_some_iff.mp second
      rcases Scan.exists_spelling_of_field readDay with ⟨daySpelled, rfl, spellsDay⟩
      rw [List.append_nil]
      exact .parts spellsYear spellsMonth spellsDay
    · cases read
  · intro spells
    cases spells with
    | parts spellsYear spellsMonth spellsDay =>
        have hyphen (rest : List Char) : EndsNumeral ('-' :: rest) := (endsNumeral_cons ..).mpr rfl
        have readDay := Scan.field_append spellsDay endsNumeral_nil
        rw [List.append_nil] at readDay
        simp only [Scan.civil, id, Scan.year_append spellsYear (hyphen _), Scan.literal_cons,
          Scan.field_append spellsMonth (hyphen _), readDay, Option.bind_eq_bind, Option.bind_some,
          Option.pure_def]
        exact date.toDate?_fields

end Turnstile.Time
