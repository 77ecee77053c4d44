import Turnstile.Proofs.Time.Calendar
import Turnstile.Proofs.Time.DateText
import Turnstile.Proofs.Time.TimeLine
import Turnstile.Time.InstantText

/-!
An instant reads back from its exact text, whatever its year, its fraction of a second, and whether
it lies in a leap second or not.
-/

namespace Turnstile.Time

open Turnstile.Text Turnstile.Text.Decimal

namespace Scan

theorem fraction_point {width number : Nat} (rest : List Char) (fits : number < 10 ^ width)
    (positive : 1 ≤ width) (short : width ≤ 9) (ends : EndsNumeral rest) :
    fraction ('.' :: (fixed width number ++ rest)) = some (number * 10 ^ (9 - width), rest) := by
  have scanned : Decimal.scan 1 9 (fixed width number ++ rest) = some (number, rest) := by
    rw [scan_append (areDigits_fixed width number) (by simpa) (by simpa) (.inr ends),
      value_fixed fits]
  simp [fraction, scanned, dropWhile_of_endsNumeral ends]

theorem fraction_exact {nanoseconds : Nat} (fits : nanoseconds < 1000000000) (rest : List Char) :
    fraction (fractionText .exact nanoseconds ++ 'Z' :: rest) =
      some (nanoseconds, 'Z' :: rest) := by
  have ends : EndsNumeral ('Z' :: rest) := (endsNumeral_cons ..).mpr rfl
  simp only [fractionText]
  split
  · rename_i zero
    simp [fraction, zero]
  split
  · rename_i thousands
    rw [List.cons_append, fraction_point _ (by omega) (by decide) (by decide) ends]
    congr
    omega
  split
  · rename_i millions
    rw [List.cons_append, fraction_point _ (by omega) (by decide) (by decide) ends]
    congr
    omega
  · rw [List.cons_append, fraction_point _ (by omega) (by decide) (by decide) ends]
    congr
    omega

theorem timeOfDay_fixed {number : Text.Scan Nat} {skip : List Char → List Char}
    (reads : ∀ {value : Nat}, value < 100 → ∀ rest,
      number (fixed 2 value ++ rest) = some (value, rest))
    (keeps : ∀ rest, skip (':' :: rest) = ':' :: rest) {hour minute second nanoseconds : Nat}
    (hourFits : hour < 100) (minuteFits : minute < 100) (secondFits : second < 100)
    {shown rest : List Char} (fractionRead : fraction shown = some (nanoseconds, rest)) :
    timeOfDay number skip
        (fixed 2 hour ++ ':' :: (fixed 2 minute ++ ':' :: (fixed 2 second ++ shown))) =
      some (⟨hour, minute, second, nanoseconds⟩, rest) := by
  simp only [timeOfDay, reads hourFits, reads minuteFits, reads secondFits, keeps, literal_cons,
    fractionRead, Option.bind_eq_bind, Option.bind_some]
  rfl

end Scan

namespace Instant

theorem ofUnix?_self (instant : Instant) :
    ofUnix? instant.seconds instant.nanoseconds = some instant := by
  simp [ofUnix?, instant.valid]

theorem exists_date (instant : Instant) :
    ∃ date : Date, Civil.ofDayNumber (instant.seconds / 86400) = ⟨date.year, date.month, date.day⟩
      ∧ date.dayNumber = instant.seconds / 86400 := by
  have first : dayNumber firstYear 1 1 = -96465292 := by decide
  have last : dayNumber lastYear 12 31 = 95026236 := by decide
  rcases instant.bounds with ⟨lower, upper, -⟩
  simp only [firstSecond, lastSecond] at lower upper
  have valid := isCalendarDate_ofDayNumber
    (show dayNumber firstYear 1 1 ≤ instant.seconds / 86400 by omega) (by omega)
  exact ⟨⟨_, _, _, valid⟩, rfl, dayNumber_ofDayNumber _⟩

/-- What a clock of universal time shows at an instant, it shows at no other one. -/
theorem ofClock?_shown (instant : Instant) (date : Date) (leap : Nat)
    (day : date.dayNumber = instant.seconds / 86400)
    (leapShown : leap = if instant.nanoseconds ≥ 1000000000 then 1 else 0) :
    ofClock? ⟨date.year, date.month, date.day⟩
        ⟨(instant.seconds % 86400).toNat / 3600, (instant.seconds % 86400).toNat / 60 % 60,
          (instant.seconds % 86400).toNat % 60 + leap,
          instant.nanoseconds - 1000000000 * leap⟩ 0 = some instant := by
  rcases instant.bounds with ⟨-, -, nanoseconds⟩
  have second : min ((instant.seconds % 86400).toNat % 60 + leap) 59 =
      (instant.seconds % 86400).toNat % 60 := by
    split at leapShown <;> omega
  have nanosecond : instant.nanoseconds - 1000000000 * leap
      + (if (instant.seconds % 86400).toNat % 60 + leap = 60 then 1000000000 else 0) =
        instant.nanoseconds := by
    split at leapShown <;> split <;> omega
  have inDay : (instant.seconds % 86400).toNat / 3600 ≤ 23
      ∧ (instant.seconds % 86400).toNat / 60 % 60 ≤ 59
      ∧ (instant.seconds % 86400).toNat % 60 + leap ≤ 60 := by
    split at leapShown <;> omega
  have total : 86400 * (instant.seconds / 86400)
      + ((3600 * ((instant.seconds % 86400).toNat / 3600)
        + 60 * ((instant.seconds % 86400).toNat / 60 % 60)
        + (instant.seconds % 86400).toNat % 60 : Nat) : Int) - 0 = instant.seconds := by
    omega
  simp only [ofClock?, Date.toDate?_fields, Option.bind_eq_bind, Option.bind_some, day, second,
    nanosecond]
  rw [if_pos inDay, total, ofUnix?_self]

theorem ofSpacedText?_text (instant : Instant) :
    ofSpacedText? (instant.text .exact) = some instant := by
  rcases instant.exists_date with ⟨date, civil, day⟩
  rcases instant.bounds with ⟨-, -, nanoseconds⟩
  have lengthened : (if instant.nanoseconds ≥ 1000000000 then 1000000000 else 0) =
      1000000000 * (if instant.nanoseconds ≥ 1000000000 then 1 else 0) := by
    split <;> rfl
  have shown := instant.ofClock?_shown date _ day rfl
  have fits : (if instant.nanoseconds ≥ 1000000000 then 1 else 0) ≤ 1
      ∧ instant.nanoseconds
        - 1000000000 * (if instant.nanoseconds ≥ 1000000000 then 1 else 0) < 1000000000 := by
    split <;> omega
  simp only [text, civil, lengthened]
  generalize (if instant.nanoseconds ≥ 1000000000 then 1 else 0) = leap at *
  have readDate := Scan.civil_civilText skipBlanks (skipBlanks_cons (by decide)) date.year
    date.month_lt date.day_lt
  have readTime := Scan.timeOfDay_fixed Scan.field_fixed (skipBlanks_cons (by decide))
    (show (instant.seconds % 86400).toNat / 3600 < 100 by omega)
    (show (instant.seconds % 86400).toNat / 60 % 60 < 100 by omega)
    (show (instant.seconds % 86400).toNat % 60 + leap < 100 by omega)
    (Scan.fraction_exact fits.2 [])
  have skipped : skipBlanks ['Z'] = ['Z'] := by decide
  simp only [ofSpacedText?, String.toList_ofList, List.append_assoc, List.cons_append, readDate,
    Scan.separator, readTime, skipped, Option.bind_eq_bind, Option.bind_some]
  exact shown

end Instant

end Turnstile.Time
