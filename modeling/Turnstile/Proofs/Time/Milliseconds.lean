import Mathlib.Order.Bounds.Defs
import Turnstile.Proofs.Time.InstantText

/-!
Instants that are written to the millisecond and read as internet timestamps. Such a timestamp has
a year of four digits. What is beyond the milliseconds is lost and nothing else is, in leap seconds
too; but an instant outside the years 0 to 9999 is written with a sign before its year, which is
never read again.
-/

namespace Turnstile.Time

open Turnstile.Text Turnstile.Text.Decimal

namespace Instant

def date (instant : Instant) : Civil :=
  Civil.ofDayNumber (instant.seconds / 86400)

def hasPlainYear (instant : Instant) : Bool :=
  decide (0 ≤ instant.date.year ∧ instant.date.year ≤ 9999)

theorem isInstant_milliseconds (instant : Instant) :
    isInstant instant.seconds (instant.nanoseconds / 1000000 * 1000000) = true := by
  have bounds := instant.bounds
  simp only [isInstant, decide_eq_true_eq]
  omega

/-- The instant at the beginning of its millisecond. -/
def toMilliseconds (instant : Instant) : Instant where
  seconds := instant.seconds
  nanoseconds := instant.nanoseconds / 1000000 * 1000000
  valid := instant.isInstant_milliseconds

theorem le_nanoseconds_toMilliseconds (instant : Instant) :
    instant.toMilliseconds.nanoseconds ≥ 1000000000 ↔ instant.nanoseconds ≥ 1000000000 := by
  simp only [toMilliseconds]
  omega

theorem nanoseconds_toMilliseconds_sub (instant : Instant) (leap : Nat) :
    instant.toMilliseconds.nanoseconds - 1000000000 * leap =
      (instant.nanoseconds - 1000000000 * leap) / 1000000 * 10 ^ (9 - 3) := by
  simp only [toMilliseconds]
  omega

/-- Cutting never rounds up: no later instant of whole milliseconds lies before the given one. -/
theorem isGreatest_toMilliseconds (instant : Instant) :
    IsGreatest {cut : Instant | cut ≤ instant ∧ cut.nanoseconds % 1000000 = 0}
      instant.toMilliseconds := by
  constructor
  · refine ⟨(le_iff ..).mpr (.inr ⟨rfl, ?_⟩), ?_⟩
    · exact Nat.div_mul_le_self instant.nanoseconds 1000000
    · exact Nat.mul_mod_left (instant.nanoseconds / 1000000) 1000000
  · rintro cut ⟨before, whole⟩
    rw [le_iff] at before ⊢
    simp only [toMilliseconds]
    omega

end Instant

theorem yearText_of_plain {year : Int} (plain : 0 ≤ year ∧ year ≤ 9999) :
    yearText year = fixed 4 year.toNat :=
  if_pos plain

theorem scan_yearText_of_signed {year : Int} (signed : ¬ (0 ≤ year ∧ year ≤ 9999))
    (rest : List Char) : Decimal.scan 4 4 (yearText year ++ rest) = none := by
  rw [yearText, if_neg signed]
  by_cases negative : year < 0
  · rw [if_pos negative]
    rfl
  · rw [if_neg negative]
    rfl

namespace Instant

theorem ofText?_text_of_signed {instant : Instant} (signed : instant.hasPlainYear = false)
    (precision : Precision) : ofText? (instant.text precision) = none := by
  rw [hasPlainYear, decide_eq_false_iff_not, date] at signed
  simp only [ofText?, text, civilText, String.toList_ofList, List.append_assoc,
    scan_yearText_of_signed signed, Option.bind_eq_bind, Option.bind_none]

theorem ofText?_text_of_plain {instant : Instant} (plain : instant.hasPlainYear = true) :
    ofText? (instant.text .milliseconds) = some instant.toMilliseconds := by
  rcases instant.exists_date with ⟨date, civil, day⟩
  rcases instant.bounds with ⟨-, -, nanoseconds⟩
  have lengthened : (if instant.nanoseconds ≥ 1000000000 then 1000000000 else 0) =
      1000000000 * (if instant.nanoseconds ≥ 1000000000 then 1 else 0) := by
    split <;> rfl
  rw [hasPlainYear, decide_eq_true_eq, Instant.date, civil] at plain
  dsimp only at plain
  have shown := instant.toMilliseconds.ofClock?_shown date _ day rfl
  simp only [nanoseconds_toMilliseconds_sub, le_nanoseconds_toMilliseconds] at shown
  have fits : (if instant.nanoseconds ≥ 1000000000 then 1 else 0) ≤ 1
      ∧ (instant.nanoseconds - 1000000000 * (if instant.nanoseconds ≥ 1000000000 then 1 else 0))
          / 1000000 < 10 ^ 3 := by
    split <;> omega
  simp only [text, civil, lengthened, civilText, yearText_of_plain plain]
  generalize (if instant.nanoseconds ≥ 1000000000 then 1 else 0) = leap at *
  have yearRead : ((date.year.toNat : Nat) : Int) = date.year := Int.toNat_of_nonneg plain.left
  have ends : EndsNumeral ['Z'] := (endsNumeral_cons ..).mpr rfl
  have readNumber : ∀ {value : Nat}, value < 100 → ∀ rest,
      Decimal.scan 2 2 (fixed 2 value ++ rest) = some (value, rest) :=
    fun fits rest => scan_fixed 2 rest fits (Nat.le_refl 2)
  have readTime := Scan.timeOfDay_fixed readNumber
    (show ∀ rest, id (':' :: rest) = ':' :: rest from fun _ => rfl)
    (show (instant.seconds % 86400).toNat / 3600 < 100 by omega)
    (show (instant.seconds % 86400).toNat / 60 % 60 < 100 by omega)
    (show (instant.seconds % 86400).toNat % 60 + leap < 100 by omega)
    (Scan.fraction_point ['Z'] fits.right (by decide) (by decide) ends)
  have yearFits : date.year.toNat < 10 ^ 4 := by omega
  simp only [ofText?, String.toList_ofList, List.append_assoc, List.cons_append,
    scan_fixed 4 _ yearFits (Nat.le_refl 4), readNumber date.month_lt, readNumber date.day_lt,
    Scan.literal_cons, Scan.separator, fractionText, readTime, Option.bind_eq_bind,
    Option.bind_some, yearRead]
  exact shown

/-- Written to the millisecond, an instant is read again exactly if its year is plain. -/
theorem ofText?_text_milliseconds (instant : Instant) :
    ofText? (instant.text .milliseconds) =
      if instant.hasPlainYear then some instant.toMilliseconds else none := by
  split
  · rename_i plain
    exact ofText?_text_of_plain plain
  · rename_i signed
    exact ofText?_text_of_signed (Bool.eq_false_iff.mpr signed) _

end Instant

end Turnstile.Time
