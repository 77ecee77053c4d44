import Turnstile.Proofs.Time.Milliseconds

/-!
Which instants a timestamp can name. It shows a year of four digits, but the offset from universal
time may carry it into the last day before these years or into the first day after them.
-/

namespace Turnstile.Time

open Turnstile.Text Turnstile.Text.Decimal

namespace Scan

theorem offset_bounds {colon : List Char → Option (List Char)} {letters rest : List Char}
    {seconds : Int} (read : offset colon letters = some (seconds, rest)) :
    -86400 < seconds ∧ seconds < 86400 := by
  unfold offset at read
  split at read
  · cases read
    decide
  · cases read
    decide
  -- a sign is read, and then the same hours and minutes after any of the three
  iterate 3
    · simp only [Option.bind_eq_bind, Option.bind_eq_some_iff, Prod.exists] at read
      rcases read with ⟨hours, _, -, _, -, minutes, _, -, read⟩
      split at read
      · rename_i small
        cases read
        split <;> omega
      · cases read
  · cases read

end Scan

namespace Instant

theorem seconds_of_ofUnix? {seconds : Int} {nanoseconds : Nat} {instant : Instant}
    (made : ofUnix? seconds nanoseconds = some instant) : instant.seconds = seconds := by
  rw [ofUnix?] at made
  split at made
  · cases made
    rfl
  · cases made

theorem day_of_ofClock? {civil : Civil} {time : TimeOfDay} {offset : Int} {instant : Instant}
    (small : -86400 < offset ∧ offset < 86400) (read : ofClock? civil time offset = some instant) :
    ∃ date : Date, civil.toDate? = some date ∧ date.dayNumber - 1 ≤ instant.seconds / 86400 ∧
      instant.seconds / 86400 ≤ date.dayNumber + 1 := by
  simp only [ofClock?, Option.bind_eq_bind, Option.bind_eq_some_iff] at read
  rcases read with ⟨date, there, read⟩
  refine ⟨date, there, ?_⟩
  split at read
  · rename_i shown
    have counted := seconds_of_ofUnix? read
    rw [counted]
    omega
  · cases read

theorem year_of_toDate? {civil : Civil} {date : Date} (valid : civil.toDate? = some date) :
    date.year = civil.year := by
  rw [Date.toDate?_eq_some_iff.mp valid]

/-- A timestamp shows a year of four digits, so that in universal time it lies in such a year or on
one of two days beside them. -/
theorem day_of_ofText? {text : String} {instant : Instant} (read : ofText? text = some instant) :
    dayNumber 0 1 1 - 1 ≤ instant.seconds / 86400 ∧
      instant.seconds / 86400 ≤ dayNumber 9999 12 31 + 1 := by
  simp only [ofText?, Option.bind_eq_bind, Option.bind_eq_some_iff, Prod.exists] at read
  rcases read with ⟨year, _, yearRead, _, -, month, _, -, _, -, day, _, -, _, _, -, time, _, -,
    offset, _, offsetRead, read⟩
  split at read
  · rcases day_of_ofClock? (Scan.offset_bounds offsetRead) read with ⟨date, valid, lower, upper⟩
    have shown : date.year = year := year_of_toDate? valid
    have plain := lt_of_scan yearRead
    have bounds := date.dayNumber_bounds (show 0 ≤ date.year by omega)
      (show date.year ≤ 9999 by omega)
    omega
  · cases read

theorem hasPlainYear_of_day {instant : Instant} (start : dayNumber 0 1 1 ≤ instant.seconds / 86400)
    (stop : instant.seconds / 86400 ≤ dayNumber 9999 12 31) : instant.hasPlainYear = true := by
  rw [← CycleDay.number_ofDayNumber (instant.seconds / 86400)] at start stop
  have bounds := CycleDay.year_bounds _ start stop
  rw [CycleDay.civil_ofDayNumber] at bounds
  rw [hasPlainYear, decide_eq_true_eq, date]
  exact bounds

theorem hasPlainYear_iff (instant : Instant) :
    instant.hasPlainYear = true ↔
      86400 * dayNumber 0 1 1 ≤ instant.seconds ∧
        instant.seconds < 86400 * dayNumber 10000 1 1 := by
  have first : dayNumber 0 1 1 = -719528 := by decide
  have last : dayNumber 9999 12 31 = 2932896 := by decide
  have after : dayNumber 10000 1 1 = 2932897 := by decide
  constructor
  · intro plain
    rcases instant.exists_date with ⟨shown, civil, day⟩
    rw [hasPlainYear, decide_eq_true_eq, date, civil] at plain
    have bounds := shown.dayNumber_bounds plain.left plain.right
    omega
  · intro within
    exact hasPlainYear_of_day (by omega) (by omega)

theorem date_of_signed {text : String} {instant : Instant} (read : ofText? text = some instant)
    (signed : instant.hasPlainYear = false) :
    instant.date = ⟨-1, 12, 31⟩ ∨ instant.date = ⟨10000, 1, 1⟩ := by
  have first : dayNumber 0 1 1 = -719528 := by decide
  have last : dayNumber 9999 12 31 = 2932896 := by decide
  have bounds := day_of_ofText? read
  by_cases start : dayNumber 0 1 1 ≤ instant.seconds / 86400
  · by_cases stop : instant.seconds / 86400 ≤ dayNumber 9999 12 31
    · rw [hasPlainYear_of_day start stop] at signed
      cases signed
    · right
      rw [date, show instant.seconds / 86400 = 2932897 by omega]
      decide
  · left
    rw [date, show instant.seconds / 86400 = -719529 by omega]
    decide

end Instant

end Turnstile.Time
