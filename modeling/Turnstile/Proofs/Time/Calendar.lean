import Mathlib.Tactic.IntervalCases
import Turnstile.Time.Instant

/-!
Counting days and naming them by date are inverse to each other. The days between two dates have the
years between theirs, so every day of an instant has a date within the calendar.
-/

namespace Turnstile.Time

theorem isLeapYear_iff (year : Int) :
    isLeapYear year = true ↔ year % 4 = 0 ∧ (year % 100 ≠ 0 ∨ year % 400 = 0) := by
  simp [isLeapYear]

theorem dayNumber_january (year : Int) :
    dayNumber year 1 1 =
      365 * (year - 1) + (year - 1) / 4 - (year - 1) / 100 + (year - 1) / 400 + 307 - 719469 := rfl

theorem dayNumber_december (year : Int) :
    dayNumber year 12 31 = 365 * year + year / 4 - year / 100 + year / 400 + 306 - 719469 := rfl

/-- How a day is found: 400 years always have 146097 days, 100 of them 36524 but for the last
century, four of them 1461 but for the last ones of most centuries, one year 365 but for a leap
year. Only the last day of a leap year has the number 365. -/
structure CycleDay where
  cycle : Int
  century : Nat
  leapSpan : Nat
  yearOfSpan : Nat
  dayOfYear : Nat
  century_le : century ≤ 3
  leapSpan_le : leapSpan ≤ 24
  yearOfSpan_le : yearOfSpan ≤ 3
  dayOfYear_le : dayOfYear ≤ 365
  leap_of_last : dayOfYear = 365 → yearOfSpan = 3 ∧ (leapSpan < 24 ∨ century = 3)

namespace CycleDay

def ofDayNumber (number : Int) : CycleDay :=
  let inCycle := ((number + 719468) % 146097).toNat
  let century := min (inCycle / 36524) 3
  let inCentury := inCycle - 36524 * century
  let inSpan := inCentury % 1461
  let yearOfSpan := min (inSpan / 365) 3
  { cycle := (number + 719468) / 146097
    century
    leapSpan := inCentury / 1461
    yearOfSpan
    dayOfYear := inSpan - 365 * yearOfSpan
    century_le := by omega
    leapSpan_le := by omega
    yearOfSpan_le := by omega
    dayOfYear_le := by omega
    leap_of_last := by omega }

def marchYear (day : CycleDay) : Int :=
  400 * day.cycle + ((100 * day.century + 4 * day.leapSpan + day.yearOfSpan : Nat) : Int)

def marchMonth (day : CycleDay) : Nat :=
  (5 * day.dayOfYear + 2) / 153

def civil (day : CycleDay) : Civil where
  year := if day.marchMonth < 10 then day.marchYear else day.marchYear + 1
  month := if day.marchMonth < 10 then day.marchMonth + 3 else day.marchMonth - 9
  day := day.dayOfYear - (153 * day.marchMonth + 2) / 5 + 1

theorem civil_ofDayNumber (number : Int) :
    (ofDayNumber number).civil = Civil.ofDayNumber number := rfl

def number (day : CycleDay) : Int :=
  146097 * day.cycle
    + ((36524 * day.century + 1461 * day.leapSpan + 365 * day.yearOfSpan
      + day.dayOfYear : Nat) : Int)
    - 719468

theorem number_ofDayNumber (number : Int) : (ofDayNumber number).number = number := by
  simp only [CycleDay.number, ofDayNumber]
  omega

theorem marchMonth_le (day : CycleDay) : day.marchMonth ≤ 11 := by
  have := day.dayOfYear_le
  simp only [marchMonth]
  omega

theorem leapDays (day : CycleDay) :
    day.marchYear / 4 - day.marchYear / 100 + day.marchYear / 400 =
      97 * day.cycle + ((24 * day.century + day.leapSpan : Nat) : Int) := by
  have centuryBound := day.century_le
  have spanBound := day.leapSpan_le
  have yearBound := day.yearOfSpan_le
  simp only [marchYear]
  omega

theorem dayNumber_civil (day : CycleDay) :
    dayNumber day.civil.year day.civil.month day.civil.day = day.number := by
  have leaps := day.leapDays
  have bound := day.dayOfYear_le
  have monthBound := day.marchMonth_le
  have started : (153 * day.marchMonth + 2) / 5 ≤ day.dayOfYear := by
    simp only [marchMonth]
    omega
  simp only [dayNumber, civil, CycleDay.number]
  by_cases early : day.marchMonth < 10
  · have late : ¬ day.marchMonth + 3 ≤ 2 := by omega
    simp only [early, late, if_true, if_false, Nat.add_sub_cancel]
    simp only [marchYear] at leaps ⊢
    omega
  · have january : day.marchMonth - 9 ≤ 2 := by omega
    have month : day.marchMonth - 9 + 9 = day.marchMonth := by omega
    simp only [early, january, month, if_true, if_false, Int.add_sub_cancel]
    simp only [marchYear] at leaps ⊢
    omega

private theorem length_marchMonth (year : Int) (month : Nat) (early : month ≤ 10) :
    (153 * (month + 1) + 2) / 5 - (153 * month + 2) / 5 =
      daysInMonth year (if month < 10 then month + 3 else month - 9) := by
  interval_cases month <;> rfl

theorem day_le (day : CycleDay) :
    day.civil.day ≤ daysInMonth day.civil.year day.civil.month := by
  have bound := day.dayOfYear_le
  have monthBound := day.marchMonth_le
  have month : day.marchMonth = (5 * day.dayOfYear + 2) / 153 := rfl
  by_cases early : day.marchMonth ≤ 10
  · simp only [civil, ← length_marchMonth _ _ early]
    omega
  · have february : day.marchMonth = 11 := by omega
    simp only [civil, february]
    by_cases last : day.dayOfYear = 365
    · rcases day.leap_of_last last with ⟨yearLast, spans⟩
      have century := day.century_le
      have span := day.leapSpan_le
      have leap : isLeapYear (day.marchYear + 1) = true := by
        rw [isLeapYear_iff]
        simp only [marchYear]
        rcases spans with spans | spans <;> omega
      simp [daysInMonth, leap, last]
    · simp [daysInMonth]
      split <;> omega

theorem month_bounds (day : CycleDay) : 1 ≤ day.civil.month ∧ day.civil.month ≤ 12 := by
  have bound := day.marchMonth_le
  simp only [civil]
  split <;> omega

theorem year_bounds (day : CycleDay) {first last : Int} (start : dayNumber first 1 1 ≤ day.number)
    (stop : day.number ≤ dayNumber last 12 31) :
    first ≤ day.civil.year ∧ day.civil.year ≤ last := by
  have bound := day.dayOfYear_le
  have month : day.marchMonth = (5 * day.dayOfYear + 2) / 153 := rfl
  have counted : day.number = 365 * day.marchYear
      + (day.marchYear / 4 - day.marchYear / 100 + day.marchYear / 400)
      + day.dayOfYear - 719468 := by
    simp only [CycleDay.number, day.leapDays]
    simp only [marchYear]
    omega
  rw [dayNumber_january] at start
  rw [dayNumber_december] at stop
  simp only [civil]
  generalize day.marchYear = year at *
  generalize day.number = number at *
  -- A year that starts in March reaches into the next one, so each end has a year of which only
  -- the last two months, or the first ten, lie between the ends.
  have lower : first - 1 ≤ year := by omega
  have upper : year ≤ last := by omega
  rcases Int.lt_or_eq_of_le lower with inside | before
  · rcases Int.lt_or_eq_of_le upper with below | after
    · split <;> omega
    · subst after
      split <;> omega
  · subst before
    split <;> omega

end CycleDay

theorem dayNumber_ofDayNumber (number : Int) :
    dayNumber (Civil.ofDayNumber number).year (Civil.ofDayNumber number).month
      (Civil.ofDayNumber number).day = number := by
  rw [← CycleDay.civil_ofDayNumber, CycleDay.dayNumber_civil, CycleDay.number_ofDayNumber]

theorem isCalendarDate_ofDayNumber {number : Int} (first : dayNumber firstYear 1 1 ≤ number)
    (last : number ≤ dayNumber lastYear 12 31) :
    isCalendarDate (Civil.ofDayNumber number).year (Civil.ofDayNumber number).month
      (Civil.ofDayNumber number).day = true := by
  rw [← CycleDay.number_ofDayNumber number] at first last
  have years := CycleDay.year_bounds _ first last
  have months := (CycleDay.ofDayNumber number).month_bounds
  have days := (CycleDay.ofDayNumber number).day_le
  rw [CycleDay.civil_ofDayNumber] at years months days
  have positive : 1 ≤ (Civil.ofDayNumber number).day := by
    rw [← CycleDay.civil_ofDayNumber]
    exact Nat.le_add_left 1 _
  simpa only [isCalendarDate, decide_eq_true_eq] using
    ⟨years.1, years.2, months.1, months.2, positive, days⟩

theorem daysInMonth_le (year : Int) (month : Nat) : daysInMonth year month ≤ 31 := by
  simp only [daysInMonth]
  split <;> (try split) <;> omega

theorem Date.dayNumber_bounds (date : Date) {first last : Int} (start : first ≤ date.year)
    (stop : date.year ≤ last) :
    Time.dayNumber first 1 1 ≤ date.dayNumber ∧ date.dayNumber ≤ Time.dayNumber last 12 31 := by
  have valid := date.valid
  simp only [isCalendarDate, decide_eq_true_eq] at valid
  have month := daysInMonth_le date.year date.month
  rw [dayNumber_january, dayNumber_december, Date.dayNumber, Time.dayNumber]
  split <;> omega

end Turnstile.Time
