/-!
The Gregorian calendar, extended backwards and forwards over all years, with the year before year
1 as year 0. Days are counted from 1 January 1970. Dates are kept for the years -262143 to 262142
only.
-/

namespace Turnstile.Time

def isLeapYear (year : Int) : Bool :=
  year % 4 == 0 && (year % 100 != 0 || year % 400 == 0)

def daysInMonth (year : Int) (month : Nat) : Nat :=
  match month with
  | 2 => if isLeapYear year then 29 else 28
  | 4 | 6 | 9 | 11 => 30
  | _ => 31

/-! A year is counted from March here, so that the day a leap year adds is its last one. Months
then alternate in length by a rule that one division expresses: the first `m` of them hold
`(153 * m + 2) / 5` days. -/

def dayNumber (year : Int) (month day : Nat) : Int :=
  let marchYear := if month ≤ 2 then year - 1 else year
  let marchMonth := if month ≤ 2 then month + 9 else month - 3
  let dayOfYear := (153 * marchMonth + 2) / 5 + day
  365 * marchYear + marchYear / 4 - marchYear / 100 + marchYear / 400 + dayOfYear - 719469

structure Civil where
  year : Int
  month : Nat
  day : Nat
  deriving DecidableEq, Repr

def Civil.ofDayNumber (number : Int) : Civil :=
  let shifted := number + 719468
  let cycle := shifted / 146097
  let inCycle := (shifted % 146097).toNat
  let century := min (inCycle / 36524) 3
  let inCentury := inCycle - 36524 * century
  let leapSpan := inCentury / 1461
  let inSpan := inCentury % 1461
  let yearOfSpan := min (inSpan / 365) 3
  let dayOfYear := inSpan - 365 * yearOfSpan
  let marchMonth := (5 * dayOfYear + 2) / 153
  let marchYear := 400 * cycle + ((100 * century + 4 * leapSpan + yearOfSpan : Nat) : Int)
  { year := if marchMonth < 10 then marchYear else marchYear + 1
    month := if marchMonth < 10 then marchMonth + 3 else marchMonth - 9
    day := dayOfYear - (153 * marchMonth + 2) / 5 + 1 }

example : dayNumber 1970 1 1 = 0 ∧ dayNumber 2000 2 29 = 11016 := by decide
example : Civil.ofDayNumber 11016 = ⟨2000, 2, 29⟩ := by decide
example : Civil.ofDayNumber (-719528) = ⟨0, 1, 1⟩ := by decide

def firstYear : Int := -262143

def lastYear : Int := 262142

def isCalendarDate (year : Int) (month day : Nat) : Bool :=
  decide (firstYear ≤ year ∧ year ≤ lastYear ∧ 1 ≤ month ∧ month ≤ 12
    ∧ 1 ≤ day ∧ day ≤ daysInMonth year month)

structure Date where
  year : Int
  month : Nat
  day : Nat
  valid : isCalendarDate year month day = true
  deriving DecidableEq

namespace Date

def ofFields? (year : Int) (month day : Nat) : Option Date :=
  if valid : isCalendarDate year month day = true then some ⟨year, month, day, valid⟩ else none

def dayNumber (date : Date) : Int :=
  Time.dayNumber date.year date.month date.day

end Date

end Turnstile.Time
