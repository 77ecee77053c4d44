import Turnstile.Time.Calendar
import Turnstile.Time.Duration

/-!
Instants of universal time, with nanoseconds. A leap second is the second 59 of some minute with
a thousand million nanoseconds or more: it comes after that second and before the next minute.
-/

namespace Turnstile.Time

def firstSecond : Int := -8334601228800

def lastSecond : Int := 8210266876799

example : firstSecond = 86400 * dayNumber firstYear 1 1 := by decide
example : lastSecond = 86400 * (dayNumber lastYear 12 31 + 1) - 1 := by decide

def isInstant (seconds : Int) (nanoseconds : Nat) : Bool :=
  decide (firstSecond ≤ seconds ∧ seconds ≤ lastSecond
    ∧ (nanoseconds < 1000000000 ∨ (nanoseconds < 2000000000 ∧ seconds % 60 = 59)))

/-- Seconds are counted from the beginning of 1970, without leap seconds. -/
structure Instant where
  seconds : Int
  nanoseconds : Nat
  valid : isInstant seconds nanoseconds = true
  deriving DecidableEq

namespace Instant

def ofUnix? (seconds : Int) (nanoseconds : Nat) : Option Instant :=
  if valid : isInstant seconds nanoseconds = true then some ⟨seconds, nanoseconds, valid⟩
  else none

def epoch : Instant := ⟨0, 0, by decide⟩

instance : Inhabited Instant := ⟨epoch⟩

instance : LE Instant :=
  ⟨fun left right => left.seconds < right.seconds
    ∨ (left.seconds = right.seconds ∧ left.nanoseconds ≤ right.nanoseconds)⟩

instance (left right : Instant) : Decidable (left ≤ right) :=
  inferInstanceAs (Decidable (_ ∨ _))

/-- The instant a duration later, unless that is beyond the calendar. Within a leap second time
goes on as everywhere; a duration that leaves it backwards counts the leap second, one that leaves
it forwards does not, since the next second has the next number. -/
def add? (instant : Instant) (duration : Duration) : Option Instant :=
  let whole := duration.seconds
  let part := duration.subseconds
  let fraction : Int := instant.nanoseconds
  let leap := fraction ≥ 1000000000
  let leavesForward := whole > 0 ∨ (part > 0 ∧ fraction + part ≥ 2000000000)
  if leap ∧ ¬ leavesForward ∧ ¬ whole < 0 then
    ofUnix? instant.seconds (fraction + part).toNat
  else
    let start := if leap ∧ ¬ leavesForward then instant.seconds + 1 else instant.seconds
    let total := (if leap then fraction - 1000000000 else fraction) + part
    ofUnix? (start + whole + total / 1000000000) (total % 1000000000).toNat

end Instant

end Turnstile.Time
