import Turnstile.Text.Decimal

/-!
Lengths of time in nanoseconds. A message shows a duration as a number of seconds.
-/

namespace Turnstile.Time

structure Duration where
  nanoseconds : Int
  deriving DecidableEq, Repr

namespace Duration

def ofSeconds (seconds : Int) : Duration :=
  ⟨seconds * 1000000000⟩

def ofMinutes (minutes : Int) : Duration :=
  ofSeconds (minutes * 60)

/-- As many milliseconds as 63 bits count. No duration is longer, in either direction. -/
def longest : Duration :=
  ⟨0x7fffffffffffffff * 1000000⟩

def ofSeconds? (seconds : Int) : Option Duration :=
  let duration := ofSeconds seconds
  if duration.nanoseconds.natAbs ≤ longest.nanoseconds.natAbs then some duration else none

/-- The seconds are counted first, in 64 bits with a sign. The least number that these hold is no
number of whole minutes, so both directions are alike. -/
def ofMinutes? (minutes : Int) : Option Duration :=
  let seconds := minutes * 60
  if seconds.natAbs < 0x8000000000000000 then ofSeconds? seconds else none

/-- Whole seconds; what is left over has the sign of the duration. -/
def seconds (duration : Duration) : Int :=
  duration.nanoseconds.tdiv 1000000000

def subseconds (duration : Duration) : Int :=
  duration.nanoseconds.tmod 1000000000

def dropTrailingZeros (digits : List Char) : List Char :=
  (digits.reverse.dropWhile (· == '0')).reverse

/-- `P0D` for no time at all, else seconds with as many decimal places as are needed. -/
def text (duration : Duration) : String :=
  if duration.nanoseconds = 0 then "P0D"
  else
    let amount := duration.nanoseconds.natAbs
    let fraction := amount % 1000000000
    String.ofList
      ((if duration.nanoseconds < 0 then ['-'] else []) ++ ['P', 'T']
        ++ Text.Decimal.ofNat (amount / 1000000000)
        ++ (if fraction = 0 then [] else '.' :: dropTrailingZeros (Text.Decimal.fixed 9 fraction))
        ++ ['S'])

example : (ofSeconds 3600).text = "PT3600S" := by decide +kernel
example : text ⟨-500000000⟩ = "-PT0.5S" := by decide +kernel
example : ofMinutes? 153722867280912 = some (ofMinutes 153722867280912) := by decide
example : ofMinutes? 153722867280913 = none := by decide

end Duration

end Turnstile.Time
