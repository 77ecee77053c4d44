import Turnstile.Text.Ascii
import Turnstile.Time.DateText
import Turnstile.Time.Instant

/-!
Instants as text: a date, the letter `T`, a time of day, and `Z` for universal time. A leap second
is written as second 60. There is one way of writing and there are two of reading: the exact form
of internet timestamps, and a lenient one that also takes the dates of `Turnstile.Time.DateText`.
-/

namespace Turnstile.Time

open Turnstile.Text

inductive Precision where
  /-- None, three, six or nine: the fewest that lose nothing. -/
  | exact
  | milliseconds
  deriving DecidableEq, Repr

def fractionText (precision : Precision) (nanoseconds : Nat) : List Char :=
  match precision with
  | .milliseconds => '.' :: Decimal.fixed 3 (nanoseconds / 1000000)
  | .exact =>
      if nanoseconds = 0 then []
      else if nanoseconds % 1000000 = 0 then '.' :: Decimal.fixed 3 (nanoseconds / 1000000)
      else if nanoseconds % 1000 = 0 then '.' :: Decimal.fixed 6 (nanoseconds / 1000)
      else '.' :: Decimal.fixed 9 nanoseconds

namespace Instant

def text (precision : Precision) (instant : Instant) : String :=
  let date := Civil.ofDayNumber (instant.seconds / 86400)
  let secondOfDay := (instant.seconds % 86400).toNat
  let leap := instant.nanoseconds ≥ 1000000000
  let second := secondOfDay % 60 + (if leap then 1 else 0)
  let nanoseconds := instant.nanoseconds - (if leap then 1000000000 else 0)
  String.ofList
    (civilText date.year date.month date.day ++ 'T' :: Decimal.fixed 2 (secondOfDay / 3600)
      ++ ':' :: Decimal.fixed 2 (secondOfDay / 60 % 60) ++ ':' :: Decimal.fixed 2 second
      ++ fractionText precision nanoseconds ++ ['Z'])

end Instant

structure TimeOfDay where
  hour : Nat
  minute : Nat
  second : Nat
  nanosecond : Nat
  deriving DecidableEq, Repr

/-- The instant at which a clock `offset` seconds east of universal time shows a date and a time.
Second 60 is the leap second of its minute. Both the date shown and the instant must lie within
the calendar. -/
def Instant.ofClock? (civil : Civil) (time : TimeOfDay) (offset : Int) : Option Instant := do
  let date ← civil.toDate?
  if time.hour ≤ 23 ∧ time.minute ≤ 59 ∧ time.second ≤ 60 then
    let second := min time.second 59
    let nanosecond := time.nanosecond + (if time.second = 60 then 1000000000 else 0)
    let shown := 86400 * date.dayNumber + ((3600 * time.hour + 60 * time.minute + second : Nat) : Int)
    ofUnix? (shown - offset) nanosecond
  else none

namespace Scan

/-- A point and at least one digit, of which nine count; or nothing. -/
def fraction : Scan Nat
  | '.' :: rest =>
      (Decimal.scan 1 9 rest).map fun (value, after) =>
        (value * Nat.pow 10 (9 - (rest.length - after.length)), after.dropWhile Decimal.isDigit)
  | letters => some (0, letters)

/-- `Z`, or hours and minutes east of universal time after a sign; `colon` reads what stands
between them. -/
def offset (colon : List Char → Option (List Char)) (letters : List Char) :
    Option (Int × List Char) :=
  let signed (east : Bool) (rest : List Char) : Option (Int × List Char) := do
    let (hours, rest) ← Decimal.scan 2 2 rest
    let rest ← colon rest
    let (minutes, rest) ← Decimal.scan 2 2 rest
    if minutes ≤ 59 ∧ hours ≤ 23 then
      let seconds : Int := 3600 * hours + 60 * minutes
      return (if east then seconds else -seconds, rest)
    else none
  match letters with
  | 'Z' :: rest => some (0, rest)
  | 'z' :: rest => some (0, rest)
  | '+' :: rest => signed true rest
  | '-' :: rest => signed false rest
  | '\u2212' :: rest => signed false rest
  | _ => none

def separator : Scan Unit
  | 'T' :: rest => some ((), rest)
  | 't' :: rest => some ((), rest)
  | ' ' :: rest => some ((), rest)
  | _ => none

def timeOfDay (number : Scan Nat) (skip : List Char → List Char) (letters : List Char) :
    Option (TimeOfDay × List Char) := do
  let (hour, rest) ← number letters
  let rest ← Text.Scan.literal ':' (skip rest)
  let (minute, rest) ← number rest
  let rest ← Text.Scan.literal ':' (skip rest)
  let (second, rest) ← number rest
  let (nanosecond, rest) ← fraction rest
  return (⟨hour, minute, second, nanosecond⟩, rest)

def universalName : Scan Int
  | letter₁ :: letter₂ :: letter₃ :: rest =>
      if [letter₁, letter₂, letter₃].map asciiLower = ['u', 't', 'c'] then some (0, rest) else none
  | _ => none

end Scan

namespace Instant

/-- The exact form: every number has its full width, and no blanks stand anywhere, except that one
may take the place of the `T`. -/
def ofText? (text : String) : Option Instant := do
  let (year, rest) ← Decimal.scan 4 4 text.toList
  let rest ← Text.Scan.literal '-' rest
  let (month, rest) ← Decimal.scan 2 2 rest
  let rest ← Text.Scan.literal '-' rest
  let (day, rest) ← Decimal.scan 2 2 rest
  let ((), rest) ← Scan.separator rest
  let (time, rest) ← Scan.timeOfDay (Decimal.scan 2 2) id rest
  let (offset, rest) ← Scan.offset (Text.Scan.literal ':') rest
  if rest = [] then ofClock? ⟨year, month, day⟩ time offset else none

/-- The lenient form: numbers as in `Date.ofSpacedText?`, colons and blanks in any number within
the offset, and `UTC` instead of `Z`. -/
def ofSpacedText? (text : String) : Option Instant := do
  let (civil, rest) ← Scan.civil skipBlanks text.toList
  let ((), rest) ← Scan.separator rest
  let (time, rest) ← Scan.timeOfDay Scan.field skipBlanks rest
  let rest := skipBlanks rest
  let colons (rest : List Char) := rest.dropWhile fun letter => letter == ':' || isBlank letter
  let (offset, rest) ← Scan.universalName rest <|> Scan.offset (fun rest => some (colons rest)) rest
  if skipBlanks rest = [] then ofClock? civil time offset else none

example : (ofText? "2016-12-31T15:59:60.5-08:00").map (text .exact)
    = some "2016-12-31T23:59:60.500Z" := by decide +kernel
example : (ofText? "2024-05-01T10:00:00+24:00") = none := by decide +kernel
example : (ofSpacedText? "2024- 5-01  1:00:00 utc ").map (text .milliseconds)
    = some "2024-05-01T01:00:00.000Z" := by decide +kernel
example : ofText? "24-05-01T10:00:00Z" = none := by decide +kernel

end Instant

end Turnstile.Time
