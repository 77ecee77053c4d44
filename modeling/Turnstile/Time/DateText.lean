import Turnstile.Text.Blank
import Turnstile.Text.Decimal
import Turnstile.Text.Scan
import Turnstile.Time.Calendar

/-!
Dates as text: year, month and day with hyphens between them. Writing has one form for a date.
Reading is more lenient: blanks may stand before a number, months and days may have one digit,
and a year may have a sign, after which any number of digits counts.
-/

namespace Turnstile.Time

open Turnstile.Text

/-- Four digits for the years 0 to 9999, otherwise a sign and at least four digits. -/
def yearText (year : Int) : List Char :=
  if 0 ≤ year ∧ year ≤ 9999 then Decimal.fixed 4 year.toNat
  else (if year < 0 then '-' else '+') :: Decimal.padded 4 year.natAbs

def civilText (year : Int) (month day : Nat) : List Char :=
  yearText year ++ '-' :: Decimal.fixed 2 month ++ '-' :: Decimal.fixed 2 day

def Date.text (date : Date) : String :=
  String.ofList (civilText date.year date.month date.day)

namespace Scan

def field (letters : List Char) : Option (Nat × List Char) :=
  Decimal.scan 1 2 (skipBlanks letters)

def year (letters : List Char) : Option (Int × List Char) :=
  match skipBlanks letters with
  | '-' :: rest => (Decimal.scan 1 rest.length rest).map fun (value, rest) => (-value, rest)
  | '+' :: rest => (Decimal.scan 1 rest.length rest).map fun (value, rest) => (value, rest)
  | letters => (Decimal.scan 1 4 letters).map fun (value, rest) => (value, rest)

def civil (skip : List Char → List Char) (letters : List Char) :
    Option (Civil × List Char) := do
  let (year, rest) ← year letters
  let rest ← Text.Scan.literal '-' (skip rest)
  let (month, rest) ← field rest
  let rest ← Text.Scan.literal '-' (skip rest)
  let (day, rest) ← field rest
  return (⟨year, month, day⟩, rest)

end Scan

def Civil.toDate? (civil : Civil) : Option Date :=
  Date.ofFields? civil.year civil.month civil.day

namespace Date

/-- Blanks may stand before a number, and nowhere else. -/
def ofText? (text : String) : Option Date :=
  match Scan.civil id text.toList with
  | some (civil, []) => civil.toDate?
  | _ => none

/-- Blanks may stand on either side of a number. -/
def ofSpacedText? (text : String) : Option Date :=
  match Scan.civil skipBlanks text.toList with
  | some (civil, rest) => if skipBlanks rest = [] then civil.toDate? else none
  | none => none

example : (ofText? "1990- 2-1").map Date.text = some "1990-02-01" := by decide +kernel
example : (ofText? "+12345-01-01").map Date.text = some "+12345-01-01" := by decide +kernel
example : ofText? "1900-02-29" = none := by decide +kernel
example : ofText? "1990-02-01 " = none := by decide +kernel
example : (ofSpacedText? "1990 -02-01 ").map Date.text = some "1990-02-01" := by decide +kernel

end Date

end Turnstile.Time
