/-!
Decimal numerals: natural numbers without leading zeros or in a field of fixed width, and readers
for a run of digits.
-/

namespace Turnstile.Text.Decimal

def digit (value : Nat) : Char :=
  Char.ofNat ('0'.toNat + value)

def digitValue (letter : Char) : Nat :=
  letter.toNat - '0'.toNat

def isDigit (letter : Char) : Bool :=
  '0' ≤ letter && letter ≤ '9'

def ofNat (value : Nat) : List Char :=
  if value < 10 then [digit value] else ofNat (value / 10) ++ [digit (value % 10)]

def fixed : (width value : Nat) → List Char
  | 0, _ => []
  | width + 1, value => fixed width (value / 10) ++ [digit (value % 10)]

def padded (width value : Nat) : List Char :=
  let digits := ofNat value
  List.replicate (width - digits.length) '0' ++ digits

def ofInt : Int → List Char
  | .ofNat value => ofNat value
  | .negSucc value => '-' :: ofNat (value + 1)

def value (digits : List Char) : Nat :=
  digits.foldl (fun total letter => 10 * total + digitValue letter) 0

/-- Reads between `least` and `most` digits, as many as there are, and returns what follows. -/
def scan (least most : Nat) (letters : List Char) : Option (Nat × List Char) :=
  let digits := (letters.take most).takeWhile isDigit
  if digits.length < least then none else some (value digits, letters.drop digits.length)

def ofChars? (letters : List Char) : Option Nat :=
  if letters.isEmpty || !letters.all isDigit then none else some (value letters)

example : ofNat 1024 = ['1', '0', '2', '4'] := by decide +kernel
example : fixed 2 7 = ['0', '7'] := by decide
example : padded 4 44 = ['0', '0', '4', '4'] := by decide +kernel
example : scan 1 4 ['1', '9', '9', '0', '7'] = some (1990, ['7']) := by decide
example : scan 2 2 ['1', '-'] = none := by decide

end Turnstile.Text.Decimal
