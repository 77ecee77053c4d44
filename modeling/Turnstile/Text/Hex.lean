import Turnstile.Bytes

/-!
Hexadecimal digits. Letters are written in lower case and read in either.
-/

namespace Turnstile.Text.Hex

def digit (value : Nat) : Char :=
  if value < 10 then Char.ofNat ('0'.toNat + value) else Char.ofNat ('a'.toNat + (value - 10))

def value? (letter : Char) : Option Nat :=
  if '0' ≤ letter ∧ letter ≤ '9' then some (letter.toNat - '0'.toNat)
  else if 'a' ≤ letter ∧ letter ≤ 'f' then some (letter.toNat - 'a'.toNat + 10)
  else if 'A' ≤ letter ∧ letter ≤ 'F' then some (letter.toNat - 'A'.toNat + 10)
  else none

example : (List.range 16).all fun value => value? (digit value) == some value := by decide

def fixed : (count value : Nat) → List Char
  | 0, _ => []
  | count + 1, value => fixed count (value / 16) ++ [digit (value % 16)]

def shortest (value : Nat) : List Char :=
  if value < 16 then [digit value] else shortest (value / 16) ++ [digit (value % 16)]

def number? (digits : List Char) : Option Nat :=
  digits.foldlM (fun value letter => (value? letter).map (16 * value + ·)) 0

def encodeChars : Bytes → List Char
  | [] => []
  | byte :: rest => fixed 2 byte.toNat ++ encodeChars rest

def decodeChars? : List Char → Option Bytes
  | [] => some []
  | [_] => none
  | high :: low :: rest => do
    let high ← value? high
    let low ← value? low
    let rest ← decodeChars? rest
    return UInt8.ofNat (16 * high + low) :: rest

def encode (bytes : Bytes) : String :=
  String.ofList (encodeChars bytes)

def decode? (text : String) : Option Bytes :=
  decodeChars? text.toList

example : encode [0, 0x1f, 0xab] = "001fab" := by decide
example : decode? "001FaB" = some [0, 0x1f, 0xab] := by decide
example : decode? "001" = none := by decide

end Turnstile.Text.Hex
