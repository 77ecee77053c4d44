import Turnstile.Bytes

/-!
Base 64 without padding: three bytes make four letters. Reading accepts exactly what writing
produces, so bits that a last, shorter group leaves over must be zero.
-/

namespace Turnstile.Text.Base64

/-- Alphabets agree on the values 0 to 61. -/
structure Alphabet where
  letter62 : Char
  letter63 : Char

def standard : Alphabet := ⟨'+', '/'⟩

def urlSafe : Alphabet := ⟨'-', '_'⟩

def letter (alphabet : Alphabet) (value : Nat) : Char :=
  if value < 26 then Char.ofNat ('A'.toNat + value)
  else if value < 52 then Char.ofNat ('a'.toNat + (value - 26))
  else if value < 62 then Char.ofNat ('0'.toNat + (value - 52))
  else if value = 62 then alphabet.letter62
  else alphabet.letter63

def value? (alphabet : Alphabet) (letter : Char) : Option Nat :=
  if 'A' ≤ letter ∧ letter ≤ 'Z' then some (letter.toNat - 'A'.toNat)
  else if 'a' ≤ letter ∧ letter ≤ 'z' then some (letter.toNat - 'a'.toNat + 26)
  else if '0' ≤ letter ∧ letter ≤ '9' then some (letter.toNat - '0'.toNat + 52)
  else if letter = alphabet.letter62 then some 62
  else if letter = alphabet.letter63 then some 63
  else none

example : (List.range 64).all fun value =>
    value? standard (letter standard value) == some value
      && value? urlSafe (letter urlSafe value) == some value := by decide +kernel

def encodeChars (alphabet : Alphabet) : Bytes → List Char
  | [] => []
  | [byte₁] =>
      let value := byte₁.toNat * 16
      [letter alphabet (value / 64), letter alphabet (value % 64)]
  | [byte₁, byte₂] =>
      let value := (byte₁.toNat * 256 + byte₂.toNat) * 4
      [letter alphabet (value / 4096), letter alphabet (value / 64 % 64),
       letter alphabet (value % 64)]
  | byte₁ :: byte₂ :: byte₃ :: rest =>
      let value := (byte₁.toNat * 256 + byte₂.toNat) * 256 + byte₃.toNat
      letter alphabet (value / 262144) :: letter alphabet (value / 4096 % 64)
        :: letter alphabet (value / 64 % 64) :: letter alphabet (value % 64)
        :: encodeChars alphabet rest

def decodeChars? (alphabet : Alphabet) : List Char → Option Bytes
  | [] => some []
  | [_] => none
  | [letter₁, letter₂] => do
      let value := (← value? alphabet letter₁) * 64 + (← value? alphabet letter₂)
      if value % 16 = 0 then return [UInt8.ofNat (value / 16)] else none
  | [letter₁, letter₂, letter₃] => do
      let value := ((← value? alphabet letter₁) * 64 + (← value? alphabet letter₂)) * 64
        + (← value? alphabet letter₃)
      if value % 4 = 0 then
        return [UInt8.ofNat (value / 1024), UInt8.ofNat (value / 4 % 256)]
      else none
  | letter₁ :: letter₂ :: letter₃ :: letter₄ :: rest => do
      let value := (((← value? alphabet letter₁) * 64 + (← value? alphabet letter₂)) * 64
        + (← value? alphabet letter₃)) * 64 + (← value? alphabet letter₄)
      let bytes ← decodeChars? alphabet rest
      return UInt8.ofNat (value / 65536) :: UInt8.ofNat (value / 256 % 256)
        :: UInt8.ofNat (value % 256) :: bytes

example : encodeChars standard [0xff, 0xee, 0xdd, 0xcc] = ['/', '+', '7', 'd', 'z', 'A'] := by
  decide +kernel
example : decodeChars? standard ['/', '+', '7', 'd', 'z', 'A'] = some [0xff, 0xee, 0xdd, 0xcc] := by
  decide +kernel
example : decodeChars? standard ['z', 'B'] = none := by decide +kernel

end Turnstile.Text.Base64
