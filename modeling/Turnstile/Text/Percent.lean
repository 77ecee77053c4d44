import Turnstile.Text.Hex
import Turnstile.Text.Utf8

/-!
Percent-encoding, which turns any text into visible ASCII: a byte that is not safe is written as a
percent sign and two hexadecimal digits. A percent sign itself counts as safe here and is written
as it is, so text that holds one can read back as something else.
-/

namespace Turnstile.Text.Percent

def isEscaped (byte : UInt8) : Bool :=
  byte ≤ 0x20 || 0x7f ≤ byte
    || [0x22, 0x23, 0x3c, 0x3e, 0x3f, 0x60, 0x7b, 0x7d].contains byte

def escape (byte : UInt8) : List Char :=
  if isEscaped byte then '%' :: (Hex.fixed 2 byte.toNat).map Char.toUpper
  else [Char.ofNat byte.toNat]

def encode (text : String) : String :=
  String.ofList ((Utf8.encode text).flatMap escape)

/-- Undoes the encoding; a percent sign that no two digits follow stands for itself. -/
def decodeBytes : Bytes → Bytes
  | [] => []
  | byte :: rest =>
      if byte = 0x25 then
        match rest with
        | high :: low :: rest =>
            match Hex.value? (Char.ofNat high.toNat), Hex.value? (Char.ofNat low.toNat) with
            | some highValue, some lowValue =>
                UInt8.ofNat (16 * highValue + lowValue) :: decodeBytes rest
            | _, _ => byte :: decodeBytes (high :: low :: rest)
        | rest => byte :: rest
      else byte :: decodeBytes rest

def decode? (text : String) : Option String :=
  Utf8.decode? (decodeBytes (Utf8.encode text))

example : encode "a b" = "a%20b" := by decide +kernel

end Turnstile.Text.Percent
