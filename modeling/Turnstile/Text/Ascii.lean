/-!
Letter case within ASCII. Header names, schemes and the names of log formats are compared this
way; letters outside ASCII have no case here.
-/

namespace Turnstile.Text

def asciiLower (letter : Char) : Char :=
  if 'A' ≤ letter ∧ letter ≤ 'Z' then Char.ofNat (letter.toNat + 32) else letter

def asciiLowerText (text : String) : String :=
  String.ofList (text.toList.map asciiLower)

def sameIgnoringCase (left right : String) : Bool :=
  asciiLowerText left == asciiLowerText right

/-- Header text in the narrow sense: a space, a tab or a visible ASCII letter. -/
def isHeaderByte (byte : UInt8) : Bool :=
  byte == 0x09 || (0x20 ≤ byte && byte ≤ 0x7e)

example : sameIgnoringCase "BeArEr" "bearer" = true := by decide
example : asciiLowerText "ÉZ" = "Éz" := by decide

end Turnstile.Text
