/-!
White space, as Unicode's property `White_Space` has it: wider than the blanks of ASCII, and the
same everywhere in this library.
-/

namespace Turnstile.Text

def isBlank (letter : Char) : Bool :=
  let code := letter.toNat
  (0x09 ≤ code && code ≤ 0x0d) || code == 0x20 || code == 0x85 || code == 0xa0 || code == 0x1680
    || (0x2000 ≤ code && code ≤ 0x200a) || code == 0x2028 || code == 0x2029 || code == 0x202f
    || code == 0x205f || code == 0x3000

def skipBlanks (letters : List Char) : List Char :=
  letters.dropWhile isBlank

def trimChars (letters : List Char) : List Char :=
  (skipBlanks (skipBlanks letters).reverse).reverse

def trim (text : String) : String :=
  String.ofList (trimChars text.toList)

def isBlankText (text : String) : Bool :=
  text.toList.all isBlank

example : trim "\u3000 a b\t\u00a0" = "a b" := by decide
example : isBlankText " \u2003\n" = true := by decide

end Turnstile.Text
