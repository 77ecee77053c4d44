import Turnstile.Text.Hex
import Turnstile.Text.Printable

/-!
Text quoted for a message: between double quotes, with a backslash before what would end the
quotation or upset a terminal. What has no shape of its own appears as its code point, as in
`\u{200d}`.
-/

namespace Turnstile.Text.Quoted

def escape (letter : Char) : List Char :=
  if letter = '\x00' then ['\\', '0']
  else if letter = '\t' then ['\\', 't']
  else if letter = '\n' then ['\\', 'n']
  else if letter = '\r' then ['\\', 'r']
  else if letter = '"' ∨ letter = '\\' then ['\\', letter]
  else if isEscapedCode letter.toNat then
    ['\\', 'u', '{'] ++ Hex.shortest letter.toNat ++ ['}']
  else [letter]

def encode (text : String) : String :=
  String.ofList ('"' :: text.toList.flatMap escape ++ ['"'])

example : encode "it's \"so\"\n" = "\"it's \\\"so\\\"\\n\"" := by decide +kernel
example : encode "e\u0301" = "\"e\\u\x7b301\x7d\"" := by decide +kernel

end Turnstile.Text.Quoted
