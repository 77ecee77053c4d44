import Turnstile.Text.Ascii
import Turnstile.Text.Hex

/-!
Identifiers of accounts: 16 bytes, written as 32 hexadecimal digits in groups of 8, 4, 4, 4
and 12.
-/

namespace Turnstile

open Turnstile.Text

structure Account.Id where
  bytes : Bytes
  length_bytes : bytes.length = 16
  deriving DecidableEq

namespace Account.Id

def ofBytes? (bytes : Bytes) : Option Id :=
  if length_bytes : bytes.length = 16 then some ⟨bytes, length_bytes⟩ else none

def ofNat (number : Nat) : Id :=
  ⟨(Bytes.littleEndian 16 number).reverse, by simp⟩

instance : Inhabited Id := ⟨ofNat 0⟩

def textChars (id : Id) : List Char :=
  let digits := Hex.encodeChars id.bytes
  digits.take 8 ++ '-' :: (digits.drop 8).take 4 ++ '-' :: (digits.drop 12).take 4
    ++ '-' :: (digits.drop 16).take 4 ++ '-' :: digits.drop 20

def text (id : Id) : String :=
  String.ofList id.textChars

def ofDigits? (digits : List Char) : Option Id :=
  (Hex.decodeChars? digits).bind ofBytes?

def ofGroups? (letters : List Char) : Option Id :=
  if letters.length = 36 ∧ letters[8]? = some '-' ∧ letters[13]? = some '-'
      ∧ letters[18]? = some '-' ∧ letters[23]? = some '-' then
    ofDigits? (letters.take 8 ++ (letters.drop 9).take 4 ++ (letters.drop 14).take 4
      ++ (letters.drop 19).take 4 ++ letters.drop 24)
  else none

/-- Reads the digits without hyphens or with them, and with them also between braces or after
`urn:uuid:` in any case. -/
def ofChars? (letters : List Char) : Option Id :=
  if letters.length = 32 then ofDigits? letters
  else if letters.length = 36 then ofGroups? letters
  else if letters.length = 38 ∧ letters.head? = some '{' ∧ letters.getLast? = some '}' then
    ofGroups? (letters.drop 1).dropLast
  else if (letters.take 9).map asciiLower = ['u', 'r', 'n', ':', 'u', 'u', 'i', 'd', ':'] then
    ofGroups? (letters.drop 9)
  else none

def ofText? (text : String) : Option Id :=
  ofChars? text.toList

example : (ofText? "\x7b0190A6F0-1111-7222-8333-444455556666\x7d").map text
    = some "0190a6f0-1111-7222-8333-444455556666" := by decide +kernel
example : ofText? "0190a6f0-1111-7222-8333-44445555666" = none := by decide +kernel

end Account.Id

end Turnstile
