import Turnstile.Json.Basic
import Turnstile.Text.Decimal
import Turnstile.Text.Hex

/-!
JSON as bytes, without blanks. Control characters, quotes and backslashes are escaped, by their
short names where they have one; all other text is written as it is.
-/

namespace Turnstile.Json

open Turnstile.Text

def ascii (letters : List Char) : Bytes :=
  letters.map fun letter => UInt8.ofNat letter.toNat

def escapeByte (byte : UInt8) : Bytes :=
  if byte = 0x22 then ascii ['\\', '"']
  else if byte = 0x5c then ascii ['\\', '\\']
  else if byte = 0x08 then ascii ['\\', 'b']
  else if byte = 0x09 then ascii ['\\', 't']
  else if byte = 0x0a then ascii ['\\', 'n']
  else if byte = 0x0c then ascii ['\\', 'f']
  else if byte = 0x0d then ascii ['\\', 'r']
  else if byte < 0x20 then ascii (['\\', 'u', '0', '0'] ++ Hex.fixed 2 byte.toNat)
  else [byte]

def quoted (inside : Bytes) : Bytes :=
  0x22 :: inside ++ [0x22]

/-- A string without content is written as half of a surrogate pair, which reads as just that. -/
def writeContent : Content → Bytes
  | some text => quoted ((Utf8.encode text).flatMap escapeByte)
  | none => quoted (ascii ['\\', 'u', 'd', '8', '0', '0'])

def writeNumber (value : Number) : Bytes :=
  ascii
    ((if value.negative then ['-'] else []) ++ Decimal.ofNat value.whole
      ++ (if value.places.isEmpty then [] else '.' :: value.places.map fun place =>
          Decimal.digit place.val)
      ++ (if value.exponent = 0 then [] else 'e' :: Decimal.ofInt value.exponent))

mutual

def write : Json → Bytes
  | null => ascii ['n', 'u', 'l', 'l']
  | bool true => ascii ['t', 'r', 'u', 'e']
  | bool false => ascii ['f', 'a', 'l', 's', 'e']
  | number value => writeNumber value
  | string content => writeContent content
  | array items => 0x5b :: writeItems items
  | object members => 0x7b :: writeMembers members

def writeItems : List Json → Bytes
  | [] => [0x5d]
  | [item] => write item ++ [0x5d]
  | item :: rest => write item ++ 0x2c :: writeItems rest

def writeMembers : List (Content × Json) → Bytes
  | [] => [0x7d]
  | [(name, value)] => writeContent name ++ 0x3a :: write value ++ [0x7d]
  | (name, value) :: rest => writeContent name ++ 0x3a :: write value ++ 0x2c :: writeMembers rest

end

end Turnstile.Json
