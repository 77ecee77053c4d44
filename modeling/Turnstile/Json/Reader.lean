import Turnstile.Json.Basic
import Turnstile.Text.Decimal
import Turnstile.Text.Hex

/-!
Reading JSON from bytes. Every reader returns its value and the bytes it has not used. Readers of
nested values count down a number that the length of the input bounds, since each of them uses at
least one byte before it calls another.
-/

namespace Turnstile.Json

open Turnstile.Text

def isSpace (byte : UInt8) : Bool :=
  byte == 0x20 || byte == 0x09 || byte == 0x0a || byte == 0x0d

def skipSpace (bytes : Bytes) : Bytes :=
  bytes.dropWhile isSpace

def isDigitByte (byte : UInt8) : Bool :=
  0x30 ≤ byte && byte ≤ 0x39

def digitsValue (digits : Bytes) : Nat :=
  digits.foldl (fun total byte => 10 * total + (byte.toNat - 0x30)) 0

def readDigits (bytes : Bytes) : Option (Bytes × Bytes) :=
  let digits := bytes.takeWhile isDigitByte
  if digits.isEmpty then none else some (digits, bytes.dropWhile isDigitByte)

/-! ## Numbers -/

def readWhole (bytes : Bytes) : Option (Nat × Bytes) :=
  match readDigits bytes with
  | some (0x30 :: _ :: _, _) => none
  | some (digits, rest) => some (digitsValue digits, rest)
  | none => none

def readPlaces : Bytes → Option (List (Fin 10) × Bytes)
  | 0x2e :: rest =>
      (readDigits rest).map fun (digits, rest) =>
        (digits.map fun byte => Fin.ofNat 10 (byte.toNat - 0x30), rest)
  | bytes => some ([], bytes)

def readExponent : Bytes → Option (Int × Bytes)
  | letter :: rest =>
      if letter = 0x65 ∨ letter = 0x45 then
        match rest with
        | 0x2d :: rest => (readDigits rest).map fun (digits, rest) => (-digitsValue digits, rest)
        | 0x2b :: rest => (readDigits rest).map fun (digits, rest) => (digitsValue digits, rest)
        | rest => (readDigits rest).map fun (digits, rest) => (digitsValue digits, rest)
      else some (0, letter :: rest)
  | [] => some (0, [])

def readNumber (bytes : Bytes) : Option (Number × Bytes) := do
  let (negative, rest) := match bytes with
    | 0x2d :: rest => (true, rest)
    | bytes => (false, bytes)
  let (whole, rest) ← readWhole rest
  let (places, rest) ← readPlaces rest
  let (exponent, rest) ← readExponent rest
  return (⟨negative, whole, places, exponent⟩, rest)

/-! ## Strings -/

/-- What stands between quotes: bytes as they are or named by a short escape, and UTF-16 units
given by their number. -/
inductive Piece where
  | byte (value : UInt8)
  | unit (value : Nat)
  deriving DecidableEq, Repr

def shortEscape? (letter : UInt8) : Option UInt8 :=
  if letter = 0x22 ∨ letter = 0x5c ∨ letter = 0x2f then some letter
  else if letter = 0x62 then some 0x08
  else if letter = 0x66 then some 0x0c
  else if letter = 0x6e then some 0x0a
  else if letter = 0x72 then some 0x0d
  else if letter = 0x74 then some 0x09
  else none

def hexUnit? (digits : Bytes) : Option Nat :=
  Hex.number? (digits.map fun byte => Char.ofNat byte.toNat)

def readPieces : Bytes → Option (List Piece × Bytes)
  | [] => none
  | 0x22 :: rest => some ([], rest)
  | 0x5c :: 0x75 :: digit₁ :: digit₂ :: digit₃ :: digit₄ :: rest => do
      let unit ← hexUnit? [digit₁, digit₂, digit₃, digit₄]
      let (pieces, rest) ← readPieces rest
      return (.unit unit :: pieces, rest)
  | 0x5c :: letter :: rest => do
      let byte ← shortEscape? letter
      let (pieces, rest) ← readPieces rest
      return (.byte byte :: pieces, rest)
  | byte :: rest =>
      if byte < 0x20 ∨ byte = 0x5c then none
      else (readPieces rest).map fun (pieces, rest) => (.byte byte :: pieces, rest)

def isLeadingHalf (unit : Nat) : Bool :=
  0xd800 ≤ unit && unit ≤ 0xdbff

def isTrailingHalf (unit : Nat) : Bool :=
  0xdc00 ≤ unit && unit ≤ 0xdfff

def utf8OfCode (code : Nat) : Bytes :=
  Utf8.encode (String.singleton (Char.ofNat code))

/-- The bytes that the pieces stand for. Two halves of a surrogate pair make one letter; a half
alone makes none. -/
def piecesBytes? : List Piece → Option Bytes
  | [] => some []
  | .byte value :: rest => (piecesBytes? rest).map (value :: ·)
  | .unit leading :: .unit trailing :: rest =>
      if isLeadingHalf leading then
        if isTrailingHalf trailing then
          let code := 0x10000 + 0x400 * (leading - 0xd800) + (trailing - 0xdc00)
          (piecesBytes? rest).map (utf8OfCode code ++ ·)
        else none
      else if isTrailingHalf leading then none
      else (piecesBytes? (.unit trailing :: rest)).map (utf8OfCode leading ++ ·)
  | .unit value :: rest =>
      if isLeadingHalf value || isTrailingHalf value then none
      else (piecesBytes? rest).map (utf8OfCode value ++ ·)

def content (pieces : List Piece) : Content :=
  (piecesBytes? pieces).bind Utf8.decode?

def readContent (bytes : Bytes) : Option (Content × Bytes) :=
  (readPieces bytes).map fun (pieces, rest) => (content pieces, rest)

/-! ## Values -/

def readWord (word : Bytes) (value : Json) (bytes : Bytes) : Option (Json × Bytes) :=
  if word.isPrefixOf bytes then some (value, bytes.drop word.length) else none

def afterColon (bytes : Bytes) : Option Bytes :=
  match skipSpace bytes with
  | 0x3a :: rest => some rest
  | _ => none

mutual

def readValue : Nat → Bytes → Option (Json × Bytes)
  | 0, _ => none
  | count + 1, bytes =>
      match skipSpace bytes with
      | 0x22 :: rest => (readContent rest).map fun (content, rest) => (string content, rest)
      | 0x5b :: rest =>
          match skipSpace rest with
          | 0x5d :: rest => some (array [], rest)
          | rest => (readItems count rest).map fun (items, rest) => (array items, rest)
      | 0x7b :: rest =>
          match skipSpace rest with
          | 0x7d :: rest => some (object [], rest)
          | rest => (readMembers count rest).map fun (members, rest) => (object members, rest)
      | 0x6e :: rest => readWord [0x75, 0x6c, 0x6c] null rest
      | 0x74 :: rest => readWord [0x72, 0x75, 0x65] (bool true) rest
      | 0x66 :: rest => readWord [0x61, 0x6c, 0x73, 0x65] (bool false) rest
      | bytes => (readNumber bytes).map fun (value, rest) => (number value, rest)

def readItems : Nat → Bytes → Option (List Json × Bytes)
  | 0, _ => none
  | count + 1, bytes => do
      let (item, rest) ← readValue count bytes
      match skipSpace rest with
      | 0x5d :: rest => return ([item], rest)
      | 0x2c :: rest =>
          let (items, rest) ← readItems count rest
          return (item :: items, rest)
      | _ => none

def readMembers : Nat → Bytes → Option (List (Content × Json) × Bytes)
  | 0, _ => none
  | count + 1, bytes =>
      match skipSpace bytes with
      | 0x22 :: rest => do
          let (name, rest) ← readContent rest
          let rest ← afterColon rest
          let (value, rest) ← readValue count rest
          match skipSpace rest with
          | 0x7d :: rest => return ([(name, value)], rest)
          | 0x2c :: rest =>
              let (members, rest) ← readMembers count rest
              return ((name, value) :: members, rest)
          | _ => none
      | _ => none

end

def ofBytes? (bytes : Bytes) : Option Json :=
  match readValue (bytes.length + 1) bytes with
  | some (json, rest) => if skipSpace rest = [] then some json else none
  | none => none

def ofText? (text : String) : Option Json :=
  ofBytes? (Utf8.encode text)

end Turnstile.Json
