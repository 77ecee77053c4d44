import Turnstile.Text.Base64
import Turnstile.Text.Decimal
import Turnstile.Text.Split

/-!
Password hashes as text that says how they were made: after dollar signs the algorithm, the
version, the parameters, the salt and the digest. All but the algorithm may be missing, from the
version on in that order except that the version or the parameters alone may be left out.
-/

namespace Turnstile.Password

open Turnstile.Text

structure HashText where
  algorithm : List Char
  version : Option Nat
  parameters : List (List Char × List Char)
  salt : Option (List Char)
  digest : Option Bytes
  deriving DecidableEq

namespace HashText

def isNameLetter (letter : Char) : Bool :=
  ('a' ≤ letter && letter ≤ 'z') || Decimal.isDigit letter || letter == '-'

def isName (letters : List Char) : Bool :=
  0 < letters.length && letters.length ≤ 32 && letters.all isNameLetter

def isValueLetter (letter : Char) : Bool :=
  ('A' ≤ letter && letter ≤ 'Z') || ('a' ≤ letter && letter ≤ 'z') || Decimal.isDigit letter
    || letter == '/' || letter == '+' || letter == '.' || letter == '-'

def isValue (letters : List Char) : Bool :=
  letters.length ≤ 64 && letters.all isValueLetter

def number? (letters : List Char) : Option Nat :=
  if letters.head? = some '0' ∧ letters.length ≠ 1 then none
  else (Decimal.ofChars? letters).filter fun value => value < 0x100000000

def version? (letters : List Char) : Option Nat :=
  if isValue letters then number? letters else none

def parameter? (letters : List Char) : Option (List Char × List Char) :=
  match splitAll '=' letters with
  | [name, value] => if isName name && isValue value then some (name, value) else none
  | _ => none

def parameters? (letters : List Char) : Option (List (List Char × List Char)) :=
  if letters.length ≤ 127 then (splitAll ',' letters).mapM parameter? else none

def salt? (letters : List Char) : Option (List Char) :=
  if 4 ≤ letters.length ∧ isValue letters = true then some letters else none

def digest? (letters : List Char) : Option Bytes :=
  (Base64.decodeChars? Base64.standard letters).filter fun bytes =>
    10 ≤ bytes.length && bytes.length ≤ 64

/-- Takes the first field off if it is what is looked for. -/
def takeVersion : List (List Char) → Option (Option Nat × List (List Char))
  | ('v' :: '=' :: letters) :: fields =>
      if letters.contains ',' then some (none, ('v' :: '=' :: letters) :: fields)
      else (version? letters).map fun version => (some version, fields)
  | fields => some (none, fields)

def takeParameters :
    List (List Char) → Option (List (List Char × List Char) × List (List Char))
  | field :: fields =>
      if field.contains '=' then
        (parameters? field).map fun parameters => (parameters, fields)
      else some ([], field :: fields)
  | [] => some ([], [])

def saltAndDigest? : List (List Char) → Option (Option (List Char) × Option Bytes)
  | [] => some (none, none)
  | [salt] => (salt? salt).map fun salt => (some salt, none)
  | [salt, digest] => do
      let salt ← salt? salt
      let digest ← digest? digest
      return (some salt, some digest)
  | _ => none

def ofChars? (letters : List Char) : Option HashText :=
  match splitAll '$' letters with
  | [] :: algorithm :: fields =>
      if isName algorithm then do
        let (version, fields) ← takeVersion fields
        let (parameters, fields) ← takeParameters fields
        let (salt, digest) ← saltAndDigest? fields
        return { algorithm, version, parameters, salt, digest }
      else none
  | _ => none

def parameterChars (parameter : List Char × List Char) : List Char :=
  parameter.1 ++ '=' :: parameter.2

def parametersChars : List (List Char × List Char) → List Char
  | [] => []
  | [parameter] => parameterChars parameter
  | parameter :: rest => parameterChars parameter ++ ',' :: parametersChars rest

def toChars (text : HashText) : List Char :=
  '$' :: text.algorithm
    ++ (match text.version with
      | some version => ['$', 'v', '='] ++ Decimal.ofNat version
      | none => [])
    ++ (if text.parameters.isEmpty then [] else '$' :: parametersChars text.parameters)
    ++ (match text.salt with
      | some salt => '$' :: salt
      | none => [])
    ++ (match text.digest with
      | some digest => '$' :: Base64.encodeChars Base64.standard digest
      | none => [])

end HashText

end Turnstile.Password
