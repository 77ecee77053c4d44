import Turnstile.Crypto.Argon2
import Turnstile.Password.HashText
import Turnstile.Text.Utf8

/-!
Hashing passwords and comparing them with stored hashes. A new hash uses this library's own
parameters and a fresh salt; a comparison uses what the stored text says. Text that is no hash
matches no password.
-/

namespace Turnstile.Password

open Turnstile.Crypto Turnstile.Text

abbrev Salt := Bytes.Sized 16

def ownParameters : Argon2.Parameters :=
  { variant := .id, version := .v19, memory := 19456, passes := 2, lanes := 1, size := 32 }

def digest (parameters : Argon2.Parameters) (salt : Bytes) (plaintext : String) : Bytes :=
  Argon2.hash parameters (Utf8.encode plaintext) salt

def algorithmName : Argon2.Variant → List Char
  | .d => ['a', 'r', 'g', 'o', 'n', '2', 'd']
  | .i => ['a', 'r', 'g', 'o', 'n', '2', 'i']
  | .id => ['a', 'r', 'g', 'o', 'n', '2', 'i', 'd']

def variant? (name : List Char) : Option Argon2.Variant :=
  [Argon2.Variant.d, .i, .id].find? fun variant => algorithmName variant == name

def version? (number : Nat) : Option Argon2.Version :=
  [Argon2.Version.v16, .v19].find? fun version => version.number == number

def binary? (most : Nat) (value : List Char) : Option Bytes :=
  (Base64.decodeChars? Base64.standard value).filter fun bytes => bytes.length ≤ most

/-- A parameter given twice counts as given last. The identifier of a key must be well-formed and
has no effect. -/
def withParameter (parameters : Argon2.Parameters) :
    List Char × List Char → Option Argon2.Parameters
  | (['m'], value) => (HashText.number? value).map ({ parameters with memory := · })
  | (['t'], value) => (HashText.number? value).map ({ parameters with passes := · })
  | (['p'], value) => (HashText.number? value).map ({ parameters with lanes := · })
  | (['d', 'a', 't', 'a'], value) =>
      (binary? 32 value).map ({ parameters with associated := · })
  | (['k', 'e', 'y', 'i', 'd'], value) => (binary? 8 value).map fun _ => parameters
  | _ => none

/-- Every lane needs at least eight blocks. -/
def areUsable (parameters : Argon2.Parameters) : Bool :=
  8 ≤ parameters.memory && 8 * parameters.lanes ≤ parameters.memory && 1 ≤ parameters.passes
    && 1 ≤ parameters.lanes && parameters.lanes ≤ 0xffffff

/-- The parameters, the salt and the digest of a complete hash. What the text leaves out is as in
this library's own hashes. -/
def recipe? (text : HashText) : Option (Argon2.Parameters × Bytes × Bytes) := do
  let variant ← variant? text.algorithm
  let version ← match text.version with
    | some number => version? number
    | none => some .v19
  let expected ← text.digest
  let start := { ownParameters with variant, version, size := expected.length }
  let parameters ← text.parameters.foldlM withParameter start
  let salt ← Base64.decodeChars? Base64.standard (← text.salt)
  if areUsable parameters ∧ 8 ≤ salt.length then return (parameters, salt, expected) else none

def compare (stored plaintext : String) : Bool :=
  match (HashText.ofChars? stored.toList).bind recipe? with
  | some (parameters, salt, expected) => digest parameters salt plaintext == expected
  | none => false

def hash (salt : Salt) (plaintext : String) : String :=
  let letters (number : Nat) := Decimal.ofNat number
  String.ofList <| HashText.toChars
    { algorithm := algorithmName ownParameters.variant
      version := some ownParameters.version.number
      parameters := [(['m'], letters ownParameters.memory), (['t'], letters ownParameters.passes),
        (['p'], letters ownParameters.lanes)]
      salt := some (Base64.encodeChars Base64.standard salt.bytes)
      digest := some (digest ownParameters salt.bytes plaintext) }

/-! Where there is no hash to compare with, a comparison with the hash of a known secret takes the
same time. Its answer must not depend on whether somebody knows that secret. -/

def dummySecret : String := "bridge-dummy-secret"

/-- Without a salt there is no hash, and the comparison fails at once. -/
def compareDummy (salt : Option Salt) (plaintext : String) : Bool :=
  let stored := match salt with
    | some salt => hash salt dummySecret
    | none => ""
  compare stored plaintext && plaintext != dummySecret

end Turnstile.Password
