import Turnstile.Text.Utf8

/-!
Where secrets come from. A source is asked by name and answers with a text, or says that it has no
such secret or cannot tell.
-/

namespace Turnstile.Secret

open Turnstile.Text

inductive Error where
  | notFound (name : String)
  | backend (reason : String)
  deriving DecidableEq, Repr

def Error.message : Error → String
  | notFound name => "secret '" ++ name ++ "' not found"
  | backend reason => "secret provider error: " ++ reason

abbrev Source : Type := String → Except Error String

def Source.ofList (values : List (String × String)) : Source := fun name =>
  match values.lookup name with
  | some value => .ok value
  | none => .error (.notFound name)

/-- The variables of a process, as texts `name=value`. -/
structure Environment where
  entries : List (Bytes × Bytes) := []
  deriving DecidableEq

namespace Environment

def unset (environment : Environment) (name : String) : Environment :=
  { entries := environment.entries.filter fun entry => entry.1 != Utf8.encode name }

def set (environment : Environment) (name : String) (value : Bytes) : Environment :=
  { entries := (environment.unset name).entries ++ [(Utf8.encode name, value)] }

def valueAfter? (name : Bytes) (entry : Bytes × Bytes) : Option Bytes :=
  let asked := name ++ [0x3d]
  let text := entry.1 ++ 0x3d :: entry.2
  if asked.isPrefixOf text then some (text.drop asked.length) else none

/-- No variable has an empty name or one with a zero byte in it. -/
def value? (environment : Environment) (name : String) : Option Bytes :=
  let bytes := Utf8.encode name
  if bytes.isEmpty || bytes.contains 0 then none
  else environment.entries.findSome? (valueAfter? bytes)

/-- Variables need not hold text, but secrets must. -/
def source (environment : Environment) : Source := fun name =>
  match environment.value? name with
  | none => .error (.notFound name)
  | some bytes =>
      match Utf8.decode? bytes with
      | some value => .ok value
      | none => .error (.backend ("secret '" ++ name ++ "' is not valid unicode"))

end Environment

end Turnstile.Secret
