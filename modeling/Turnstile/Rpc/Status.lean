import Turnstile.Auth.Error
import Turnstile.Rpc.Header
import Turnstile.Text.Decimal
import Turnstile.Text.Percent

/-!
How a call ends: a code and a message. A call that failed is answered with headers alone.
-/

namespace Turnstile.Rpc

open Turnstile.Text

inductive Code where
  | ok
  | invalidArgument
  | notFound
  | alreadyExists
  | permissionDenied
  | unimplemented
  | internal
  | unauthenticated
  deriving DecidableEq, Repr

namespace Code

def all : List Code :=
  [ok, invalidArgument, notFound, alreadyExists, permissionDenied, unimplemented, internal,
   unauthenticated]

def number : Code → Nat
  | ok => 0
  | invalidArgument => 3
  | notFound => 5
  | alreadyExists => 6
  | permissionDenied => 7
  | unimplemented => 12
  | internal => 13
  | unauthenticated => 16

def ofNumber? (number : Nat) : Option Code :=
  all.find? fun code => code.number == number

@[simp] theorem ofNumber?_number (code : Code) : ofNumber? code.number = some code := by
  cases code <;> decide

def ofKind : Auth.ErrorKind → Code
  | .invalidArgument => invalidArgument
  | .unauthenticated => unauthenticated
  | .permissionDenied => permissionDenied
  | .alreadyExists => alreadyExists
  | .notFound => notFound
  | .internal => internal

end Code

structure Status where
  code : Code
  message : String
  deriving DecidableEq, Repr

namespace Status

def ofError (error : Auth.Error) : Status :=
  ⟨.ofKind error.kind, error.message⟩

def unimplemented : Status := ⟨.unimplemented, ""⟩

def codeName : String := "grpc-status"

def messageName : String := "grpc-message"

def messageValue? (message : String) : Option String :=
  let value := Percent.encode message
  if (Utf8.encode value).all Header.isLegalByte then some value else none

/-- The headers of an answer that has no body, sorted by their names. An empty message is left
out, and so is one that a header cannot hold. -/
def headers (status : Status) : List (String × String) :=
  let value? := if status.message = "" then none else messageValue? status.message
  ("content-type", "application/grpc")
    :: (value?.toList.map fun value => (messageName, value))
    ++ [(codeName, String.ofList (Decimal.ofNat status.code.number))]

def ofHeaders? (headers : List (String × String)) : Option Status := do
  let number ← Decimal.ofChars? (← headers.lookup codeName).toList
  let code ← Code.ofNumber? number
  let message ← match headers.lookup messageName with
    | some message => Percent.decode? message
    | none => some ""
  return { code, message }

end Status

end Turnstile.Rpc
