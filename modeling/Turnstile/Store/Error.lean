import Turnstile.Text.Quoted

/-!
How a store of accounts can fail. The texts are for operators; callers of the service never see
them.
-/

namespace Turnstile.Store

open Turnstile.Text

/-- What no two accounts may share. A store may have constraints that this library does not know;
they go by their name. -/
inductive UniqueField where
  | email
  | phoneNumber
  | other (constraint : String)
  deriving DecidableEq, Repr

def UniqueField.shown : UniqueField → String
  | email => "Email"
  | phoneNumber => "PhoneNumber"
  | other constraint => "Other(" ++ Quoted.encode constraint ++ ")"

inductive Error where
  | noRows
  | uniqueViolation (field : UniqueField)
  | unavailable (reason : String)
  | backend (reason : String)
  deriving DecidableEq, Repr

def Error.message : Error → String
  | noRows => "no rows in result set"
  | uniqueViolation field => "unique constraint violated on " ++ field.shown
  | unavailable reason => "store unavailable: " ++ reason
  | backend reason => "store error: " ++ reason

end Turnstile.Store
