import Turnstile.Auth.Error
import Turnstile.Auth.Metadata
import Turnstile.Text.Split

/-!
The token that a request carries: the one value under `authorization`, after the word `bearer` in
any case and one space.
-/

namespace Turnstile.Auth

open Turnstile.Text

def authorizationName : String := "authorization"

def bearerScheme : String := "bearer"

def credential (value : String) : Except Error String :=
  match splitOnce ' ' value with
  | none => .error .malformedToken
  | some (scheme, credential) =>
      if sameIgnoringCase scheme bearerScheme then .ok credential
      else .error .invalidAuthorizationScheme

def bearerToken (metadata : Option Metadata) : Except Error String :=
  match metadata with
  | none => .error .missingContextMetadata
  | some metadata =>
      match metadata.values authorizationName with
      | [value] => credential value
      | _ => .error .missingAuthHeader

end Turnstile.Auth
