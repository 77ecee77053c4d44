import Turnstile.Auth.Error
import Turnstile.Text.Blank
import Turnstile.Text.Split
import Turnstile.Wire.Messages

/-!
What the fields of a request must look like before anything is done with them. The first field
that does not is the one complained about.
-/

namespace Turnstile.Rpc

open Turnstile.Text Turnstile.Wire

abbrev Check := Except Auth.Error Unit

namespace Check

def demand (condition : Bool) (complaint : String) : Check :=
  if condition then .ok () else .error (.invalidArgument complaint)

def required (field value : String) : Check :=
  demand (!isBlankText value) (field ++ " is required")

def isName (value : String) : Bool :=
  3 ≤ (trimChars value.toList).length

/-- One at sign, with something before it and something after it. -/
def isEmail (value : String) : Bool :=
  match splitChars '@' value.toList with
  | some (mailbox, domain) => !mailbox.isEmpty && !domain.isEmpty && !domain.contains '@'
  | none => false

def name (value : String) : Check :=
  demand (isName value) "name must be at least 3 characters"

def email (value : String) : Check :=
  demand (isEmail value) "email must be a valid email address"

def ifPresent (check : String → Check) : Option String → Check
  | none => .ok ()
  | some value => check value

end Check

open Check

def checkLogin (request : LoginRequest) : Check := do
  required "email" request.email
  required "password" request.password

def checkRegister (request : RegisterRequest) : Check := do
  name request.name
  email request.email
  required "phone_number" request.phoneNumber
  required "password" request.password
  required "confirm_password" request.confirmPassword

def checkUpdateProfile (request : UpdateProfileRequest) : Check := do
  ifPresent name request.name
  ifPresent (required "phone_number") request.phoneNumber

end Turnstile.Rpc
