import Turnstile.Account.Basic
import Turnstile.Text.Quoted

/-!
How values appear in logs: field by field, with secrets blotted out. Fields that are left out
altogether are announced by two dots.
-/

namespace Turnstile

open Turnstile.Text

def redacted : String := "<redacted>"

namespace Shown

def field (name shown : String) : String :=
  name ++ ": " ++ shown

def structureText (name : String) (fields : List String) : String :=
  name ++ " \x7b " ++ String.intercalate ", " fields ++ " \x7d"

def partialText (name : String) (fields : List String) : String :=
  structureText name (fields ++ [".."])

end Shown

open Shown

def Account.Id.shown (id : Account.Id) : String :=
  "AccountId(" ++ id.text ++ ")"

def Account.Status.shown : Account.Status → String
  | .pendingActive => "PendingActive"
  | .active => "Active"
  | .inactive => "Inactive"

def Credentials.shown (credentials : Credentials) : String :=
  structureText "Credentials"
    [field "id" credentials.id.shown, field "email" (Quoted.encode credentials.email),
     field "password_hash" (Quoted.encode redacted)]

def NewAccount.shown (account : NewAccount) : String :=
  partialText "NewAccount"
    [field "name" (Quoted.encode account.name), field "email" (Quoted.encode account.email),
     field "phone_number" (Quoted.encode account.phoneNumber),
     field "password_hash" (Quoted.encode redacted), field "status" account.status.shown]

end Turnstile
