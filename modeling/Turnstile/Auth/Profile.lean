import Turnstile.Auth.Admission

/-!
What callers may do with their own accounts: read them, and change some fields.
-/

namespace Turnstile.Auth

open Turnstile.Store

/-- A field that is absent stays as it is. -/
structure ProfileUpdate where
  name : Option String := none
  phoneNumber : Option String := none
  details : Option Account.Meta := none
  deriving DecidableEq

namespace ProfileUpdate

def apply (update : ProfileUpdate) (account : Account) : Account :=
  { account with
    name := update.name.getD account.name
    phoneNumber := update.phoneNumber.getD account.phoneNumber
    details := update.details.getD account.details }

end ProfileUpdate

def profile (caller : Caller) : Account :=
  caller.account

/-- Writes back the account of the caller's admission with the changes. -/
def updateProfile (caller : Caller) (update : ProfileUpdate) : Session Error Account :=
  request (.update (update.apply caller.account)) .ofStore

end Turnstile.Auth
