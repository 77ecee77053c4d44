import Turnstile.Account.Basic
import Turnstile.Auth.Error
import Turnstile.Time.InstantText
import Turnstile.Wire.Messages

/-!
Accounts as messages. Times are cut to milliseconds on their way out. On their way in, the dates
and times that a caller has sent are read, and an empty text is none.
-/

namespace Turnstile.Wire

open Turnstile.Time

def wireTime (instant : Instant) : String :=
  instant.text .milliseconds

def Address.ofAccount (address : Account.Address) : Address :=
  { line1 := address.line1, line2 := address.line2, city := address.city, state := address.state
    country := address.country, postalCode := address.postalCode }

def Kyc.ofAccount (kyc : Account.Kyc) : Kyc :=
  { documentType := kyc.documentType, documentNumber := kyc.documentNumber
    dateOfBirth := (kyc.dateOfBirth.map Date.text).getD ""
    address := kyc.address.map Address.ofAccount
    verifiedAt := (kyc.verifiedAt.map wireTime).getD "" }

def UserMeta.ofAccount (details : Account.Meta) : UserMeta :=
  { kyc := details.kyc.map Kyc.ofAccount }

def User.ofAccount (account : Account) : User :=
  { id := account.id.text, name := account.name, email := account.email
    phoneNumber := account.phoneNumber, status := Int32.ofInt account.status.number
    details := some (UserMeta.ofAccount account.details)
    createdAt := wireTime account.createdAt, updatedAt := wireTime account.updatedAt }

/-- Numbers that no status has count as the first one. -/
def User.accountStatus (user : User) : Account.Status :=
  (Account.Status.ofNumber? user.status.toInt).getD .pendingActive

def readUnlessEmpty {α : Type} (read? : String → Option α) (complaint text : String) :
    Except Auth.Error (Option α) :=
  if text = "" then .ok none
  else
    match read? text with
    | some value => .ok (some value)
    | none => .error (.invalidArgument complaint)

def Address.toAccount (address : Address) : Account.Address :=
  { line1 := address.line1, line2 := address.line2, city := address.city, state := address.state
    country := address.country, postalCode := address.postalCode }

/-- The date of birth is read first. -/
def Kyc.toAccount (kyc : Kyc) : Except Auth.Error Account.Kyc := do
  let dateOfBirth ←
    readUnlessEmpty Date.ofText? "date_of_birth must be formatted as YYYY-MM-DD" kyc.dateOfBirth
  let verifiedAt ←
    readUnlessEmpty Instant.ofText? "verified_at must be an RFC 3339 timestamp" kyc.verifiedAt
  return { documentType := kyc.documentType, documentNumber := kyc.documentNumber, dateOfBirth
           address := kyc.address.map Address.toAccount, verifiedAt }

def UserMeta.toAccount (details : UserMeta) : Except Auth.Error Account.Meta :=
  match details.kyc with
  | none => .ok { kyc := none }
  | some kyc => kyc.toAccount.map fun kyc => { kyc := some kyc }

end Turnstile.Wire
