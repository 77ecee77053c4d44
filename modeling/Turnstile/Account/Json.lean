import Turnstile.Account.Basic
import Turnstile.Json.Record
import Turnstile.Json.Reader
import Turnstile.Json.Writer
import Turnstile.Time.InstantText

/-!
Accounts in JSON. A status may also stand as an object with `null` under its name. All fields of
an address, of a customer's data and of the metadata may be left out; of an account only its
metadata may.
-/

namespace Turnstile

open Turnstile.Time

namespace Account

def Id.toJson (id : Id) : Json :=
  Json.ofString id.text

def Id.ofJson? (json : Json) : Option Id :=
  json.text?.bind ofText?

def Status.toJson (status : Status) : Json :=
  Json.ofString status.name

def Status.ofJson? : Json → Option Status
  | .string content => content.bind ofName?
  | .object [(name, .null)] => name.bind ofName?
  | _ => none

end Account

namespace Time

def Date.toJson (date : Date) : Json :=
  Json.ofString date.text

def Date.ofJson? (json : Json) : Option Date :=
  json.text?.bind ofSpacedText?

def Instant.toJson (instant : Instant) : Json :=
  Json.ofString (instant.text .exact)

def Instant.ofJson? (json : Json) : Option Instant :=
  json.text?.bind ofSpacedText?

end Time

namespace Account

def Address.fieldNames : List String :=
  ["line1", "line2", "city", "state", "country", "postal_code"]

def Address.toJson (address : Address) : Json :=
  Json.ofMembers
    [("line1", Json.ofString address.line1), ("line2", Json.ofString address.line2),
     ("city", Json.ofString address.city), ("state", Json.ofString address.state),
     ("country", Json.ofString address.country),
     ("postal_code", Json.ofString address.postalCode)]

def Address.ofJson? (json : Json) : Option Address := do
  let record ← json.record? fieldNames
  let line1 ← record.withDefault "line1" "" Json.text?
  let line2 ← record.withDefault "line2" "" Json.text?
  let city ← record.withDefault "city" "" Json.text?
  let state ← record.withDefault "state" "" Json.text?
  let country ← record.withDefault "country" "" Json.text?
  let postalCode ← record.withDefault "postal_code" "" Json.text?
  return { line1, line2, city, state, country, postalCode }

def Kyc.fieldNames : List String :=
  ["document_type", "document_number", "date_of_birth", "address", "verified_at"]

def Kyc.toJson (kyc : Kyc) : Json :=
  Json.ofMembers
    [("document_type", Json.ofString kyc.documentType),
     ("document_number", Json.ofString kyc.documentNumber),
     ("date_of_birth", Json.ofOption Date.toJson kyc.dateOfBirth),
     ("address", Json.ofOption Address.toJson kyc.address),
     ("verified_at", Json.ofOption Instant.toJson kyc.verifiedAt)]

def Kyc.ofJson? (json : Json) : Option Kyc := do
  let record ← json.record? fieldNames
  let documentType ← record.withDefault "document_type" "" Json.text?
  let documentNumber ← record.withDefault "document_number" "" Json.text?
  let dateOfBirth ← record.withDefault "date_of_birth" none (Json.option? Date.ofJson?)
  let address ← record.withDefault "address" none (Json.option? Address.ofJson?)
  let verifiedAt ← record.withDefault "verified_at" none (Json.option? Instant.ofJson?)
  return { documentType, documentNumber, dateOfBirth, address, verifiedAt }

def Meta.fieldNames : List String := ["kyc"]

def Meta.toJson (details : Meta) : Json :=
  Json.ofMembers [("kyc", Json.ofOption Kyc.toJson details.kyc)]

def Meta.ofJson? (json : Json) : Option Meta := do
  let record ← json.record? fieldNames
  let kyc ← record.withDefault "kyc" none (Json.option? Kyc.ofJson?)
  return { kyc }

def fieldNames : List String :=
  ["id", "name", "email", "phone_number", "status", "meta", "created_at", "updated_at"]

def toJson (account : Account) : Json :=
  Json.ofMembers
    [("id", account.id.toJson), ("name", Json.ofString account.name),
     ("email", Json.ofString account.email),
     ("phone_number", Json.ofString account.phoneNumber), ("status", account.status.toJson),
     ("meta", account.details.toJson), ("created_at", account.createdAt.toJson),
     ("updated_at", account.updatedAt.toJson)]

def ofJson? (json : Json) : Option Account := do
  let record ← json.record? fieldNames
  let id ← record.required "id" Id.ofJson?
  let name ← record.required "name" Json.text?
  let email ← record.required "email" Json.text?
  let phoneNumber ← record.required "phone_number" Json.text?
  let status ← record.required "status" Status.ofJson?
  let details ← record.withDefault "meta" {} Meta.ofJson?
  let createdAt ← record.required "created_at" Instant.ofJson?
  let updatedAt ← record.required "updated_at" Instant.ofJson?
  return { id, name, email, phoneNumber, status, details, createdAt, updatedAt }

end Account

end Turnstile
