import Turnstile.Json.Basic
import Turnstile.Wire.Account

/-!
Messages in JSON, for people who want to see or write them. A field that has no value, or one of
the wrong type, is read as if it were not set; a message within a message is there if an object
stands for it. A status is shown by its number and by its name.
-/

namespace Turnstile

namespace Json

def ofInt (value : Int) : Json :=
  number ⟨decide (value < 0), value.natAbs, [], 0⟩

def int? : Json → Option Int
  | number ⟨negative, whole, [], 0⟩ => some (if negative then -whole else whole)
  | _ => none

def member (json : Json) (name : String) : Json :=
  match json with
  | object members => (members.lookup (some name)).getD null
  | _ => null

def textMember (json : Json) (name : String) : String :=
  (json.member name).text?.getD ""

def objectMember {α : Type} (ofJson : Json → α) (json : Json) (name : String) : Option α :=
  match json.member name with
  | object members => some (ofJson (object members))
  | _ => none

end Json

namespace Wire

open Json

def Address.ofJson (json : Json) : Address :=
  { line1 := json.textMember "line1", line2 := json.textMember "line2"
    city := json.textMember "city", state := json.textMember "state"
    country := json.textMember "country", postalCode := json.textMember "postal_code" }

def Address.toJson (address : Address) : Json :=
  ofMembers
    [("line1", ofString address.line1), ("line2", ofString address.line2),
     ("city", ofString address.city), ("state", ofString address.state),
     ("country", ofString address.country), ("postal_code", ofString address.postalCode)]

def Kyc.ofJson (json : Json) : Kyc :=
  { documentType := json.textMember "document_type"
    documentNumber := json.textMember "document_number"
    dateOfBirth := json.textMember "date_of_birth"
    address := json.objectMember Address.ofJson "address"
    verifiedAt := json.textMember "verified_at" }

def Kyc.toJson (kyc : Kyc) : Json :=
  ofMembers
    [("document_type", ofString kyc.documentType), ("document_number", ofString kyc.documentNumber),
     ("date_of_birth", ofString kyc.dateOfBirth), ("address", ofOption Address.toJson kyc.address),
     ("verified_at", ofString kyc.verifiedAt)]

def UserMeta.ofJson (json : Json) : UserMeta :=
  { kyc := json.objectMember Kyc.ofJson "kyc" }

def UserMeta.toJson (details : UserMeta) : Json :=
  ofMembers [("kyc", ofOption Kyc.toJson details.kyc)]

def User.ofJson (json : Json) : User :=
  { id := json.textMember "id", name := json.textMember "name", email := json.textMember "email"
    phoneNumber := json.textMember "phone_number"
    status := Int32.ofInt ((json.member "status").int?.getD 0)
    details := json.objectMember UserMeta.ofJson "meta"
    createdAt := json.textMember "created_at", updatedAt := json.textMember "updated_at" }

def statusName (status : Account.Status) : String :=
  "ACCOUNT_STATUS_" ++ status.name

def User.toJson (user : User) : Json :=
  ofMembers
    [("id", ofString user.id), ("name", ofString user.name), ("email", ofString user.email),
     ("phone_number", ofString user.phoneNumber), ("status", ofInt user.status.toInt),
     ("status_name", ofString (statusName user.accountStatus)),
     ("meta", ofOption UserMeta.toJson user.details), ("created_at", ofString user.createdAt),
     ("updated_at", ofString user.updatedAt)]

def LoginRequest.ofJson (json : Json) : LoginRequest :=
  { email := json.textMember "email", password := json.textMember "password" }

def LoginRequest.toJson (request : LoginRequest) : Json :=
  ofMembers [("email", ofString request.email), ("password", ofString request.password)]

def LoginResponse.ofJson (json : Json) : LoginResponse :=
  { user := json.objectMember User.ofJson "user", accessToken := json.textMember "access_token" }

def LoginResponse.toJson (response : LoginResponse) : Json :=
  ofMembers
    [("user", ofOption User.toJson response.user), ("access_token", ofString response.accessToken)]

def RegisterRequest.ofJson (json : Json) : RegisterRequest :=
  { name := json.textMember "name", email := json.textMember "email"
    phoneNumber := json.textMember "phone_number", password := json.textMember "password"
    confirmPassword := json.textMember "confirm_password" }

def RegisterRequest.toJson (request : RegisterRequest) : Json :=
  ofMembers
    [("name", ofString request.name), ("email", ofString request.email),
     ("phone_number", ofString request.phoneNumber), ("password", ofString request.password),
     ("confirm_password", ofString request.confirmPassword)]

def RegisterResponse.ofJson (json : Json) : RegisterResponse :=
  { user := json.objectMember User.ofJson "user", accessToken := json.textMember "access_token" }

def RegisterResponse.toJson (response : RegisterResponse) : Json :=
  ofMembers
    [("user", ofOption User.toJson response.user), ("access_token", ofString response.accessToken)]

def GetProfileRequest.ofJson (_json : Json) : GetProfileRequest := {}

def GetProfileRequest.toJson (_request : GetProfileRequest) : Json :=
  ofMembers []

def GetProfileResponse.ofJson (json : Json) : GetProfileResponse :=
  { user := json.objectMember User.ofJson "user" }

def GetProfileResponse.toJson (response : GetProfileResponse) : Json :=
  ofMembers [("user", ofOption User.toJson response.user)]

def UpdateProfileRequest.ofJson (json : Json) : UpdateProfileRequest :=
  { name := (json.member "name").text?, phoneNumber := (json.member "phone_number").text?
    details := json.objectMember UserMeta.ofJson "meta" }

def UpdateProfileRequest.toJson (request : UpdateProfileRequest) : Json :=
  ofMembers
    [("name", ofOption ofString request.name),
     ("phone_number", ofOption ofString request.phoneNumber),
     ("meta", ofOption UserMeta.toJson request.details)]

def UpdateProfileResponse.ofJson (json : Json) : UpdateProfileResponse :=
  { user := json.objectMember User.ofJson "user" }

def UpdateProfileResponse.toJson (response : UpdateProfileResponse) : Json :=
  ofMembers [("user", ofOption User.toJson response.user)]

end Wire

end Turnstile
