import Turnstile.Account.Json
import Turnstile.Proofs.Account.IdText
import Turnstile.Proofs.Json.Forms
import Turnstile.Proofs.Time.InstantText
import Turnstile.Token.Claims

/-!
The documents of an account, with all that is known about its customer. Each type follows from the
types of its fields: a document of a record gives each of them back. What is written for a value is
one of its documents, so it reads back.
-/

namespace Turnstile

open Turnstile.Time Turnstile.Json

namespace Time

theorem Date.ofJson?_toJson (date : Date) : Date.ofJson? date.toJson = some date := by
  rw [toJson, ofJson?, text?_ofString, Option.bind_some, ofSpacedText?_text]

theorem Date.toJson_ne_null (date : Date) : date.toJson ≠ null :=
  ofString_ne_null date.text

theorem Instant.ofJson?_toJson (instant : Instant) :
    Instant.ofJson? instant.toJson = some instant := by
  rw [toJson, ofJson?, text?_ofString, Option.bind_some, ofSpacedText?_text]

theorem Instant.toJson_ne_null (instant : Instant) : instant.toJson ≠ null :=
  ofString_ne_null (instant.text .exact)

end Time

namespace Account

theorem Id.ofJson?_toJson (id : Id) : Id.ofJson? id.toJson = some id := by
  rw [toJson, ofJson?, text?_ofString, Option.bind_some, ofText?_text]

theorem Status.ofJson?_toJson (status : Status) : Status.ofJson? status.toJson = some status :=
  Status.ofName?_name status

/-- The name of a status, or an object with nothing under the name. -/
inductive Status.IsForm (status : Status) : Json → Prop
  | name : IsForm status status.toJson
  | member : IsForm status (.object [(some status.name, .null)])

theorem Status.IsForm.ofJson?_eq {status : Status} {json : Json} (form : status.IsForm json) :
    Status.ofJson? json = some status := by
  cases form with
  | name => exact Status.ofJson?_toJson status
  | member => exact Status.ofName?_name status

namespace Address

def fields (address : Address) : List Field :=
  [.spareText "line1" address.line1, .spareText "line2" address.line2,
   .spareText "city" address.city, .spareText "state" address.state,
   .spareText "country" address.country, .spareText "postal_code" address.postalCode]

def IsForm (address : Address) : Json → Prop :=
  IsRecordOf address.fields

theorem IsForm.ofJson?_eq {address : Address} {json : Json} (form : address.IsForm json) :
    ofJson? json = some address := by
  rcases form.exists_record (show fieldNames.Nodup by decide) with ⟨record, found, answers⟩
  have found : json.record? fieldNames = some record := found
  simp only [fields, List.forall_mem_cons] at answers
  rcases answers with ⟨line1, line2, city, state, country, postalCode, -⟩
  simp only [ofJson?, found, Option.bind_eq_bind, Option.bind_some, line1.spareText,
    line2.spareText, city.spareText, state.spareText, country.spareText, postalCode.spareText]
  rfl

theorem IsForm.reads {address : Address} {json : Json} (form : address.IsForm json) :
    ofJson? json = some address ∧ json ≠ null :=
  ⟨form.ofJson?_eq, form.ne_null⟩

theorem isForm_toJson (address : Address) : address.IsForm address.toJson :=
  isRecordOf_ofMembers (.given rfl (.given rfl (.given rfl (.given rfl (.given rfl (.given rfl
    .nothing))))))

theorem ofJson?_toJson (address : Address) : ofJson? address.toJson = some address :=
  address.isForm_toJson.ofJson?_eq

end Address

namespace Kyc

def fields (kyc : Kyc) : List Field :=
  [.spareText "document_type" kyc.documentType, .spareText "document_number" kyc.documentNumber,
   .option "date_of_birth" (fun date json => json = date.toJson) kyc.dateOfBirth,
   .option "address" Address.IsForm kyc.address,
   .option "verified_at" (fun instant json => json = instant.toJson) kyc.verifiedAt]

def IsForm (kyc : Kyc) : Json → Prop :=
  IsRecordOf kyc.fields

theorem IsForm.ofJson?_eq {kyc : Kyc} {json : Json} (form : kyc.IsForm json) :
    ofJson? json = some kyc := by
  rcases form.exists_record (show fieldNames.Nodup by decide) with ⟨record, found, answers⟩
  have found : json.record? fieldNames = some record := found
  simp only [fields, List.forall_mem_cons] at answers
  rcases answers with ⟨documentType, documentNumber, dateOfBirth, address, verifiedAt, -⟩
  have date {date : Date} {json : Json} (form : json = date.toJson) :
      Date.ofJson? json = some date ∧ json ≠ null :=
    form ▸ ⟨date.ofJson?_toJson, date.toJson_ne_null⟩
  have instant {instant : Instant} {json : Json} (form : json = instant.toJson) :
      Instant.ofJson? json = some instant ∧ json ≠ null :=
    form ▸ ⟨instant.ofJson?_toJson, instant.toJson_ne_null⟩
  simp only [ofJson?, found, Option.bind_eq_bind, Option.bind_some, documentType.spareText,
    documentNumber.spareText, dateOfBirth.option date, address.option Address.IsForm.reads,
    verifiedAt.option instant]
  rfl

theorem IsForm.reads {kyc : Kyc} {json : Json} (form : kyc.IsForm json) :
    ofJson? json = some kyc ∧ json ≠ null :=
  ⟨form.ofJson?_eq, form.ne_null⟩

theorem isForm_toJson (kyc : Kyc) : kyc.IsForm kyc.toJson :=
  isRecordOf_ofMembers (.given rfl (.given rfl
    (.given (Field.isForm_option (fun _ => by rfl) kyc.dateOfBirth)
      (.given (Field.isForm_option Address.isForm_toJson kyc.address)
        (.given (Field.isForm_option (fun _ => by rfl) kyc.verifiedAt) .nothing)))))

theorem ofJson?_toJson (kyc : Kyc) : ofJson? kyc.toJson = some kyc :=
  kyc.isForm_toJson.ofJson?_eq

end Kyc

namespace Meta

def fields (details : Meta) : List Field :=
  [.option "kyc" Kyc.IsForm details.kyc]

def IsForm (details : Meta) : Json → Prop :=
  IsRecordOf details.fields

theorem IsForm.ofJson?_eq {details : Meta} {json : Json} (form : details.IsForm json) :
    ofJson? json = some details := by
  rcases form.exists_record (show fieldNames.Nodup by decide) with ⟨record, found, answers⟩
  have found : json.record? fieldNames = some record := found
  simp only [fields, List.forall_mem_cons] at answers
  simp only [ofJson?, found, Option.bind_eq_bind, Option.bind_some,
    answers.left.option Kyc.IsForm.reads]
  rfl

theorem isForm_toJson (details : Meta) : details.IsForm details.toJson :=
  isRecordOf_ofMembers (.given (Field.isForm_option Kyc.isForm_toJson details.kyc) .nothing)

theorem ofJson?_toJson (details : Meta) : ofJson? details.toJson = some details :=
  details.isForm_toJson.ofJson?_eq

end Meta

def fields (account : Account) : List Field :=
  [.written "id" account.id.toJson, .written "name" (Json.ofString account.name),
   .written "email" (Json.ofString account.email),
   .written "phone_number" (Json.ofString account.phoneNumber),
   ⟨"status", account.status.IsForm, False⟩, ⟨"meta", account.details.IsForm, account.details = {}⟩,
   .written "created_at" account.createdAt.toJson, .written "updated_at" account.updatedAt.toJson]

def IsForm (account : Account) : Json → Prop :=
  IsRecordOf account.fields

theorem IsForm.ofJson?_eq {account : Account} {json : Json} (form : account.IsForm json) :
    ofJson? json = some account := by
  rcases form.exists_record (show fieldNames.Nodup by decide) with ⟨record, found, answers⟩
  have found : json.record? fieldNames = some record := found
  simp only [fields, List.forall_mem_cons] at answers
  rcases answers with ⟨id, name, email, phoneNumber, status, details, createdAt, updatedAt, -⟩
  simp only [ofJson?, found, Option.bind_eq_bind, Option.bind_some,
    id.written account.id.ofJson?_toJson, name.written (text?_ofString _),
    email.written (text?_ofString _), phoneNumber.written (text?_ofString _),
    status.required Status.IsForm.ofJson?_eq,
    details.withDefault Meta.IsForm.ofJson?_eq fun default => default,
    createdAt.written account.createdAt.ofJson?_toJson,
    updatedAt.written account.updatedAt.ofJson?_toJson]
  rfl

theorem isForm_toJson (account : Account) : account.IsForm account.toJson :=
  isRecordOf_ofMembers (.given rfl (.given rfl (.given rfl (.given rfl (.given .name
    (.given account.details.isForm_toJson (.given rfl (.given rfl .nothing))))))))

theorem ofJson?_toJson (account : Account) : ofJson? account.toJson = some account :=
  account.isForm_toJson.ofJson?_eq

end Account

namespace Token.Claims

def fields (claims : Claims) : List Field :=
  [.written "aud" (Json.ofString claims.audience), .written "iss" (Json.ofString claims.issuer),
   .written "iat" claims.issuedAt.toJson, .written "nbf" claims.notBefore.toJson,
   .written "exp" claims.expiresAt.toJson, .written "sub" claims.subject.toJson,
   ⟨"account", claims.account.IsForm, False⟩]

def IsForm (claims : Claims) : Json → Prop :=
  IsRecordOf claims.fields

theorem IsForm.ofJson?_eq {claims : Claims} {json : Json} (form : claims.IsForm json) :
    ofJson? json = some claims := by
  rcases form.exists_record (show fieldNames.Nodup by decide) with ⟨record, found, answers⟩
  have found : json.record? fieldNames = some record := found
  simp only [fields, List.forall_mem_cons] at answers
  rcases answers with ⟨audience, issuer, issuedAt, notBefore, expiresAt, subject, account, -⟩
  simp only [ofJson?, found, Option.bind_eq_bind, Option.bind_some,
    audience.written (text?_ofString _), issuer.written (text?_ofString _),
    issuedAt.written claims.issuedAt.ofJson?_toJson,
    notBefore.written claims.notBefore.ofJson?_toJson,
    expiresAt.written claims.expiresAt.ofJson?_toJson,
    subject.written claims.subject.ofJson?_toJson, account.required Account.IsForm.ofJson?_eq]
  rfl

theorem isForm_toJson (claims : Claims) : claims.IsForm claims.toJson :=
  isRecordOf_ofMembers (.given rfl (.given rfl (.given rfl (.given rfl (.given rfl (.given rfl
    (.given claims.account.isForm_toJson .nothing)))))))

theorem ofJson?_toJson (claims : Claims) : ofJson? claims.toJson = some claims :=
  claims.isForm_toJson.ofJson?_eq

end Token.Claims

end Turnstile
