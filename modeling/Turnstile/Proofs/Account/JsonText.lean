import Turnstile.Proofs.Account.Json
import Turnstile.Proofs.Json.Text

/-!
What is kept and handed on as JSON text: accounts, the parts that they are made of, and the claims
of tokens. A value of any of these types reads back from its text as it was. Texts that others have
written may be more liberal, but once a text has been read, what is written for it is read as the
same value and written in the same way ever after.
-/

namespace Turnstile.Json

open Turnstile.Text

inductive Shape where
  | id
  | status
  | address
  | kyc
  | details
  | account
  | claims
  deriving DecidableEq, Repr

namespace Shape

abbrev Value : Shape → Type
  | id => Account.Id
  | status => Account.Status
  | address => Account.Address
  | kyc => Account.Kyc
  | details => Account.Meta
  | account => Account
  | claims => Token.Claims

def toJson : (shape : Shape) → shape.Value → Json
  | id => Account.Id.toJson
  | status => Account.Status.toJson
  | address => Account.Address.toJson
  | kyc => Account.Kyc.toJson
  | details => Account.Meta.toJson
  | account => Account.toJson
  | claims => Token.Claims.toJson

def ofJson? : (shape : Shape) → Json → Option shape.Value
  | id => Account.Id.ofJson?
  | status => Account.Status.ofJson?
  | address => Account.Address.ofJson?
  | kyc => Account.Kyc.ofJson?
  | details => Account.Meta.ofJson?
  | account => Account.ofJson?
  | claims => Token.Claims.ofJson?

variable (shape : Shape)

theorem ofJson?_toJson (value : shape.Value) : shape.ofJson? (shape.toJson value) = some value := by
  cases shape with
  | id => exact Account.Id.ofJson?_toJson value
  | status => exact Account.Status.ofJson?_toJson value
  | address => exact Account.Address.ofJson?_toJson value
  | kyc => exact Account.Kyc.ofJson?_toJson value
  | details => exact Account.Meta.ofJson?_toJson value
  | account => exact Account.ofJson?_toJson value
  | claims => exact Token.Claims.ofJson?_toJson value

def encode (value : shape.Value) : String :=
  (shape.toJson value).text

def decode? (text : String) : Option shape.Value :=
  (ofText? text).bind shape.ofJson?

def rewrite? (text : String) : Option String :=
  (shape.decode? text).map shape.encode

theorem decode?_encode (value : shape.Value) : shape.decode? (shape.encode value) = some value := by
  rw [decode?, encode, ofText?_text, Option.bind_some, ofJson?_toJson]

theorem rewrite?_encode (value : shape.Value) :
    shape.rewrite? (shape.encode value) = some (shape.encode value) := by
  rw [rewrite?, decode?_encode, Option.map_some]

/-- Every value reads back from its text. What is written for a text that reads is read as the same
value, and it is what is written for itself. -/
theorem text_reads_back :
    (∀ value, Utf8.encode (shape.encode value) = (shape.toJson value).write ∧
        shape.decode? (shape.encode value) = some value) ∧
      ∀ text, (shape.rewrite? text).bind shape.decode? = shape.decode? text ∧
        (shape.rewrite? text).bind shape.rewrite? = shape.rewrite? text := by
  constructor
  · intro value
    exact ⟨encode_text (shape.toJson value), shape.decode?_encode value⟩
  · intro text
    rw [rewrite?]
    cases shape.decode? text with
    | none => exact ⟨rfl, rfl⟩
    | some value => exact ⟨shape.decode?_encode value, shape.rewrite?_encode value⟩

end Shape

end Turnstile.Json
