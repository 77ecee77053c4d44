import Turnstile.Account.Json
import Turnstile.Database.Value
import Turnstile.Store.Error
import Turnstile.Text.Decimal

/-!
What comes back for a statement: rows, or one of several failures. A row is read column by column,
each by its name; a column that is missing, empty or of another type than expected spoils the row.
Where a message would go on with what the connection or a decoder says, it ends before that.
-/

namespace Turnstile.Database

open Turnstile.Text Turnstile.Time

abbrev Row := List (String × Value)

structure Complaint where
  code : String
  message : String
  constraint : Option String
  deriving DecidableEq, Repr

inductive Reply where
  | result (rows : List Row) (affected : Nat)
  | refused (complaint : Complaint)
  | timedOut
  | closed
  /-- The connection was lost, or there was none to be had. -/
  | lost
  /-- Anything else that goes wrong on the way to the database or back. -/
  | failed (reason : String)

/-- The number after the last space of a tag. A plus sign may lead it and other letters may follow
it; a number that 64 bits cannot hold counts for nothing. -/
def affectedRows (tag : String) : Nat :=
  let word := (tag.toList.reverse.takeWhile (· != ' ')).reverse
  let unsigned := match word with
    | '+' :: rest => rest
    | word => word
  let number := Decimal.value (unsigned.takeWhile Decimal.isDigit)
  if tag.toList.contains ' ' ∧ number < Nat.pow 2 64 then number else 0

example : affectedRows "INSERT 0 12" = 12 := by decide +kernel
example : affectedRows "UPDATE +3 rows" = 0 := by decide +kernel
example : affectedRows "UPDATE +3rows" = 3 := by decide +kernel

/-! ## Failures -/

def uniqueViolationCode : String := "23505"

def uniqueField : Option String → Store.UniqueField
  | some "accounts_email_key" => .email
  | some "accounts_phone_number_key" => .phoneNumber
  | some constraint => .other constraint
  | none => .other ""

namespace Complaint

def toError (operation : String) (complaint : Complaint) : Store.Error :=
  if complaint.code = uniqueViolationCode then .uniqueViolation (uniqueField complaint.constraint)
  else .backend ("database error in " ++ operation ++ ": " ++ complaint.message)

end Complaint

namespace Reply

def outcome (operation : String) : Reply → Except Store.Error (List Row × Nat)
  | result rows affected => .ok (rows, affected)
  | refused complaint => .error (complaint.toError operation)
  | timedOut => .error (.unavailable ("connection pool timed out in " ++ operation))
  | closed => .error (.unavailable ("connection pool closed in " ++ operation))
  | lost => .error (.unavailable ("io error in " ++ operation))
  | failed reason => .error (.backend ("sqlx error in " ++ operation ++ ": " ++ reason))

end Reply

/-! ## Rows -/

namespace Row

/-- Of columns with one name the last counts. -/
def value? (row : Row) (name : String) : Option Value :=
  row.reverse.lookup name

def column {α : Type} (row : Row) (name : String) (read? : Value → Option α) :
    Except Store.Error α :=
  match (row.value? name).bind read? with
  | some value => .ok value
  | none => .error (.backend "failed to decode account row")

def status (row : Row) : Except Store.Error Account.Status := do
  let number ← row.column "status" Value.integer?
  match Account.Status.ofNumber? number with
  | some status => .ok status
  | none =>
      .error (.backend ("unknown account status " ++ String.ofList (Decimal.ofInt number)))

def details (row : Row) : Except Store.Error Account.Meta := do
  let json ← row.column "meta" Value.document?
  match Account.Meta.ofJson? json with
  | some details => .ok details
  | none => .error (.backend "failed to decode account meta")

/-- The first column that is not as expected is the one complained about. -/
def account (row : Row) : Except Store.Error Account := do
  let status ← row.status
  let details ← row.details
  let createdAt ← row.column "created_at" Value.instant?
  let updatedAt ← row.column "updated_at" Value.instant?
  let id ← row.column "id" Value.uuid?
  let name ← row.column "name" Value.text?
  let email ← row.column "email" Value.text?
  let phoneNumber ← row.column "phone_number" Value.text?
  return { id, name, email, phoneNumber, status, details, createdAt, updatedAt }

def credentials (row : Row) : Except Store.Error Credentials := do
  let id ← row.column "id" Value.uuid?
  let email ← row.column "email" Value.text?
  let passwordHash ← row.column "password_hash" Value.text?
  return { id, email, passwordHash }

/-- The first column, whatever its name is. -/
def truth (operation : String) (row : Row) : Except Store.Error Bool :=
  match row.head?.bind fun column => column.2.boolean? with
  | some value => .ok value
  | none => .error (.backend ("sqlx error in " ++ operation))

end Row

end Turnstile.Database
