import Turnstile.Database.Reply
import Turnstile.Database.Statement
import Turnstile.Store.Call

/-!
A store of accounts in a database. Each call is a statement or two; a statement is one step of the
database, so others can come between the two statements of `requireVacant`.
-/

namespace Turnstile.Database

open Turnstile.Store Turnstile.Time

def Statement.Answer (_statement : Statement) : Type :=
  Reply

abbrev Exchange (α : Type) : Type :=
  Dialogue Statement.Answer Store.Error α

def send (operation : String) (statement : Statement) : Exchange (List Row × Nat) :=
  .ask statement fun reply => .ofExcept (Reply.outcome operation reply)

def fetch (operation : String) (statement : Statement) : Exchange Row := do
  let (rows, _) ← send operation statement
  match rows with
  | row :: _ => return row
  | [] => .fail .noRows

def ensureTable : Exchange Unit := do
  let _ ← send "ensure_schema" .createTable
  return ()

def authenticate (email : String) : Exchange Credentials := do
  let row ← fetch "authenticate" (.selectCredentials email)
  .ofExcept row.credentials

def find (operation : String) (lookup : Lookup) : Exchange Account := do
  let row ← fetch operation (.selectAccount lookup)
  .ofExcept row.account

def isTaken (operation : String) (lookup : Lookup) : Exchange Bool := do
  let row ← fetch operation (.selectExists lookup)
  .ofExcept (row.truth operation)

def requireVacant (email phoneNumber : String) : Exchange Unit := do
  if ← isTaken "exists" (.email email) then .fail (.uniqueViolation .email)
  else if ← isTaken "exists" (.phoneNumber phoneNumber) then .fail (.uniqueViolation .phoneNumber)
  else return ()

def create (id : Account.Id) (account : NewAccount) : Exchange Account := do
  let _ ← send "create" (.insert id account)
  return account.withId id

/-- The account that is returned has the time of its update to the nanosecond, the row only to the
microsecond. -/
def update (now : Instant) (account : Account) : Exchange Account := do
  let (_, affected) ← send "update" (.update account now)
  if affected = 0 then .fail .noRows else return { account with updatedAt := now }

/-- The update of an account that its caller holds. It is written to after the database has told
that a row was affected. -/
def updateInPlace (now : Instant) : InPlace (Dialogue Statement.Answer Empty) Unit := do
  let account ← getThe Account
  let (_, affected) ← InPlace.ofDialogue (send "update" (.update account now))
  if affected = 0 then throw .noRows
  else modifyThe Account fun account => { account with updatedAt := now }

def perform (now : Instant) (freshId : Account.Id) : (call : Call) → Exchange call.Result
  | .authenticate email => authenticate email
  | .create account => create freshId account
  | .findById id => find "find_by_id" (.id id)
  | .findByEmail email => find "find_by_email" (.email email)
  | .findByPhoneNumber phoneNumber => find "find_by_phone_number" (.phoneNumber phoneNumber)
  | .requireVacant email phoneNumber => requireVacant email phoneNumber
  | .update account => update now account

end Turnstile.Database
