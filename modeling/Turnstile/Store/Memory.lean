import Turnstile.Store.Call

/-!
A store that keeps its accounts in memory, in the order in which they were created. No two of them
share an email or a phone number; a call that would change this is refused, and then nothing
changes.
-/

namespace Turnstile.Store

open Turnstile.Time

structure Row where
  account : Account
  passwordHash : String
  deriving DecidableEq

structure Memory where
  rows : List Row := []
  deriving DecidableEq

namespace Memory

def size (memory : Memory) : Nat :=
  memory.rows.length

def accounts (memory : Memory) : List Account :=
  memory.rows.map (·.account)

/-- What an account with this email and this phone number would share with another one; the row
that `skipped` names does not count. -/
def conflict? (memory : Memory) (skipped : Option Account.Id) (email phoneNumber : String) :
    Option UniqueField :=
  let others := memory.rows.filter fun row => some row.account.id != skipped
  if others.any fun row => row.account.email == email then some .email
  else if others.any fun row => row.account.phoneNumber == phoneNumber then some .phoneNumber
  else none

def find (memory : Memory) (wanted : Account → Bool) : Except Error Account :=
  match memory.rows.find? fun row => wanted row.account with
  | some row => .ok row.account
  | none => .error .noRows

def credentials (memory : Memory) (email : String) : Except Error Credentials :=
  match memory.rows.find? fun row => row.account.email == email with
  | some row =>
      .ok { id := row.account.id, email := row.account.email, passwordHash := row.passwordHash }
  | none => .error .noRows

def requireVacant (memory : Memory) (email phoneNumber : String) : Except Error Unit :=
  match memory.conflict? none email phoneNumber with
  | some field => .error (.uniqueViolation field)
  | none => .ok ()

def insert (memory : Memory) (row : Row) : Memory :=
  { rows := memory.rows ++ [row] }

def replace (memory : Memory) (account : Account) : Memory :=
  { rows := memory.rows.map fun row =>
      if row.account.id = account.id then { row with account } else row }

/-- The identifier must be one that no account has. -/
def create (memory : Memory) (id : Account.Id) (account : NewAccount) :
    Except Error Account × Memory :=
  match memory.conflict? none account.email account.phoneNumber with
  | some field => (.error (.uniqueViolation field), memory)
  | none =>
      (.ok (account.withId id),
        memory.insert { account := account.withId id, passwordHash := account.passwordHash })

/-- Conflicts with other accounts are looked for first, even where there is nothing to update. -/
def update (memory : Memory) (now : Instant) (account : Account) :
    Except Error Account × Memory :=
  match memory.conflict? (some account.id) account.email account.phoneNumber with
  | some field => (.error (.uniqueViolation field), memory)
  | none =>
      if memory.rows.any fun row => row.account.id == account.id then
        let stored := { account with updatedAt := now }
        (.ok stored, memory.replace stored)
      else (.error .noRows, memory)

/-! The update of an account that its caller holds. -/

def accept (memory : Memory) (account : Account) : Except Error Unit :=
  match memory.conflict? (some account.id) account.email account.phoneNumber with
  | some field => .error (.uniqueViolation field)
  | none =>
      if memory.rows.any fun row => row.account.id == account.id then .ok () else .error .noRows

def refresh (now : Instant) : InPlace (StateM Memory) Unit := do
  modifyThe Account fun account => { account with updatedAt := now }
  let stored ← getThe Account
  modifyThe Memory fun memory => memory.replace stored

/-- Nothing is written before all that can fail has been looked at. -/
def updateInPlace (now : Instant) : InPlace (StateM Memory) Unit := do
  let account ← getThe Account
  let memory ← getThe Memory
  liftExcept (memory.accept account)
  refresh now

def respond (now : Instant) (freshId : Account.Id) : Dialogue.Responder Call.Answer Memory
  | .authenticate email, memory => (memory.credentials email, memory)
  | .create account, memory => memory.create freshId account
  | .findById id, memory => (memory.find fun account => account.id == id, memory)
  | .findByEmail email, memory => (memory.find fun account => account.email == email, memory)
  | .findByPhoneNumber phoneNumber, memory =>
      (memory.find fun account => account.phoneNumber == phoneNumber, memory)
  | .requireVacant email phoneNumber, memory => (memory.requireVacant email phoneNumber, memory)
  | .update account, memory => memory.update now account

end Memory

end Turnstile.Store
