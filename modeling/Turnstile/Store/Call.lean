import Turnstile.Account.Basic
import Turnstile.Dialogue
import Turnstile.Store.Error

/-!
What can be asked of a store of accounts. Every call is one step of the store: others may come
between two calls but not into one. Accounts that have been deleted are not there for any of them.
-/

namespace Turnstile.Store

inductive Call where
  | authenticate (email : String)
  | create (account : NewAccount)
  | findById (id : Account.Id)
  | findByEmail (email : String)
  | findByPhoneNumber (phoneNumber : String)
  /-- Fails if the email or the phone number is taken; the email is looked at first. -/
  | requireVacant (email phoneNumber : String)
  /-- Stores an account in the place of the one with its identifier. The answer is the account as
  it is stored, which differs in the time of its last update. -/
  | update (account : Account)
  deriving DecidableEq

def Call.Result : Call → Type
  | authenticate _ => Credentials
  | create _ => Account
  | findById _ => Account
  | findByEmail _ => Account
  | findByPhoneNumber _ => Account
  | requireVacant _ _ => Unit
  | update _ => Account

def Call.Answer (call : Call) : Type :=
  Except Error call.Result

abbrev Session (Failure α : Type) : Type :=
  Dialogue Call.Answer Failure α

def request {Failure : Type} (call : Call) (explain : Error → Failure) :
    Session Failure call.Result :=
  .ask call fun
    | .ok result => .done result
    | .error error => .fail (explain error)

/-- A computation that may change an account which somebody else holds. What it has changed before
it fails stays changed. -/
abbrev InPlace (m : Type → Type) (α : Type) : Type :=
  ExceptT Error (StateT Account m) α

namespace InPlace

variable {m : Type → Type} {α : Type}

def on (action : InPlace m α) (account : Account) : m (Except Error α × Account) :=
  StateT.run (ExceptT.run action) account

def ofDialogue {Question : Type} {Answer : Question → Type}
    (dialogue : Dialogue Answer Error α) : InPlace (Dialogue Answer Empty) α :=
  ExceptT.mk (StateT.lift dialogue.attempt)

end InPlace

/-! Calls by their kind, whatever their arguments are. -/

inductive Method where
  | authenticate
  | create
  | findById
  | findByEmail
  | findByPhoneNumber
  | requireVacant
  | update
  deriving DecidableEq, Repr

def Method.all : List Method :=
  [authenticate, create, findById, findByEmail, findByPhoneNumber, requireVacant, update]

def Call.method : Call → Method
  | authenticate _ => .authenticate
  | create _ => .create
  | findById _ => .findById
  | findByEmail _ => .findByEmail
  | findByPhoneNumber _ => .findByPhoneNumber
  | requireVacant _ _ => .requireVacant
  | update _ => .update

def Call.isWrite : Call → Bool
  | create _ => true
  | update _ => true
  | _ => false

end Turnstile.Store
