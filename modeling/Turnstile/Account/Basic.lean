import Turnstile.Account.Id
import Turnstile.Time.Instant

/-!
Accounts, as a store keeps them and as everybody else sees them. The hash of the password is no
part of an account: it stands only in what is handed to a store to create one, and in the
credentials that a store returns for checking a password.
-/

namespace Turnstile

open Turnstile.Time

/-- The stages of an account's life. A pending account may log in; an inactive one may not, and
its tokens are refused. -/
inductive Account.Status where
  | pendingActive
  | active
  | inactive
  deriving DecidableEq, Repr, Inhabited

namespace Account.Status

def name : Status → String
  | pendingActive => "PENDING_ACTIVE"
  | active => "ACTIVE"
  | inactive => "INACTIVE"

def all : List Status := [pendingActive, active, inactive]

def ofName? (name : String) : Option Status :=
  all.find? fun status => status.name == name

def number : Status → Int
  | pendingActive => 0
  | active => 1
  | inactive => 2

def ofNumber? (number : Int) : Option Status :=
  all.find? fun status => status.number == number

@[simp] theorem ofName?_name (status : Status) : ofName? status.name = some status := by
  cases status <;> decide

@[simp] theorem ofNumber?_number (status : Status) : ofNumber? status.number = some status := by
  cases status <;> decide

end Account.Status

structure Account.Address where
  line1 : String := ""
  line2 : String := ""
  city : String := ""
  state : String := ""
  country : String := ""
  postalCode : String := ""
  deriving DecidableEq, Inhabited

structure Account.Kyc where
  documentType : String := ""
  documentNumber : String := ""
  dateOfBirth : Option Date := none
  address : Option Account.Address := none
  verifiedAt : Option Instant := none
  deriving DecidableEq, Inhabited

structure Account.Meta where
  kyc : Option Account.Kyc := none
  deriving DecidableEq, Inhabited

structure Account where
  id : Account.Id
  name : String
  email : String
  phoneNumber : String
  status : Account.Status
  details : Account.Meta
  createdAt : Instant
  updatedAt : Instant
  deriving DecidableEq

structure NewAccount where
  name : String
  email : String
  phoneNumber : String
  passwordHash : String
  status : Account.Status
  details : Account.Meta
  createdAt : Instant
  updatedAt : Instant
  deriving DecidableEq

def NewAccount.withId (account : NewAccount) (id : Account.Id) : Account :=
  { id, name := account.name, email := account.email, phoneNumber := account.phoneNumber
    status := account.status, details := account.details, createdAt := account.createdAt
    updatedAt := account.updatedAt }

structure Credentials where
  id : Account.Id
  email : String
  passwordHash : String
  deriving DecidableEq

end Turnstile
