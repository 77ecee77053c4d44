import Turnstile.Account.Basic
import Turnstile.Json.Plain
import Turnstile.Json.Reader

/-!
Values as a database keeps them. Times are counted there in microseconds from the beginning of the
year 2000.
-/

namespace Turnstile

open Turnstile.Time

namespace Time.Instant

def databaseEpoch : Int := 946684800

example : databaseEpoch = 86400 * dayNumber 2000 1 1 := by decide

/-- What is below a microsecond is cut off, toward the year 2000. -/
def databaseMicroseconds (instant : Instant) : Int :=
  ((instant.seconds - databaseEpoch) * 1000000000 + instant.nanoseconds).tdiv 1000

def ofDatabaseMicroseconds? (microseconds : Int) : Option Instant :=
  ofUnix? (databaseEpoch + microseconds / 1000000) (1000 * (microseconds % 1000000).toNat)

end Time.Instant

namespace Database

inductive Value where
  | null
  | uuid (id : Account.Id)
  | text (value : String)
  | integer (value : Int)
  | boolean (value : Bool)
  | document (json : Json)
  | time (microseconds : Int)
  /-- A value of a type that is not used here, or one that cannot be made out. -/
  | other

namespace Value

def ofDocumentText (text : String) : Value :=
  match (Json.ofText? text).bind (Json.plain? Json.plainDepth) with
  | some json => document json
  | none => other

def ofInstant (instant : Instant) : Value :=
  time instant.databaseMicroseconds

def uuid? : Value → Option Account.Id
  | uuid id => some id
  | _ => none

def text? : Value → Option String
  | text value => some value
  | _ => none

def integer? : Value → Option Int
  | integer value => some value
  | _ => none

def boolean? : Value → Option Bool
  | boolean value => some value
  | _ => none

def document? : Value → Option Json
  | document json => some json
  | _ => none

def instant? : Value → Option Instant
  | time microseconds => Instant.ofDatabaseMicroseconds? microseconds
  | _ => none

end Value

end Database

end Turnstile
