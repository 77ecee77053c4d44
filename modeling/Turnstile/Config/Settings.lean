import Turnstile.Auth.Login
import Turnstile.Config.Address
import Turnstile.Secret.Cache
import Turnstile.Text.Blank

/-!
What the service is started with. Variables say where it listens and how long its tokens live; the
key of the tokens is a secret. A variable that holds nothing but blanks counts as absent.
-/

namespace Turnstile.Config

open Turnstile.Text Turnstile.Time Turnstile.Token

inductive Error where
  | secret (error : Secret.Error)
  | key (error : KeyError)
  | invalid (name reason : String)
  deriving DecidableEq, Repr

def Error.message : Error → String
  | secret error => "failed to read secret: " ++ error.message
  | key error => "invalid token key: " ++ error.message
  | invalid name reason => "invalid value for " ++ name ++ ": " ++ reason

structure Settings where
  application : String
  address : SocketAddress
  /-- Without one, accounts live as long as the process. -/
  database : Option String
  tokenLifetime : Duration
  deriving DecidableEq

def defaultApplication : String := "bridge"

def defaultAddress : String := "0.0.0.0:8000"

def defaultLifetime : Duration := .ofMinutes 60

/-- A number above zero that fits into 63 bits; a plus sign may stand before it, and blanks
around it. -/
def minutes? (raw : String) : Option Nat :=
  let digits := match trimChars raw.toList with
    | '+' :: digits => digits
    | digits => digits
  (Decimal.ofChars? digits).filter fun minutes => 0 < minutes && minutes < 0x8000000000000000

def lifetimeVariable : String := "TOKEN_TTL_MINUTES"

/-- A token that is issued now must expire within the calendar. -/
def lifetime? (now : Instant) (minutes : Nat) : Option Duration :=
  (Duration.ofMinutes? minutes).filter fun lifetime => (now.add? lifetime).isSome

def readLifetime (now : Instant) (raw : String) : Except Error Duration :=
  match minutes? raw with
  | none =>
      .error (.invalid lifetimeVariable
        ("expected a positive number of minutes, got '" ++ raw ++ "'"))
  | some minutes =>
      match lifetime? now minutes with
      | some lifetime => .ok lifetime
      | none =>
          .error (.invalid lifetimeVariable
            (String.ofList (Decimal.ofNat minutes) ++ " minutes is too long a token lifetime"))

def readAddress (raw : String) : Except Error SocketAddress :=
  match SocketAddress.ofText? raw with
  | some address => .ok address
  | none => .error (.invalid "GRPC_ADDR" "invalid socket address syntax")

namespace Settings

def ofVariables (lookup : String → Option String) (now : Instant) : Except Error Settings := do
  let given (name : String) := (lookup name).filter fun value => !isBlankText value
  let address ← readAddress ((given "GRPC_ADDR").getD defaultAddress)
  let tokenLifetime ← match given lifetimeVariable with
    | some raw => readLifetime now raw
    | none => .ok defaultLifetime
  return { application := (given "APP_NAME").getD defaultApplication, address
           database := given "DATABASE_URL", tokenLifetime }

def keySecret : String := "JWT_SYMMETRIC_KEY"

def issuer (settings : Settings) : Dialogue Secret.Answer Error Auth.Issuer := do
  let text ← (Secret.get keySecret).mapFailure Error.secret
  match Key.ofText text with
  | .ok key =>
      return { codec := { key, application := settings.application }
               lifetime := settings.tokenLifetime }
  | .error error => .fail (.key error)

end Settings

end Turnstile.Config
