import Turnstile.Account.Shown
import Turnstile.Auth.Error
import Turnstile.Password.Hash
import Turnstile.Store.Call
import Turnstile.Token.Codec

/-!
How an account gets a token: by logging in with its password, or by being registered. An unknown
email and a wrong password have the same answer.
-/

namespace Turnstile.Auth

open Turnstile.Time Turnstile.Store Turnstile.Token Turnstile.Text

structure Issuer where
  codec : Codec
  lifetime : Duration

/-- What a request finds when it comes: the time, and random bytes as far as there are any. -/
structure Moment where
  now : Instant
  salt : Option Password.Salt
  nonce : Option Crypto.ChaCha20.Nonce

structure Grant where
  account : Account
  token : String
  deriving DecidableEq

def Issuer.grant (issuer : Issuer) (moment : Moment) (account : Account) : Except Error Grant :=
  match issuer.codec.issue account issuer.lifetime moment.now moment.nonce with
  | .ok token => .ok { account, token }
  | .error _ => .error .internal

def Issuer.login (issuer : Issuer) (moment : Moment) (email password : String) :
    Session Error Grant := do
  let credentials : Credentials ← request (.authenticate email) .ofHiddenLookup
  if Password.compare credentials.passwordHash password then
    let account : Account ← request (.findById credentials.id) .ofHiddenLookup
    if account.status = .inactive then .fail .inactiveAccount
    else .ofExcept (issuer.grant moment account)
  else .fail .unauthenticated

structure Registration where
  name : String
  email : String
  phoneNumber : String
  password : String
  confirmPassword : String
  deriving DecidableEq

namespace Registration

def shown (registration : Registration) : String :=
  Shown.partialText "Registration"
    [Shown.field "name" (Quoted.encode registration.name),
     Shown.field "email" (Quoted.encode registration.email),
     Shown.field "phone_number" (Quoted.encode registration.phoneNumber)]

def newAccount (registration : Registration) (now : Instant) (passwordHash : String) :
    NewAccount :=
  { name := registration.name, email := registration.email
    phoneNumber := registration.phoneNumber, passwordHash, status := .pendingActive
    details := {}, createdAt := now, updatedAt := now }

/-- Whatever keeps a password from being hashed looks the same from here: there is no salt. It may
be a lack of random bytes, a password that is too long or a task that ended early. -/
def passwordHash (registration : Registration) (moment : Moment) : Except Error String :=
  match moment.salt with
  | some salt => .ok (Password.hash salt registration.password)
  | none => .error .internal

end Registration

/-- The account stays even if no token can be issued for it. -/
def Issuer.register (issuer : Issuer) (moment : Moment) (registration : Registration) :
    Session Error Grant := do
  if registration.password ≠ registration.confirmPassword then
    .fail .passwordConfirmationMismatch
  else
    let () ← request (.requireVacant registration.email registration.phoneNumber) .ofStore
    let passwordHash ← .ofExcept (registration.passwordHash moment)
    let account : Account ←
      request (.create (registration.newAccount moment.now passwordHash)) .ofStore
    .ofExcept (issuer.grant moment account)

end Turnstile.Auth
