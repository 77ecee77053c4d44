import Turnstile.Auth.Bearer
import Turnstile.Auth.Policy
import Turnstile.Store.Call
import Turnstile.Token.Codec

/-!
Who is calling. A token is believed for its subject only; the account is the one that the store
has now, and not the one in the token. Each step must succeed before the next is tried, so the
store is asked once, for the subject of a good token, or not at all.
-/

namespace Turnstile.Auth

open Turnstile.Time Turnstile.Store Turnstile.Token

structure Caller where
  account : Account
  tokenExpiresAt : Instant
  deriving DecidableEq

def Error.ofToken : VerifyError → Error
  | .invalid => invalidToken
  | .expired => expiredToken

def verifiedClaims (codec : Codec) (metadata : Option Metadata) (now : Instant) :
    Except Error Claims := do
  let token ← bearerToken metadata
  (codec.verify token now).mapError Error.ofToken

def authenticate (codec : Codec) (metadata : Option Metadata) (now : Instant) :
    Session Error Caller := do
  let claims ← .ofExcept (verifiedClaims codec metadata now)
  let account : Account ← request (.findById claims.subject) .ofHiddenLookup
  if account.status = .inactive then .fail .inactiveAccount
  else return { account, tokenExpiresAt := claims.expiresAt }

def identify (codec : Codec) (policy : Policy) (metadata : Option Metadata) (now : Instant) :
    Session Error (Option Caller) :=
  match policy with
  | .public => return none
  | .requiresAuth => some <$> authenticate codec metadata now

end Turnstile.Auth
