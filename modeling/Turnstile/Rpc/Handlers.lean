import Turnstile.Auth.Login
import Turnstile.Auth.Profile
import Turnstile.Rpc.Validation
import Turnstile.Wire.Account

/-!
The four procedures, from request to response. A request is checked before anything else is done
with it; procedures on an account need a caller first.
-/

namespace Turnstile.Rpc

open Turnstile.Auth Turnstile.Store Turnstile.Wire

def loginHandler (issuer : Issuer) (moment : Moment) (request : LoginRequest) :
    Session Auth.Error LoginResponse := do
  .ofExcept (checkLogin request)
  let grant ← issuer.login moment request.email request.password
  return { user := some (User.ofAccount grant.account), accessToken := grant.token }

def registrationOf (request : RegisterRequest) : Registration :=
  { name := request.name, email := request.email, phoneNumber := request.phoneNumber
    password := request.password, confirmPassword := request.confirmPassword }

def registerHandler (issuer : Issuer) (moment : Moment) (request : RegisterRequest) :
    Session Auth.Error RegisterResponse := do
  .ofExcept (checkRegister request)
  let grant ← issuer.register moment (registrationOf request)
  return { user := some (User.ofAccount grant.account), accessToken := grant.token }

def requireCaller : Option Caller → Except Auth.Error Caller
  | some caller => .ok caller
  | none => .error .unauthenticated

def getProfileHandler (caller : Option Caller) (_request : GetProfileRequest) :
    Session Auth.Error GetProfileResponse := do
  let caller ← .ofExcept (requireCaller caller)
  return { user := some (User.ofAccount (profile caller)) }

def profileUpdateOf (request : UpdateProfileRequest) : Except Auth.Error ProfileUpdate :=
  match request.details with
  | none => .ok { name := request.name, phoneNumber := request.phoneNumber, details := none }
  | some details =>
      details.toAccount.map fun details =>
        { name := request.name, phoneNumber := request.phoneNumber, details := some details }

def updateProfileHandler (caller : Option Caller) (request : UpdateProfileRequest) :
    Session Auth.Error UpdateProfileResponse := do
  let caller ← .ofExcept (requireCaller caller)
  .ofExcept (checkUpdateProfile request)
  let update ← .ofExcept (profileUpdateOf request)
  let account ← updateProfile caller update
  return { user := some (User.ofAccount account) }

end Turnstile.Rpc
