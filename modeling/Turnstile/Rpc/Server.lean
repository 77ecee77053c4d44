import Turnstile.Rpc.Handlers
import Turnstile.Rpc.Header
import Turnstile.Rpc.Status

/-!
The whole service. Every request passes the gate first, which goes by the path and the headers
alone; only what it lets through is matched with a procedure, and only then is the body read. Two
procedures need no token, everything else does, whether it exists or not.
-/

namespace Turnstile.Rpc

open Turnstile.Auth Turnstile.Store Turnstile.Wire

def authService : String := "bridge.v1.AuthService"

def accountService : String := "bridge.v1.AccountService"

def policies : PolicyTable :=
  .ofList [(authService, .public), (accountService, .requiresAuth)]

inductive Procedure where
  | login
  | register
  | getProfile
  | updateProfile
  deriving DecidableEq, Repr

namespace Procedure

def all : List Procedure := [login, register, getProfile, updateProfile]

def methodPath : Procedure → MethodPath
  | login => ⟨authService, "Login"⟩
  | register => ⟨authService, "Register"⟩
  | getProfile => ⟨accountService, "GetProfile"⟩
  | updateProfile => ⟨accountService, "UpdateProfile"⟩

def path (procedure : Procedure) : String :=
  procedure.methodPath.text

def ofPath? (path : String) : Option Procedure :=
  all.find? fun procedure => procedure.path == path

@[simp] theorem ofPath?_path (procedure : Procedure) : ofPath? procedure.path = some procedure := by
  cases procedure <;> decide

end Procedure

structure Request where
  path : String
  headers : List Header
  body : Bytes
  deriving DecidableEq

/-- Who is calling; a request that may not pass fails here. -/
def gate (issuer : Issuer) (moment : Moment) (path : String) (headers : List Header) :
    Session Auth.Error (Option Caller) :=
  identify issuer.codec (policies.policyOfPath path) (some (metadataOfHeaders headers)) moment.now

/-- Reads a request of some type, has it handled and writes the response. What is wrong with a body
that cannot be read is left out of the message. -/
def exchange {Query Reply : Type} [Message Query] [Message Reply]
    (handler : Query → Session Auth.Error Reply) (body : Bytes) : Session Status Bytes :=
  match (Message.decode? body : Option Query) with
  | none => .fail ⟨.internal, "failed to decode Protobuf message"⟩
  | some query => Message.encode <$> (handler query).mapFailure Status.ofError

def Procedure.call (procedure : Procedure) (issuer : Issuer) (moment : Moment)
    (caller : Option Caller) (body : Bytes) : Session Status Bytes :=
  match procedure with
  | .login => exchange (loginHandler issuer moment) body
  | .register => exchange (registerHandler issuer moment) body
  | .getProfile => exchange (getProfileHandler caller) body
  | .updateProfile => exchange (updateProfileHandler caller) body

def serve (issuer : Issuer) (moment : Moment) (request : Request) : Session Status Bytes := do
  let caller ← (gate issuer moment request.path request.headers).mapFailure Status.ofError
  match Procedure.ofPath? request.path with
  | none => .fail .unimplemented
  | some procedure => procedure.call issuer moment caller request.body

end Turnstile.Rpc
