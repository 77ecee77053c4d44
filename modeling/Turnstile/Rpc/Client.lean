import Turnstile.Rpc.Server

/-!
The other side of the service: a client that logs in and sends its token with every further
request.
-/

namespace Turnstile.Rpc

open Turnstile.Auth Turnstile.Store Turnstile.Text Turnstile.Token Turnstile.Wire

structure Client where
  email : String
  password : String
  deriving DecidableEq

namespace Client

def shown (client : Client) : String :=
  Shown.partialText "AuthClient" [Shown.field "email" (Quoted.encode client.email)]

def loginRequest (client : Client) : LoginRequest :=
  { email := client.email, password := client.password }

end Client

structure Authorization where
  value : Bytes
  deriving DecidableEq

namespace Authorization

/-- Tokens that cannot stand in a header are refused. -/
def ofToken (token : String) : Except Status Authorization :=
  let value := Utf8.encode (bearer token)
  if value.all Header.isLegalByte then .ok ⟨value⟩
  else .error ⟨.internal, "access token is not valid header text"⟩

def shown (_ : Authorization) : String := "BearerInterceptor(<redacted>)"

/-- Takes the place of whatever authorization there was. -/
def attach (authorization : Authorization) (headers : List Header) : List Header :=
  headers.filter (fun header => !sameIgnoringCase header.name authorizationName)
    ++ [⟨authorizationName, authorization.value⟩]

end Authorization

/-- Calls a procedure of the service with a message and reads the message that comes back. What is
wrong with one that cannot be read is left out. -/
def call {Query Reply : Type} [Message Query] [Message Reply] (issuer : Issuer) (moment : Moment)
    (procedure : Procedure) (headers : List Header) (query : Query) : Session Status Reply := do
  let body ← serve issuer moment { path := procedure.path, headers, body := Message.encode query }
  match Message.decode? body with
  | some reply => return reply
  | none => .fail ⟨.internal, "failed to decode Protobuf message"⟩

def Client.authorize (client : Client) (issuer : Issuer) (moment : Moment) :
    Session Status Authorization := do
  let response : LoginResponse ← call issuer moment .login [] client.loginRequest
  .ofExcept (Authorization.ofToken response.accessToken)

end Turnstile.Rpc
