import Turnstile.Account.Json

/-!
What a token claims: who issued it and for whom, when, until when, and which account it speaks
for. The account in it is a picture from the time of issue, to be shown and never to be trusted;
whoever acts on a token looks the subject up.
-/

namespace Turnstile.Token

open Turnstile.Time

structure Claims where
  audience : String
  issuer : String
  issuedAt : Instant
  notBefore : Instant
  expiresAt : Instant
  subject : Account.Id
  account : Account
  deriving DecidableEq

inductive IssueError where
  | lifetimeOutOfRange (lifetime : Duration)
  | noRandomBytes
  deriving DecidableEq, Repr

def IssueError.message : IssueError → String
  | lifetimeOutOfRange lifetime =>
      "failed to encode token: token lifetime " ++ lifetime.text ++ " is out of range"
  | noRandomBytes => "failed to encode token: no random bytes"

inductive VerifyError where
  | invalid
  | expired
  deriving DecidableEq, Repr

def VerifyError.message : VerifyError → String
  | invalid => "invalid token"
  | expired => "token has expired"

namespace Claims

def issue (application : String) (account : Account) (now : Instant) (lifetime : Duration) :
    Except IssueError Claims :=
  match now.add? lifetime with
  | none => .error (.lifetimeOutOfRange lifetime)
  | some expiresAt =>
      .ok
        { audience := application, issuer := application, issuedAt := now, notBefore := now
          expiresAt, subject := account.id, account }

/-- A token is expired from the very instant on at which it expires. -/
def isExpired (claims : Claims) (now : Instant) : Bool :=
  decide (claims.expiresAt ≤ now)

def check (claims : Claims) (now : Instant) : Except VerifyError Unit :=
  if claims.isExpired now then .error .expired else .ok ()

def fieldNames : List String :=
  ["aud", "iss", "iat", "nbf", "exp", "sub", "account"]

def toJson (claims : Claims) : Json :=
  Json.ofMembers
    [("aud", Json.ofString claims.audience), ("iss", Json.ofString claims.issuer),
     ("iat", claims.issuedAt.toJson), ("nbf", claims.notBefore.toJson),
     ("exp", claims.expiresAt.toJson), ("sub", claims.subject.toJson),
     ("account", claims.account.toJson)]

def ofJson? (json : Json) : Option Claims := do
  let record ← json.record? fieldNames
  let audience ← record.required "aud" Json.text?
  let issuer ← record.required "iss" Json.text?
  let issuedAt ← record.required "iat" Instant.ofJson?
  let notBefore ← record.required "nbf" Instant.ofJson?
  let expiresAt ← record.required "exp" Instant.ofJson?
  let subject ← record.required "sub" Account.Id.ofJson?
  let account ← record.required "account" Account.ofJson?
  return { audience, issuer, issuedAt, notBefore, expiresAt, subject, account }

end Claims

end Turnstile.Token
