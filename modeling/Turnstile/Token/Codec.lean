import Turnstile.Crypto.Sealing
import Turnstile.Text.Base64
import Turnstile.Token.Claims
import Turnstile.Token.Framing

/-!
Tokens: claims as JSON, sealed under a symmetric key. A token is a fixed header followed by the
nonce, the encrypted claims and the tag in base 64. The header and the nonce are bound to the
claims as associated data, together with a footer that is always empty. There are no sessions: a
token that opens and has not expired is good.
-/

namespace Turnstile.Token

open Turnstile.Crypto Turnstile.Text Turnstile.Time
open ChaCha20 (Nonce)

def nonceLength : Nat := 24

structure Key where
  secret : ChaCha20.Key
  deriving DecidableEq

structure KeyError where
  actual : Nat
  deriving DecidableEq, Repr

def KeyError.message (error : KeyError) : String :=
  "invalid key size: must be exactly 32 bytes, got " ++ String.ofList (Decimal.ofNat error.actual)

def Key.ofBytes (bytes : Bytes) : Except KeyError Key :=
  match Bytes.Sized.ofBytes? 32 bytes with
  | some secret => .ok ⟨secret⟩
  | none => .error ⟨bytes.length⟩

def Key.ofText (text : String) : Except KeyError Key :=
  ofBytes (Utf8.encode text)

def Key.shown (_ : Key) : String := "SymmetricKey(<redacted>)"

def header : String := "v2.local."

structure Codec where
  key : Key
  application : String

def associated (nonce : Bytes) : Bytes :=
  frame [Utf8.encode header, nonce, []]

def payload (claims : Claims) : Bytes :=
  claims.toJson.write

def sealText (key : Key) (nonce : Nonce) (plain : Bytes) : String :=
  let sealedBytes := sealBytes key.secret nonce (associated nonce.bytes) plain
  header ++ String.ofList (Base64.encodeChars Base64.urlSafe (nonce.bytes ++ sealedBytes))

def openText? (key : Key) (text : String) : Option Bytes := do
  let letters := text.toList
  if header.toList.isPrefixOf letters then
    let body ← Base64.decodeChars? Base64.urlSafe (letters.drop header.toList.length)
    let nonce ← Bytes.Sized.ofBytes? 24 (body.take nonceLength)
    openBytes? key.secret nonce (associated nonce.bytes) (body.drop nonceLength)
  else none

namespace Codec

/-- The claims are made before random bytes for the nonce are asked for. -/
def issue (codec : Codec) (account : Account) (lifetime : Duration) (now : Instant)
    (nonce : Option Nonce) : Except IssueError String := do
  let claims ← Claims.issue codec.application account now lifetime
  match nonce with
  | none => .error .noRandomBytes
  | some nonce => .ok (sealText codec.key nonce (payload claims))

def read? (codec : Codec) (text : String) : Option Claims := do
  let plain ← openText? codec.key text
  let json ← Json.ofBytes? plain
  Claims.ofJson? json

def verify (codec : Codec) (text : String) (now : Instant) : Except VerifyError Claims := do
  match codec.read? text with
  | none => .error .invalid
  | some claims =>
      claims.check now
      return claims

end Codec

def bearer (token : String) : String :=
  "bearer " ++ token

end Turnstile.Token
