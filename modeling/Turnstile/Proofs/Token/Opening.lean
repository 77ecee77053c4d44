import Turnstile.Proofs.Account.Json
import Turnstile.Proofs.Crypto.Sealing
import Turnstile.Proofs.Json.Values
import Turnstile.Proofs.Text.Base64
import Turnstile.Proofs.Time.TimeLine
import Turnstile.Token.Codec

/-!
What is in a token. A text opens only if it is spelled exactly as sealing spells it, so for each
key, nonce and plain text there is one token, and what an issued token opens to reads as the claims
that it was issued for.
-/

namespace Turnstile.Token

open Turnstile.Crypto Turnstile.Text Turnstile.Time
open ChaCha20 (Nonce)

def spell (bytes : Bytes) : String :=
  header ++ String.ofList (Base64.encodeChars Base64.urlSafe bytes)

theorem sealText_eq_spell (key : Key) (nonce : Nonce) (plain : Bytes) :
    sealText key nonce plain =
      spell (nonce.bytes ++ sealBytes key.secret nonce (associated nonce.bytes) plain) := rfl

theorem toList_spell (bytes : Bytes) :
    (spell bytes).toList = header.toList ++ Base64.encodeChars Base64.urlSafe bytes := by
  rw [spell, String.toList_append, String.toList_ofList]

theorem openText?_spell (key : Key) (bytes : Bytes) :
    openText? key (spell bytes) =
      (Bytes.Sized.ofBytes? 24 (bytes.take nonceLength)).bind fun nonce =>
        openBytes? key.secret nonce (associated nonce.bytes) (bytes.drop nonceLength) := by
  have headed : header.toList.isPrefixOf (spell bytes).toList = true := by
    rw [toList_spell]
    exact List.isPrefixOf_iff_prefix.mpr (List.prefix_append ..)
  have decoded : Base64.decodeChars? Base64.urlSafe
      ((spell bytes).toList.drop header.toList.length) = some bytes := by
    rw [toList_spell, List.drop_left, Base64.decodeChars?_encodeChars Base64.urlSafe_isFaithful]
  simp only [openText?, headed, if_true, decoded, Option.bind_eq_bind, Option.bind_some]

theorem exists_eq_spell {key : Key} {text : String} {plain : Bytes}
    (opened : openText? key text = some plain) : ∃ bytes, text = spell bytes := by
  rw [openText?] at opened
  split at opened
  · rename_i headed
    simp only [Option.bind_eq_bind, Option.bind_eq_some_iff] at opened
    rcases opened with ⟨bytes, decoded, -⟩
    rcases List.isPrefixOf_iff_prefix.mp headed with ⟨letters, same⟩
    refine ⟨bytes, String.toList_inj.mp ?_⟩
    rw [← same, List.drop_left, Base64.decodeChars?_eq_some_iff Base64.urlSafe_isFaithful] at decoded
    rw [toList_spell, ← same, decoded]
  · cases opened

theorem ofBytes?_eq_some_iff {size : Nat} (bytes : Bytes) (sized : Bytes.Sized size) :
    Bytes.Sized.ofBytes? size bytes = some sized ↔ bytes = sized.bytes := by
  rcases sized with ⟨inner, length⟩
  rw [Bytes.Sized.ofBytes?]
  split
  · simp
  · rename_i wrong
    simp only [reduceCtorEq, false_iff]
    rintro rfl
    exact wrong length

theorem openText?_spell_append (key : Key) (nonce : Nonce) (sealedBytes : Bytes) :
    openText? key (spell (nonce.bytes ++ sealedBytes)) =
      openBytes? key.secret nonce (associated nonce.bytes) sealedBytes := by
  have length : nonce.bytes.length = nonceLength := nonce.length_bytes
  have sized := (ofBytes?_eq_some_iff nonce.bytes nonce).mpr rfl
  rw [openText?_spell, List.take_left' length, List.drop_left' length, sized, Option.bind_some]

/-- Each plain text has one token for each nonce, and nothing else opens. -/
theorem openText?_eq_some_iff (key : Key) (text : String) (plain : Bytes) :
    openText? key text = some plain ↔ ∃ nonce : Nonce, text = sealText key nonce plain := by
  constructor
  · intro opened
    rcases exists_eq_spell opened with ⟨bytes, rfl⟩
    rw [openText?_spell, Option.bind_eq_some_iff] at opened
    rcases opened with ⟨nonce, sized, opened⟩
    refine ⟨nonce, ?_⟩
    rw [sealText_eq_spell, ← (openBytes?_eq_some_iff ..).mp opened,
      ← (ofBytes?_eq_some_iff ..).mp sized, List.take_append_drop]
  · rintro ⟨nonce, rfl⟩
    rw [sealText_eq_spell, openText?_spell_append, openBytes?_eq_some_iff]

def claims? (plain : Bytes) : Option Claims :=
  (Json.ofBytes? plain).bind Claims.ofJson?

theorem claims?_payload (claims : Claims) : claims? (payload claims) = some claims := by
  rw [claims?, payload, Json.ofBytes?_write, Option.bind_some, Claims.ofJson?_toJson]

namespace Codec

theorem read?_eq (codec : Codec) (text : String) :
    codec.read? text = (openText? codec.key text).bind claims? := rfl

theorem read?_sealText (codec : Codec) (nonce : Nonce) (claims : Claims) :
    codec.read? (sealText codec.key nonce (payload claims)) = some claims := by
  have opened := (openText?_eq_some_iff codec.key _ (payload claims)).mpr ⟨nonce, rfl⟩
  rw [read?_eq, opened, Option.bind_some, claims?_payload]

/-- What is no token of the key is invalid, whatever the time; what is one has expired or not. -/
theorem verify_eq (codec : Codec) (text : String) (now : Instant) :
    codec.verify text now =
      match codec.read? text with
      | none => .error .invalid
      | some claims => if now < claims.expiresAt then .ok claims else .error .expired := by
  rw [verify]
  cases codec.read? text with
  | none => rfl
  | some claims =>
      by_cases early : now < claims.expiresAt
      · have current : ¬ claims.expiresAt ≤ now := not_le.mpr early
        simp [Claims.check, Claims.isExpired, early, current]
      · have expired : claims.expiresAt ≤ now := not_lt.mp early
        simp [Claims.check, Claims.isExpired, early, expired]

end Codec

end Turnstile.Token
