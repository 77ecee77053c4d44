import Turnstile.Proofs.Token.Opening

/-!
The life of a token, from its issue to its end. It is issued whenever the instant at which it would
expire lies within the calendar; until that instant it verifies to what it was issued for, and from
then on it is an expired token and never an invalid one.
-/

namespace Turnstile.Token

open Turnstile.Time
open Crypto.ChaCha20 (Nonce)

def Claims.of (application : String) (account : Account) (now expiresAt : Instant) : Claims :=
  { audience := application, issuer := application, issuedAt := now, notBefore := now, expiresAt
    subject := account.id, account }

theorem Claims.issue_eq (application : String) (account : Account) (now : Instant)
    (lifetime : Duration) :
    Claims.issue application account now lifetime =
      match now.add? lifetime with
      | none => .error (.lifetimeOutOfRange lifetime)
      | some expiresAt => .ok (Claims.of application account now expiresAt) := rfl

theorem Codec.issue_of_add? (codec : Codec) (account : Account) {now expiresAt : Instant}
    {lifetime : Duration} (nonce : Nonce) (added : now.add? lifetime = some expiresAt) :
    codec.issue account lifetime now (some nonce) =
      .ok (sealText codec.key nonce
        (payload (Claims.of codec.application account now expiresAt))) := by
  rw [Codec.issue, Claims.issue_eq, added]
  rfl

theorem Codec.issue_of_add?_eq_none (codec : Codec) (account : Account) {now : Instant}
    {lifetime : Duration} (nonce : Option Nonce) (beyond : now.add? lifetime = none) :
    codec.issue account lifetime now nonce = .error (.lifetimeOutOfRange lifetime) := by
  rw [Codec.issue, Claims.issue_eq, beyond]
  rfl

/-- The verifier shares the key with the issuer, and need not go by the same name. -/
theorem verify_issued (key : Key) (application verifier : String) (account : Account)
    (now : Instant) (lifetime : Duration) (nonce : Nonce) :
    (Codec.issue ⟨key, application⟩ account lifetime now (some nonce) =
        .error (.lifetimeOutOfRange lifetime) ↔ ¬ Instant.IsOnLine (now.sum lifetime)) ∧
      (Instant.IsOnLine (now.sum lifetime) → ∃ expiresAt token,
        now.add? lifetime = some expiresAt ∧
        Codec.issue ⟨key, application⟩ account lifetime now (some nonce) = .ok token ∧
        ∀ instant, Codec.verify ⟨key, verifier⟩ token instant =
          if instant < expiresAt then .ok (Claims.of application account now expiresAt)
          else .error .expired) := by
  have range := now.add?_isSome_iff lifetime
  cases added : now.add? lifetime with
  | none =>
      have refused := Codec.issue_of_add?_eq_none ⟨key, application⟩ account (some nonce) added
      simp only [added, Option.isSome_none, Bool.false_eq_true, false_iff] at range
      exact ⟨iff_of_true refused range, fun onLine => absurd onLine range⟩
  | some expiresAt =>
      have issued := Codec.issue_of_add? ⟨key, application⟩ account nonce added
      simp only [added, Option.isSome_some, true_iff] at range
      refine ⟨?_, fun _ => ⟨expiresAt, _, rfl, issued, ?_⟩⟩
      · rw [issued]
        simp [range]
      · intro instant
        rw [Codec.verify_eq, Codec.read?_sealText ⟨key, verifier⟩]
        rfl

end Turnstile.Token
