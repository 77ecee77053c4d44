import Turnstile.Auth.Login
import Turnstile.Proofs.Token.Lifetime

/-!
What is granted to an account. There is a token for it unless its end lies beyond the calendar or
there are no random bytes, and the token is good for the account until its lifetime has passed.
-/

namespace Turnstile.Auth

open Turnstile.Time Turnstile.Token

namespace Issuer

/-- The token is good for the account until its lifetime has passed, and then it has expired. -/
def Vouches (issuer : Issuer) (now : Instant) (account : Account) (token : String) : Prop :=
  ∃ expiresAt, now.add? issuer.lifetime = some expiresAt ∧
    ∀ instant, issuer.codec.verify token instant =
      if instant < expiresAt then
        .ok (Claims.of issuer.codec.application account now expiresAt)
      else .error .expired

variable {issuer : Issuer} {moment : Moment}

theorem grant_of_tokenless
    (tokenless : moment.now.add? issuer.lifetime = none ∨ moment.nonce = none)
    (account : Account) : issuer.grant moment account = .error .internal := by
  rw [grant, Codec.issue, Claims.issue_eq]
  cases added : moment.now.add? issuer.lifetime with
  | none => rfl
  | some expiresAt =>
      rcases tokenless with beyond | exhausted
      · rw [added] at beyond
        cases beyond
      · rw [exhausted]
        rfl

theorem exists_grant
    (possible : ¬ (moment.now.add? issuer.lifetime = none ∨ moment.nonce = none))
    (account : Account) : ∃ grant, issuer.grant moment account = .ok grant := by
  rw [not_or] at possible
  rcases Option.ne_none_iff_exists'.mp possible.left with ⟨expiresAt, added⟩
  rcases Option.ne_none_iff_exists'.mp possible.right with ⟨nonce, given⟩
  rw [grant, given, Codec.issue_of_add? issuer.codec account nonce added]
  exact ⟨_, rfl⟩

theorem account_of_grant {account : Account} {granted : Grant}
    (ok : issuer.grant moment account = .ok granted) : granted.account = account := by
  rw [grant] at ok
  split at ok
  · cases ok
    rfl
  · cases ok

theorem issue_of_grant {account : Account} {granted : Grant}
    (ok : issuer.grant moment account = .ok granted) :
    issuer.codec.issue account issuer.lifetime moment.now moment.nonce = .ok granted.token := by
  rw [grant] at ok
  split at ok
  · rename_i token issued
    cases ok
    exact issued
  · cases ok

theorem vouches_of_grant {account : Account} {granted : Grant}
    (ok : issuer.grant moment account = .ok granted) :
    issuer.Vouches moment.now account granted.token := by
  have issued := issue_of_grant ok
  cases added : moment.now.add? issuer.lifetime with
  | none =>
      rw [Codec.issue_of_add?_eq_none _ _ _ added] at issued
      cases issued
  | some expiresAt =>
      cases given : moment.nonce with
      | none =>
          rw [grant_of_tokenless (.inr given)] at ok
          cases ok
      | some nonce =>
          rw [given, Codec.issue_of_add? _ _ nonce added, Except.ok.injEq] at issued
          refine ⟨expiresAt, added, fun instant => ?_⟩
          rw [← issued, Codec.verify_eq, Codec.read?_sealText]
          rfl

end Issuer

end Turnstile.Auth
