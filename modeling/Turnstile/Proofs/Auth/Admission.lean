import Turnstile.Auth.Admission
import Turnstile.Proofs.Auth.Bearer
import Turnstile.Proofs.Store.Memory

/-!
The authentication chain from the outside. Its outcomes are told apart by the first stage that
fails; whether a caller is admitted depends on the token's subject and on what the store says of
it now, and never on the account that the token remembers.
-/

namespace Turnstile.Auth

open Turnstile.Time Turnstile.Store Turnstile.Text Turnstile.Token

/-- How the chain ends, by its first stage that fails. The store is meant to give the answers of
`find`. -/
inductive Outcome (codec : Codec) (insertions : Option (List (String × String))) (now : Instant)
    (find : Account.Id → Except Store.Error Account) : Except Error Caller → Prop where
  | noMetadata (absent : insertions = none) :
      Outcome codec insertions now find (.error .missingContextMetadata)
  | noHeader (entries : List (String × String)) (present : insertions = some entries)
      (alone : ¬ ∃ value, Carries insertions value) :
      Outcome codec insertions now find (.error .missingAuthHeader)
  | malformed (value : String) (carried : Carries insertions value)
      (unspaced : ' ' ∉ value.toList) :
      Outcome codec insertions now find (.error .malformedToken)
  | otherScheme (scheme token : String) (carried : Carries insertions (scheme ++ " " ++ token))
      (unspaced : ' ' ∉ scheme.toList) (other : sameIgnoringCase scheme "bearer" = false) :
      Outcome codec insertions now find (.error .invalidAuthorizationScheme)
  | invalid (token : String) (presented : Presents insertions token)
      (refused : codec.verify token now = .error .invalid) :
      Outcome codec insertions now find (.error .invalidToken)
  | expired (token : String) (presented : Presents insertions token)
      (refused : codec.verify token now = .error .expired) :
      Outcome codec insertions now find (.error .expiredToken)
  | unknown (token : String) (claims : Claims) (presented : Presents insertions token)
      (verified : codec.verify token now = .ok claims)
      (missing : find claims.subject = .error .noRows) :
      Outcome codec insertions now find (.error .unauthenticated)
  | broken (token : String) (claims : Claims) (error : Store.Error)
      (presented : Presents insertions token) (verified : codec.verify token now = .ok claims)
      (failed : find claims.subject = .error error) (other : error ≠ .noRows) :
      Outcome codec insertions now find (.error .internal)
  | inactive (token : String) (claims : Claims) (account : Account)
      (presented : Presents insertions token) (verified : codec.verify token now = .ok claims)
      (found : find claims.subject = .ok account) (inactive : account.status = .inactive) :
      Outcome codec insertions now find (.error .inactiveAccount)
  | admitted (token : String) (claims : Claims) (account : Account)
      (presented : Presents insertions token) (verified : codec.verify token now = .ok claims)
      (found : find claims.subject = .ok account) (active : account.status ≠ .inactive) :
      Outcome codec insertions now find (.ok { account, tokenExpiresAt := claims.expiresAt })

def verdict (expiresAt : Instant) : Except Store.Error Account → Except Error Caller
  | .error error => .error (.ofHiddenLookup error)
  | .ok account =>
      if account.status = .inactive then .error .inactiveAccount
      else .ok { account, tokenExpiresAt := expiresAt }

theorem ofExcept_verdict (expiresAt : Instant) (account : Account) :
    (.ofExcept (verdict expiresAt (.ok account)) : Session Error Caller) =
      if account.status = .inactive then .fail .inactiveAccount
      else return { account, tokenExpiresAt := expiresAt } := by
  rw [verdict.eq_def]
  dsimp only
  split <;> rfl

theorem eq_ok_of_verdict {expiresAt : Instant} {answer : Except Store.Error Account}
    {caller : Caller} (admitted : verdict expiresAt answer = .ok caller) :
    answer = .ok caller.account := by
  cases answer with
  | error error => cases admitted
  | ok account =>
      rw [verdict] at admitted
      split at admitted
      · cases admitted
      · cases admitted
        rfl

theorem asks_authenticate (codec : Codec) (metadata : Option Metadata) (now : Instant) :
    (authenticate codec metadata now).Asks Call.IsRead := by
  apply Dialogue.Asks.bind
  · exact Dialogue.asks_ofExcept _
  · intro claims
    apply Dialogue.Asks.bind
    · exact asks_request _ rfl
    · intro account
      split <;> trivial

section Runs

variable {State : Type} {responder : Dialogue.Responder Call.Answer State} {state : State}
  {codec : Codec} {metadata : Option Metadata} {now : Instant}

theorem run_authenticate_of_error {error : Error}
    (refused : verifiedClaims codec metadata now = .error error) :
    (authenticate codec metadata now).run responder state = (.error error, state) := by
  rw [authenticate, refused]
  rfl

theorem asked_authenticate_of_error {error : Error}
    (refused : verifiedClaims codec metadata now = .error error) :
    (authenticate codec metadata now).asked responder state = [] := by
  rw [authenticate, refused]
  rfl

theorem authenticate_of_ok {claims : Claims}
    (verified : verifiedClaims codec metadata now = .ok claims) :
    authenticate codec metadata now =
      .ask (.findById claims.subject) fun answer =>
        .ofExcept (verdict claims.expiresAt answer) := by
  rw [authenticate, verified]
  refine congrArg (Dialogue.ask (Call.findById claims.subject)) (funext fun answer => ?_)
  cases answer with
  | error error => rfl
  | ok account => exact (ofExcept_verdict claims.expiresAt account).symm

theorem run_authenticate_of_ok {claims : Claims}
    (verified : verifiedClaims codec metadata now = .ok claims) :
    (authenticate codec metadata now).run responder state =
      (verdict claims.expiresAt (responder (.findById claims.subject) state).1,
        (responder (.findById claims.subject) state).2) := by
  rw [authenticate_of_ok verified]
  exact Dialogue.run_ofExcept ..

theorem asked_authenticate_of_ok {claims : Claims}
    (verified : verifiedClaims codec metadata now = .ok claims) :
    (authenticate codec metadata now).asked responder state = [.findById claims.subject] := by
  rw [authenticate_of_ok verified]
  exact congrArg _ (Dialogue.asked_ofExcept ..)

theorem exists_claims_of_admitted {caller : Caller}
    (admitted : ((authenticate codec metadata now).run responder state).1 = .ok caller) :
    ∃ claims, verifiedClaims codec metadata now = .ok claims ∧
      (responder (.findById claims.subject) state).1 = .ok caller.account := by
  cases verified : verifiedClaims codec metadata now with
  | error error =>
      rw [run_authenticate_of_error verified] at admitted
      cases admitted
  | ok claims =>
      rw [run_authenticate_of_ok verified] at admitted
      exact ⟨claims, rfl, eq_ok_of_verdict admitted⟩

end Runs

theorem id_of_admitted {instant : Instant} {freshId : Account.Id} {memory : Memory}
    {codec : Codec} {metadata : Option Metadata} {now : Instant} {caller : Caller}
    (admitted : ((authenticate codec metadata now).run (Memory.respond instant freshId)
      memory).1 = .ok caller) :
    ∃ claims, verifiedClaims codec metadata now = .ok claims ∧
      caller.account.id = claims.subject := by
  rcases exists_claims_of_admitted admitted with ⟨claims, verified, found⟩
  exact ⟨claims, verified, Memory.id_of_find found⟩

theorem verifiedClaims_of_presents {insertions : Option (List (String × String))}
    {token : String} (presented : Presents insertions token) (codec : Codec) (now : Instant) :
    verifiedClaims codec (insertions.map Metadata.ofInsertions) now =
      (codec.verify token now).mapError Error.ofToken := by
  rw [verifiedClaims, bearerToken_of_presents presented]
  rfl

theorem verifiedClaims_of_error {insertions : Option (List (String × String))} {error : Error}
    (refused : bearerToken (insertions.map Metadata.ofInsertions) = .error error) (codec : Codec)
    (now : Instant) :
    verifiedClaims codec (insertions.map Metadata.ofInsertions) now = .error error := by
  rw [verifiedClaims, refused]
  rfl

theorem verifiedClaims_eq_ok_iff (insertions : Option (List (String × String))) (codec : Codec)
    (now : Instant) (claims : Claims) :
    verifiedClaims codec (insertions.map Metadata.ofInsertions) now = .ok claims ↔
      ∃ token, Presents insertions token ∧ codec.verify token now = .ok claims := by
  constructor
  · intro read
    cases carried : bearerToken (insertions.map Metadata.ofInsertions) with
    | error error =>
        rw [verifiedClaims_of_error carried] at read
        cases read
    | ok token =>
        have presented := (bearerToken_eq_ok_iff insertions token).mp carried
        rw [verifiedClaims_of_presents presented] at read
        refine ⟨token, presented, ?_⟩
        cases verified : codec.verify token now with
        | error reason =>
            rw [verified] at read
            cases read
        | ok found =>
            rw [verified] at read
            cases read
            rfl
  · rintro ⟨token, presented, verified⟩
    rw [verifiedClaims_of_presents presented, verified]
    rfl

theorem ofHiddenLookup_of_ne {error : Store.Error} (other : error ≠ .noRows) :
    Error.ofHiddenLookup error = .internal := by
  cases error with
  | noRows => exact absurd rfl other
  | _ => rfl

/-- The chain for a request whose metadata came about by insertions, if there are any. -/
def chain (codec : Codec) (insertions : Option (List (String × String))) (now : Instant) :
    Session Error Caller :=
  authenticate codec (insertions.map Metadata.ofInsertions) now

section Outcomes

variable {State : Type} (responder : Dialogue.Responder Call.Answer State) (state : State)
  {codec : Codec} {insertions : Option (List (String × String))} {now : Instant}

/-! How a run goes, by the stage where it ends. -/

theorem run_chain_of_refused {error : Error}
    (refused : bearerToken (insertions.map Metadata.ofInsertions) = .error error) :
    (chain codec insertions now).run responder state = (.error error, state) :=
  run_authenticate_of_error (verifiedClaims_of_error refused codec now)

theorem run_chain_of_unverified {token : String} {reason : VerifyError}
    (presented : Presents insertions token) (refused : codec.verify token now = .error reason) :
    (chain codec insertions now).run responder state = (.error (.ofToken reason), state) := by
  have read := verifiedClaims_of_presents presented codec now
  rw [refused] at read
  exact run_authenticate_of_error read

theorem run_chain_of_verified {token : String} {claims : Claims}
    (presented : Presents insertions token) (verified : codec.verify token now = .ok claims) :
    (chain codec insertions now).run responder state =
      (verdict claims.expiresAt (responder (.findById claims.subject) state).1,
        (responder (.findById claims.subject) state).2) :=
  run_authenticate_of_ok ((verifiedClaims_eq_ok_iff ..).mpr ⟨token, presented, verified⟩)

theorem asked_chain_of_verified {token : String} {claims : Claims}
    (presented : Presents insertions token) (verified : codec.verify token now = .ok claims) :
    (chain codec insertions now).asked responder state = [.findById claims.subject] :=
  asked_authenticate_of_ok ((verifiedClaims_eq_ok_iff ..).mpr ⟨token, presented, verified⟩)

theorem not_asked_chain
    (unverified : ∀ token claims, Presents insertions token → codec.verify token now ≠ .ok claims) :
    (chain codec insertions now).asked responder state = [] ∧
      ((chain codec insertions now).run responder state).2 = state := by
  rw [chain]
  cases read : verifiedClaims codec (insertions.map Metadata.ofInsertions) now with
  | error error =>
      rw [run_authenticate_of_error read, asked_authenticate_of_error read]
      exact ⟨rfl, rfl⟩
  | ok claims =>
      rcases (verifiedClaims_eq_ok_iff ..).mp read with ⟨token, presented, verified⟩
      exact absurd verified (unverified token claims presented)

theorem outcome_verdict {find : Account.Id → Except Store.Error Account} {token : String}
    {claims : Claims} (presented : Presents insertions token)
    (verified : codec.verify token now = .ok claims) :
    Outcome codec insertions now find (verdict claims.expiresAt (find claims.subject)) := by
  cases found : find claims.subject with
  | error error =>
      rw [verdict]
      by_cases missing : error = .noRows
      · subst missing
        exact .unknown token claims presented verified found
      · rw [ofHiddenLookup_of_ne missing]
        exact .broken token claims error presented verified found missing
  | ok account =>
      rw [verdict]
      by_cases inactive : account.status = .inactive
      · rw [if_pos inactive]
        exact .inactive token claims account presented verified found inactive
      · rw [if_neg inactive]
        exact .admitted token claims account presented verified found inactive

theorem outcome_run :
    Outcome codec insertions now (fun id => (responder (.findById id) state).1)
      ((chain codec insertions now).run responder state).1 := by
  cases insertions with
  | none =>
      rw [run_chain_of_refused _ _ rfl]
      exact .noMetadata rfl
  | some entries =>
      by_cases alone : ∃ value, Carries (some entries) value
      · rcases alone with ⟨value, carried⟩
        have read := bearerToken_of_carries carried
        rcases carries_cases carried with
          unspaced | ⟨scheme, token, carried, unspaced, other⟩ | ⟨token, presented⟩
        · rw [credential_of_not_mem unspaced] at read
          rw [run_chain_of_refused _ _ read]
          exact .malformed value carried unspaced
        · have read := bearerToken_of_carries carried
          rw [credential_append _ _ unspaced, bearerScheme, other] at read
          rw [run_chain_of_refused _ _ read]
          exact .otherScheme scheme token carried unspaced other
        · cases verified : codec.verify token now with
          | error reason =>
              rw [run_chain_of_unverified _ _ presented verified]
              cases reason with
              | invalid => exact .invalid token presented verified
              | expired => exact .expired token presented verified
          | ok claims =>
              rw [run_chain_of_verified _ _ presented verified]
              exact outcome_verdict presented verified
      · rw [run_chain_of_refused _ _ (bearerToken_of_not_carries entries alone)]
        exact .noHeader entries rfl alone

theorem Outcome.run_eq {result : Except Error Caller}
    (outcome : Outcome codec insertions now (fun id => (responder (.findById id) state).1) result) :
    ((chain codec insertions now).run responder state).1 = result := by
  cases outcome with
  | noMetadata absent =>
      subst absent
      rw [run_chain_of_refused _ _ rfl]
  | noHeader entries present alone =>
      subst present
      rw [run_chain_of_refused _ _ (bearerToken_of_not_carries entries alone)]
  | malformed value carried unspaced =>
      have refused := bearerToken_of_carries carried
      rw [credential_of_not_mem unspaced] at refused
      rw [run_chain_of_refused _ _ refused]
  | otherScheme scheme token carried unspaced other =>
      have refused := bearerToken_of_carries carried
      rw [credential_append _ _ unspaced, bearerScheme, other] at refused
      rw [run_chain_of_refused _ _ refused]
  | invalid token presented refused =>
      rw [run_chain_of_unverified _ _ presented refused]
      rfl
  | expired token presented refused =>
      rw [run_chain_of_unverified _ _ presented refused]
      rfl
  | unknown token claims presented verified missing =>
      rw [run_chain_of_verified _ _ presented verified]
      exact congrArg (verdict claims.expiresAt) missing
  | broken token claims error presented verified failed other =>
      rw [run_chain_of_verified _ _ presented verified, ← ofHiddenLookup_of_ne other]
      exact congrArg (verdict claims.expiresAt) failed
  | inactive token claims account presented verified found inactive =>
      rw [run_chain_of_verified _ _ presented verified]
      refine (congrArg (verdict claims.expiresAt) found).trans ?_
      rw [verdict, if_pos inactive]
  | admitted token claims account presented verified found active =>
      rw [run_chain_of_verified _ _ presented verified]
      refine (congrArg (verdict claims.expiresAt) found).trans ?_
      rw [verdict, if_neg active]

end Outcomes

/-- The chain in full: how it ends, what it asks of the store, and that it does not depend on the
account in the token. -/
theorem authenticates_by_first_failing_stage {State : Type}
    (responder : Dialogue.Responder Call.Answer State) (state : State) (codec : Codec)
    (insertions : Option (List (String × String))) (now : Instant) :
    (∀ result, ((chain codec insertions now).run responder state).1 = result ↔
        Outcome codec insertions now (fun id => (responder (.findById id) state).1) result) ∧
      (∀ token claims, Presents insertions token → codec.verify token now = .ok claims →
        (chain codec insertions now).asked responder state = [.findById claims.subject] ∧
          ((chain codec insertions now).run responder state).2 =
            (responder (.findById claims.subject) state).2) ∧
      ((∀ token claims, Presents insertions token → codec.verify token now ≠ .ok claims) →
        (chain codec insertions now).asked responder state = [] ∧
          ((chain codec insertions now).run responder state).2 = state) ∧
      ∀ other later token token' claims claims',
        Presents insertions token → codec.verify token now = .ok claims →
        Presents other token' → codec.verify token' later = .ok claims' →
        claims.subject = claims'.subject → claims.expiresAt = claims'.expiresAt →
          (chain codec insertions now).run responder state =
            (chain codec other later).run responder state := by
  refine ⟨?_, ?_, ?_, ?_⟩
  · intro result
    constructor
    · rintro rfl
      exact outcome_run responder state
    · exact Outcome.run_eq responder state
  · intro token claims presented verified
    rw [run_chain_of_verified _ _ presented verified]
    exact ⟨asked_chain_of_verified responder state presented verified, rfl⟩
  · exact not_asked_chain responder state
  · intro other later token token' claims claims' presented verified presented' verified' subject
      expiresAt
    rw [run_chain_of_verified _ _ presented verified,
      run_chain_of_verified _ _ presented' verified', subject, expiresAt]

end Turnstile.Auth
