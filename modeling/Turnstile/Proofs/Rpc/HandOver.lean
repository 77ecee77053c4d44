import Turnstile.Proofs.Rpc.Concurrency
import Turnstile.Proofs.Token.Lifetime

/-!
A token on its way from the client to the gate. The client sends every text without control codes,
and the gate reads only what is ASCII besides, so a token that is sent is presented exactly if it
has no letters beyond ASCII. Issued tokens have none: each of them is sent, presented, and opens the
gate until it expires.
-/

namespace Turnstile.Rpc

open Turnstile.Auth Turnstile.Store Turnstile.Text Turnstile.Time Turnstile.Token

/-! ## What the client sends -/

theorem isLegalByte_of_isHeaderByte {byte : UInt8} (readable : isHeaderByte byte = true) :
    Header.isLegalByte byte = true := by
  simp only [isHeaderByte, Bool.or_eq_true, beq_iff_eq, Bool.and_eq_true,
    decide_eq_true_eq] at readable
  rcases readable with rfl | ⟨least, greatest⟩
  · rfl
  · have different : byte ≠ 0x7f := by
      rintro rfl
      exact absurd greatest (by decide)
    simp [Header.isLegalByte, least, different]

theorem isHeaderByte_of_isLegalByte {byte : UInt8} (legal : Header.isLegalByte byte = true)
    (ascii : byte < 0x80) : isHeaderByte byte = true := by
  simp only [Header.isLegalByte, Bool.or_eq_true, beq_iff_eq, Bool.and_eq_true,
    decide_eq_true_eq, bne_iff_ne] at legal
  simp only [isHeaderByte, Bool.or_eq_true, beq_iff_eq, Bool.and_eq_true, decide_eq_true_eq]
  rcases legal with tab | ⟨least, different⟩
  · exact .inl tab
  · refine .inr ⟨least, ?_⟩
    rw [UInt8.lt_iff_toNat_lt] at ascii
    rw [UInt8.le_iff_toNat_le]
    have apart : byte.toNat ≠ 127 := fun same => different (UInt8.toNat_inj.mp same)
    exact Nat.le_of_lt_succ (Nat.lt_of_le_of_ne (Nat.le_of_lt_succ ascii) apart)

theorem isHeaderText_scheme : isHeaderText "bearer " = true := by decide

theorem isHeaderText_bearer (token : String) :
    isHeaderText (bearer token) = isHeaderText token := by
  have scheme := isHeaderText_scheme
  rw [isHeaderText] at scheme
  rw [isHeaderText, bearer, String.toList_append, List.all_append, scheme, Bool.true_and,
    isHeaderText]

theorem isHeaderText_spell (bytes : Bytes) : isHeaderText (spell bytes) = true := by
  rw [← isHeaderText_bearer]
  exact isHeaderText_of_isPlain (isPlain_bearer_spell bytes)

namespace Authorization

theorem value_of_ofToken {token : String} {authorization : Authorization}
    (accepted : ofToken token = .ok authorization) :
    authorization.value = Utf8.encode (bearer token) := by
  rw [ofToken] at accepted
  split at accepted
  · cases accepted
    rfl
  · cases accepted

theorem legal_of_ofToken {token : String} {authorization : Authorization}
    (accepted : ofToken token = .ok authorization) :
    ∀ byte ∈ Utf8.encode (bearer token), Header.isLegalByte byte = true := by
  rw [ofToken] at accepted
  split at accepted
  · rename_i legal
    exact List.all_eq_true.mp legal
  · cases accepted

theorem ofToken_of_isHeaderText {token : String} (readable : isHeaderText token = true) :
    ofToken token = .ok ⟨Utf8.encode (bearer token)⟩ := by
  rw [← isHeaderText_bearer, ← all_isHeaderByte_encode, List.all_eq_true] at readable
  have legal : (Utf8.encode (bearer token)).all Header.isLegalByte = true :=
    List.all_eq_true.mpr fun byte member => isLegalByte_of_isHeaderByte (readable byte member)
  rw [ofToken, if_pos legal]

theorem isHeaderText_iff_of_ofToken {token : String} {authorization : Authorization}
    (accepted : ofToken token = .ok authorization) :
    isHeaderText token = true ↔ ∀ letter ∈ token.toList, letter.toNat < 128 := by
  constructor
  · intro readable letter member
    exact ascii_of_isHeaderLetter (List.all_eq_true.mp readable letter member)
  · intro ascii
    have letters : ∀ letter ∈ (bearer token).toList, letter.toNat < 128 := by
      intro letter member
      rw [bearer, String.toList_append, List.mem_append] at member
      rcases member with scheme | rest
      · exact ascii_of_isHeaderLetter
          (List.all_eq_true.mp isHeaderText_scheme letter scheme)
      · exact ascii letter rest
    have bytes := Utf8.encode_of_ascii letters
    rw [String.ofList_toList] at bytes
    rw [← isHeaderText_bearer, ← all_isHeaderByte_encode, List.all_eq_true]
    intro byte member
    apply isHeaderByte_of_isLegalByte (legal_of_ofToken accepted byte member)
    rw [bytes] at member
    rcases List.mem_map.mp member with ⟨letter, inside, rfl⟩
    rw [UInt8.lt_iff_toNat_lt,
      UInt8.toNat_ofNat_of_lt' (Nat.lt_trans (letters letter inside) (by decide))]
    exact letters letter inside

theorem isAuthorization_header (authorization : Authorization) :
    Header.isAuthorization ⟨authorizationName, authorization.value⟩ = true :=
  beq_self_eq_true (asciiLowerText authorizationName)

theorem authorizations_attach (authorization : Authorization) (headers : List Header) :
    authorizations (authorization.attach headers) = [⟨authorizationName, authorization.value⟩] := by
  have none : authorizations
      (headers.filter fun header => !sameIgnoringCase header.name authorizationName) = [] := by
    rw [authorizations, List.filter_eq_nil_iff]
    intro header member named
    have other := (List.mem_filter.mp member).right
    rw [Header.isAuthorization] at named
    simp [named] at other
  rw [authorizations] at none
  rw [attach, authorizations, List.filter_append, none, List.nil_append,
    List.filter_cons_of_pos authorization.isAuthorization_header, List.filter_nil]

theorem others_attach (authorization : Authorization) (headers : List Header) :
    (authorization.attach headers).filter (!Header.isAuthorization ·) =
      headers.filter (!Header.isAuthorization ·) := by
  have replaced : (!Header.isAuthorization ⟨authorizationName, authorization.value⟩) = false := by
    rw [authorization.isAuthorization_header]
    rfl
  rw [attach, List.filter_append, List.filter_filter,
    List.filter_cons_of_neg (by simp [replaced]), List.filter_nil, List.append_nil]
  simp only [Header.isAuthorization, Bool.and_self]

end Authorization

/-! ## What the gate makes of it -/

theorem presentedToken_attach {token : String} {authorization : Authorization}
    (accepted : Authorization.ofToken token = .ok authorization) (headers : List Header) :
    presentedToken (authorization.attach headers) =
      if isHeaderText token then .ok token else .error .missingAuthHeader := by
  have text : Header.text? ⟨authorizationName, authorization.value⟩ =
      if isHeaderText token then some (bearer token) else none := by
    rw [Header.text?, Authorization.value_of_ofToken accepted, asciiText?_encode,
      isHeaderText_bearer]
  have values := values_metadataOfHeaders (authorization.attach headers)
  rw [authorization.authorizations_attach, List.filterMap_cons, List.filterMap_nil, text] at values
  rw [presentedToken, bearerToken, values]
  cases isHeaderText token with
  | true => exact credential_append "bearer" token (by decide)
  | false => rfl

/-- A token that the client has accepted, on a request that had some headers before. -/
structure HandsOver (token : String) (authorization : Authorization) (headers : List Header) :
    Prop where
  single : authorizations (authorization.attach headers) =
    [⟨authorizationName, authorization.value⟩]
  others : (authorization.attach headers).filter (!Header.isAuthorization ·) =
    headers.filter (!Header.isAuthorization ·)
  presented : presentedToken (authorization.attach headers) =
    if isHeaderText token then .ok token else .error .missingAuthHeader
  readable : isHeaderText token = true ↔ ∀ letter ∈ token.toList, letter.toNat < 128

/-- The account is let pass wherever a token is required, until the token expires. -/
def Opens (issuer : Issuer) (id : Account.Id) (expiresAt : Instant)
    (authorization : Authorization) : Prop :=
  ∀ {State : Type} (responder : Dialogue.Responder Call.Answer State) (state after : State)
    (path : String) (moment : Moment) (headers : List Header) (current : Account),
    policies.policyOfPath path = .requiresAuth → moment.now < expiresAt →
    responder (.findById id) state = (.ok current, after) → current.status ≠ .inactive →
      (gate issuer moment path (authorization.attach headers)).run responder state =
        (.ok (some { account := current, tokenExpiresAt := expiresAt }), after)

theorem opens_of_verified {issuer : Issuer} (claims : Claims) {authorization : Authorization}
    (verified : ∀ (now : Instant) (headers : List Header), now < claims.expiresAt →
      verifiedClaims issuer.codec (some (metadataOfHeaders (authorization.attach headers))) now =
        .ok claims) :
    Opens issuer claims.subject claims.expiresAt authorization := by
  intro State responder state after path moment headers current required early found active
  have passed : verdict claims.expiresAt (.ok current) =
      .ok { account := current, tokenExpiresAt := claims.expiresAt } := if_neg active
  have admitted : (authenticate issuer.codec
      (some (metadataOfHeaders (authorization.attach headers))) moment.now).run responder state =
      (.ok { account := current, tokenExpiresAt := claims.expiresAt }, after) := by
    rw [run_authenticate_of_ok (verified moment.now headers early), found]
    exact Prod.ext passed rfl
  rw [gate, required, identify, Dialogue.run_map, admitted]
  rfl

theorem opens_of_issued {issuer : Issuer} {application : String} {account : Account}
    {lifetime : Duration} {now : Instant} {nonce : Option Crypto.ChaCha20.Nonce} {token : String}
    (issued : Codec.issue ⟨issuer.codec.key, application⟩ account lifetime now nonce = .ok token) :
    isHeaderText token = true ∧ ∃ authorization expiresAt,
      Authorization.ofToken token = .ok authorization ∧ now.add? lifetime = some expiresAt ∧
        Opens issuer account.id expiresAt authorization := by
  cases added : now.add? lifetime with
  | none =>
      rw [Codec.issue_of_add?_eq_none _ _ _ added] at issued
      cases issued
  | some expiresAt =>
      cases nonce with
      | none =>
          rw [Codec.issue, Claims.issue_eq, added] at issued
          cases issued
      | some nonce =>
          rw [Codec.issue_of_add? _ _ _ added] at issued
          cases issued
          have readable : isHeaderText (sealText issuer.codec.key nonce
              (payload (Claims.of application account now expiresAt))) = true :=
            isHeaderText_spell _
          have accepted := Authorization.ofToken_of_isHeaderText readable
          refine ⟨readable, _, expiresAt, accepted, rfl, ?_⟩
          apply opens_of_verified (Claims.of application account now expiresAt)
          intro instant headers early
          apply verifiedClaims_of_presented issuer.codec nonce early
          rw [presentedToken_attach accepted, if_pos readable]

/-- What the client accepts it sends as the only authorization, beside all other headers, and it is
presented as it is unless it has letters that the gate skips; issued tokens have none, and open the
gate. -/
theorem accepted_tokens_are_handed_over :
    (∀ token authorization headers, Authorization.ofToken token = .ok authorization →
      HandsOver token authorization headers) ∧
    ∀ (issuer : Issuer) application account lifetime now nonce token,
      Codec.issue ⟨issuer.codec.key, application⟩ account lifetime now nonce = .ok token →
        isHeaderText token = true ∧ ∃ authorization expiresAt,
          Authorization.ofToken token = .ok authorization ∧ now.add? lifetime = some expiresAt ∧
            Opens issuer account.id expiresAt authorization := by
  constructor
  · intro token authorization headers accepted
    exact
      { single := authorization.authorizations_attach headers
        others := authorization.others_attach headers
        presented := presentedToken_attach accepted headers
        readable := Authorization.isHeaderText_iff_of_ofToken accepted }
  · intro issuer application account lifetime now nonce token issued
    exact opens_of_issued issued

theorem ada_token_is_handed_over :
    ∃ token, Codec.issue ⟨bridge.codec.key, "bridge"⟩ ada bridge.lifetime .epoch (some adaNonce) =
        .ok token ∧
      isHeaderText token = true ∧ ∃ authorization expiresAt,
        Authorization.ofToken token = .ok authorization ∧
          Instant.epoch.add? bridge.lifetime = some expiresAt ∧
            Opens bridge ada.id expiresAt authorization := by
  have added : Instant.epoch.add? bridge.lifetime = some ⟨3600, 0, by decide⟩ := by decide +kernel
  have issued := Codec.issue_of_add? ⟨bridge.codec.key, "bridge"⟩ ada adaNonce added
  exact ⟨_, issued, accepted_tokens_are_handed_over.right bridge "bridge" ada bridge.lifetime .epoch
    (some adaNonce) _ issued⟩

/-- A letter beyond ASCII may be sent and is not read. -/
theorem accented_token_is_not_handed_over :
    ∃ authorization, Authorization.ofToken "é" = .ok authorization ∧
      presentedToken (authorization.attach []) = .error .missingAuthHeader := by
  have accepted : Authorization.ofToken "é" = .ok ⟨Utf8.encode (bearer "é")⟩ := by decide +kernel
  refine ⟨_, accepted, ?_⟩
  rw [presentedToken_attach accepted]
  rfl

end Turnstile.Rpc
