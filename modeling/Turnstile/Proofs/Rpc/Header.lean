import Turnstile.Proofs.Auth.Bearer
import Turnstile.Proofs.Text.Utf8
import Turnstile.Proofs.Token.Opening
import Turnstile.Rpc.Client

/-!
Which headers decide about the bearer token. A field whose value is not plain text never becomes
metadata and is counted nowhere, so the token is that of the only readable `authorization` field,
whatever unreadable fields of that name come with it. Tokens are readable, and one that a client
sends is the one that is presented.
-/

namespace Turnstile

namespace Rpc

open Text Auth

namespace Header

def isAuthorization (header : Header) : Bool :=
  sameIgnoringCase header.name authorizationName

def text? (header : Header) : Option String :=
  asciiText? header.value

def isReadable (header : Header) : Bool :=
  header.text?.isSome

theorem isBinaryName_of_isAuthorization {header : Header} (named : header.isAuthorization = true) :
    isBinaryName header.name = false := by
  have lowered : asciiLowerText header.name = asciiLowerText authorizationName := by
    simpa only [isAuthorization, sameIgnoringCase, beq_iff_eq] using named
  rw [isBinaryName, lowered]
  rfl

theorem entry?_of_isAuthorization {header : Header} (named : header.isAuthorization = true) :
    header.entry? = header.text?.map fun value => (header.name, value) := by
  unfold entry?
  rw [if_neg (by simp [isBinaryName_of_isAuthorization named]), text?]

theorem fst_of_copied {header : Header} {entry : String × String}
    (copied : entry ∈ header.entry?) : entry.1 = header.name := by
  unfold entry? at copied
  split at copied
  · cases copied
  · rcases Option.map_eq_some_iff.mp copied with ⟨value, -, rfl⟩
    rfl

end Header

def authorizations (headers : List Header) : List Header :=
  headers.filter Header.isAuthorization

def readableAuthorizations (headers : List Header) : List Header :=
  (authorizations headers).filter Header.isReadable

/-- What the headers of a request present as its token. -/
def presentedToken (headers : List Header) : Except Auth.Error String :=
  bearerToken (some (metadataOfHeaders headers))

theorem values_metadataOfHeaders (headers : List Header) :
    (metadataOfHeaders headers).values authorizationName =
      (authorizations headers).filterMap Header.text? := by
  rw [metadataOfHeaders, ← Metadata.ofInsertions_eq_ofList, Metadata.values_ofInsertions]
  induction headers with
  | nil => rfl
  | cons header headers hypothesis =>
      rw [authorizations] at hypothesis ⊢
      rw [List.filterMap_cons, List.filter_cons]
      cases named : header.isAuthorization with
      | true =>
          rw [Header.entry?_of_isAuthorization named, if_pos rfl, List.filterMap_cons]
          cases text : header.text? with
          | none => exact hypothesis
          | some value =>
              have kept : sameIgnoringCase header.name authorizationName = true := named
              simp only [Option.map_some, List.filter_cons, kept, if_true, List.map_cons,
                hypothesis]
      | false =>
          rw [if_neg Bool.false_ne_true]
          cases copied : header.entry? with
          | none => exact hypothesis
          | some entry =>
              have other : sameIgnoringCase entry.1 authorizationName = false := by
                rw [Header.fst_of_copied copied]
                exact named
              simp only
              rw [List.filter_cons_of_neg (by simp [other]), hypothesis]

theorem values_eq_of_readable (headers : List Header) :
    ((metadataOfHeaders headers).values authorizationName).map some =
      (readableAuthorizations headers).map Header.text? := by
  rw [values_metadataOfHeaders, readableAuthorizations]
  induction authorizations headers with
  | nil => rfl
  | cons field fields hypothesis =>
      cases text : field.text? with
      | none =>
          rw [List.filterMap_cons_none text,
            List.filter_cons_of_neg (by simp [Header.isReadable, text]), hypothesis]
      | some value =>
          rw [List.filterMap_cons_some text,
            List.filter_cons_of_pos (by simp [Header.isReadable, text]), List.map_cons,
            List.map_cons, hypothesis, text]

theorem presentedToken_of_readable {headers : List Header} {field : Header}
    (only : readableAuthorizations headers = [field]) :
    ∃ value, field.text? = some value ∧ presentedToken headers = credential value := by
  have counted := values_eq_of_readable headers
  rw [only, List.map_singleton, List.map_eq_singleton_iff] at counted
  rcases counted with ⟨value, values, text⟩
  refine ⟨value, text.symm, ?_⟩
  rw [presentedToken, bearerToken, values]

theorem presentedToken_of_length_ne {headers : List Header}
    (many : (readableAuthorizations headers).length ≠ 1) :
    presentedToken headers = .error .missingAuthHeader := by
  have counted := congrArg List.length (values_eq_of_readable headers)
  rw [List.length_map, List.length_map] at counted
  rw [presentedToken, bearerToken]
  split
  · rename_i value values
    rw [values] at counted
    exact absurd counted.symm many
  · rfl

/-! A token is spelled with letters that may stand in a header, so it comes through. -/

def isHeaderLetter (letter : Char) : Bool :=
  letter == '\t' || (' ' ≤ letter && letter ≤ '~')

def isHeaderText (text : String) : Bool :=
  text.toList.all isHeaderLetter

theorem ascii_of_isHeaderLetter {letter : Char} (visible : isHeaderLetter letter = true) :
    letter.toNat < 128 := by
  simp only [isHeaderLetter, Bool.or_eq_true, beq_iff_eq, Bool.and_eq_true,
    decide_eq_true_eq] at visible
  rcases visible with rfl | ⟨-, greatest⟩
  · decide
  · have bound : letter.toNat ≤ '~'.toNat := greatest
    exact Nat.lt_of_le_of_lt bound (by decide)

theorem isHeaderByte_of_ascii {letter : Char} (ascii : letter.toNat < 128) :
    isHeaderByte (UInt8.ofNat letter.toNat) = isHeaderLetter letter := by
  have codes : ∀ code < 128,
      isHeaderByte (UInt8.ofNat code) = isHeaderLetter (Char.ofNat code) := by decide
  rw [codes letter.toNat ascii, Char.ofNat_toNat]

theorem isHeaderByte_lt {byte : UInt8} (legal : isHeaderByte byte = true) : byte < 0x80 := by
  simp only [isHeaderByte, Bool.or_eq_true, beq_iff_eq, Bool.and_eq_true,
    decide_eq_true_eq] at legal
  rcases legal with rfl | ⟨-, greatest⟩
  · decide
  · exact UInt8.lt_of_le_of_lt greatest (by decide)

theorem all_isHeaderByte_encode (text : String) :
    (Utf8.encode text).all isHeaderByte = isHeaderText text := by
  rw [isHeaderText]
  by_cases ascii : ∀ letter ∈ text.toList, letter.toNat < 128
  · have bytes := Utf8.encode_of_ascii ascii
    rw [String.ofList_toList] at bytes
    rw [bytes, List.all_map, Bool.eq_iff_iff, List.all_eq_true, List.all_eq_true]
    refine forall₂_congr fun letter member => ?_
    rw [Function.comp_apply, isHeaderByte_of_ascii (ascii letter member)]
  · rw [Bool.eq_iff_iff, List.all_eq_true, List.all_eq_true]
    refine iff_of_false ?_ ?_
    · intro legal
      apply ascii
      refine Utf8.ascii_of_encode fun byte member => isHeaderByte_lt (legal byte ?_)
      rwa [String.ofList_toList] at member
    · exact fun visible => ascii fun letter member =>
        ascii_of_isHeaderLetter (visible letter member)

theorem asciiText?_encode (text : String) :
    Header.asciiText? (Utf8.encode text) = if isHeaderText text then some text else none := by
  rw [Header.asciiText?, all_isHeaderByte_encode]
  split
  · rename_i visible
    have ascii : ∀ letter ∈ text.toList, letter.toNat < 128 := fun letter member =>
      ascii_of_isHeaderLetter (List.all_eq_true.mp visible letter member)
    have bytes := Utf8.encode_of_ascii ascii
    rw [String.ofList_toList] at bytes
    rw [bytes, List.map_map]
    have back : text.toList.map
        ((fun byte : UInt8 => Char.ofNat byte.toNat) ∘ fun letter => UInt8.ofNat letter.toNat) =
        text.toList := by
      refine (List.map_congr_left ?_).trans (List.map_id _)
      intro letter member
      have small : letter.toNat < 2 ^ 8 := Nat.lt_trans (ascii letter member) (by decide)
      rw [Function.comp_apply, UInt8.toNat_ofNat_of_lt' small, Char.ofNat_toNat]
      rfl
    rw [back, String.ofList_toList]
  · rfl

def IsPlain (letters : List Char) : Prop :=
  ∀ letter ∈ letters, 0x20 ≤ letter.toNat ∧ letter.toNat ≤ 0x7e

theorem isHeaderText_of_isPlain {text : String} (plain : IsPlain text.toList) :
    isHeaderText text = true := by
  rw [isHeaderText, List.all_eq_true]
  intro letter member
  rcases plain letter member with ⟨least, greatest⟩
  have blank : ' ' ≤ letter := least
  have tilde : letter ≤ '~' := greatest
  simp [isHeaderLetter, blank, tilde]

theorem isPlain_of_value? {letter : Char}
    (known : (Base64.value? Base64.urlSafe letter).isSome = true) :
    0x20 ≤ letter.toNat ∧ letter.toNat ≤ 0x7e := by
  have within : ∀ {first last : Char}, first ≤ letter ∧ letter ≤ last →
      0x20 ≤ first.toNat → last.toNat ≤ 0x7e → 0x20 ≤ letter.toNat ∧ letter.toNat ≤ 0x7e :=
    fun between least greatest =>
      ⟨Nat.le_trans least between.left, Nat.le_trans between.right greatest⟩
  rw [Base64.value?] at known
  split at known
  · rename_i upper
    exact within upper (by decide) (by decide)
  · split at known
    · rename_i lower
      exact within lower (by decide) (by decide)
    · split at known
      · rename_i digit
        exact within digit (by decide) (by decide)
      · split at known
        · rename_i dash
          rw [dash]
          decide
        · split at known
          · rename_i underscore
            rw [underscore]
            decide
          · cases known

theorem isPlain_bearer_spell (bytes : Bytes) :
    IsPlain (Token.bearer (Token.spell bytes)).toList := by
  intro letter member
  rw [Token.bearer, String.toList_append, Token.toList_spell, ← List.append_assoc,
    List.mem_append] at member
  have plain : ("bearer ".toList ++ Token.header.toList).all
      (fun letter => 0x20 ≤ letter.toNat ∧ letter.toNat ≤ 0x7e) = true := rfl
  rcases member with fixed | body
  · exact of_decide_eq_true (List.all_eq_true.mp plain letter fixed)
  · apply isPlain_of_value?
    exact Base64.isSome_value?_of_mem
      (Base64.decodeChars?_encodeChars Base64.urlSafe_isFaithful bytes) letter body

def bearing (token : String) : List Header :=
  [⟨authorizationName, Utf8.encode (Token.bearer token)⟩]

theorem presentedToken_bearing (bytes : Bytes) :
    presentedToken (bearing (Token.spell bytes)) = .ok (Token.spell bytes) := by
  have text := asciiText?_encode (Token.bearer (Token.spell bytes))
  rw [if_pos (isHeaderText_of_isPlain (isPlain_bearer_spell bytes))] at text
  have named : Header.isAuthorization
      ⟨authorizationName, Utf8.encode (Token.bearer (Token.spell bytes))⟩ = true :=
    beq_self_eq_true (asciiLowerText authorizationName)
  have readable : Header.isReadable
      ⟨authorizationName, Utf8.encode (Token.bearer (Token.spell bytes))⟩ = true := by
    rw [Header.isReadable, Header.text?, text]
    rfl
  have only : readableAuthorizations (bearing (Token.spell bytes)) =
      bearing (Token.spell bytes) := by
    rw [readableAuthorizations, authorizations, bearing, List.filter_cons_of_pos named,
      List.filter_nil, List.filter_cons_of_pos readable, List.filter_nil]
  rcases presentedToken_of_readable only with ⟨value, there, presented⟩
  cases text.symm.trans there
  exact presented.trans (credential_append "bearer" (Token.spell bytes) (by decide))

theorem verifiedClaims_of_presented (codec : Token.Codec) (nonce : Crypto.ChaCha20.Nonce)
    {claims : Token.Claims} {now : Time.Instant} (early : now < claims.expiresAt)
    {headers : List Header}
    (presented : presentedToken headers =
      .ok (Token.sealText codec.key nonce (Token.payload claims))) :
    verifiedClaims codec (some (metadataOfHeaders headers)) now = .ok claims := by
  have verified := codec.verify_eq (Token.sealText codec.key nonce (Token.payload claims)) now
  rw [codec.read?_sealText nonce claims] at verified
  dsimp only at verified
  rw [if_pos early] at verified
  rw [presentedToken] at presented
  rw [verifiedClaims, presented]
  exact congrArg (Except.mapError Auth.Error.ofToken) verified

theorem verifiedClaims_bearing (codec : Token.Codec) (nonce : Crypto.ChaCha20.Nonce)
    {claims : Token.Claims} {now : Time.Instant} (early : now < claims.expiresAt) :
    verifiedClaims codec
      (some (metadataOfHeaders
        (bearing (Token.sealText codec.key nonce (Token.payload claims))))) now = .ok claims :=
  verifiedClaims_of_presented codec nonce early (presentedToken_bearing _)

theorem credential_ne_missing (value : String) : credential value ≠ .error .missingAuthHeader := by
  rw [credential]
  split
  · simp
  · split <;> simp

/-- A token is presented with one of the fields only, and with more or fewer none is found. -/
structure DecidedByOne (fields headers : List Header) : Prop where
  alone : ∀ token, presentedToken headers = .ok token → fields.length = 1
  missing : fields.length ≠ 1 → presentedToken headers = .error .missingAuthHeader

theorem decidedByOne_of_missing {headers : List Header}
    (missing : presentedToken headers = .error .missingAuthHeader) (fields : List Header) :
    DecidedByOne fields headers where
  alone token presented := by
    rw [missing] at presented
    cases presented
  missing _ := missing

theorem decidedByOne_of_length_eq {fields : List Header} (single : fields.length = 1)
    (headers : List Header) : DecidedByOne fields headers where
  alone _ _ := single
  missing many := absurd single many

theorem decidedByOne_readable (headers : List Header) :
    DecidedByOne (readableAuthorizations headers) headers := by
  by_cases single : (readableAuthorizations headers).length = 1
  · exact decidedByOne_of_length_eq single headers
  · exact decidedByOne_of_missing (presentedToken_of_length_ne single) _

theorem decidedByOne_authorizations_iff (headers : List Header) :
    DecidedByOne (authorizations headers) headers ↔
      ((readableAuthorizations headers).length = 1 → (authorizations headers).length = 1) := by
  constructor
  · intro decided single
    by_contra many
    rcases List.length_eq_one_iff.mp single with ⟨field, only⟩
    rcases presentedToken_of_readable only with ⟨value, -, presented⟩
    rw [decided.missing many] at presented
    exact credential_ne_missing value presented.symm
  · intro together
    by_cases single : (readableAuthorizations headers).length = 1
    · exact decidedByOne_of_length_eq (together single) headers
    · exact decidedByOne_of_missing (presentedToken_of_length_ne single) _

theorem presentedToken_eq_ok_iff (headers : List Header) (token : String) :
    presentedToken headers = .ok token ↔ ∃ field value,
      readableAuthorizations headers = [field] ∧ field.text? = some value ∧
        credential value = .ok token := by
  constructor
  · intro presented
    have single := (decidedByOne_readable headers).alone token presented
    rcases List.length_eq_one_iff.mp single with ⟨field, only⟩
    rcases presentedToken_of_readable only with ⟨value, text, same⟩
    exact ⟨field, value, only, text, same ▸ presented⟩
  · rintro ⟨field, value, only, text, credited⟩
    rcases presentedToken_of_readable only with ⟨other, there, presented⟩
    cases text.symm.trans there
    exact presented.trans credited

/-- The readable `authorization` fields decide: a token is that of the only one, with none or
several the header is missing, and unreadable fields are not counted. -/
theorem token_of_only_readable_field (headers : List Header) :
    DecidedByOne (readableAuthorizations headers) headers ∧
      (∀ token, presentedToken headers = .ok token ↔ ∃ field value,
        readableAuthorizations headers = [field] ∧ field.text? = some value ∧
          credential value = .ok token) ∧
      (DecidedByOne (authorizations headers) headers ↔
        ((readableAuthorizations headers).length = 1 → (authorizations headers).length = 1)) :=
  ⟨decidedByOne_readable headers, presentedToken_eq_ok_iff headers,
    decidedByOne_authorizations_iff headers⟩

def doubled : List Header :=
  [.of "Authorization" [0x62, 0x65, 0x61, 0x72, 0x65, 0x72, 0x20, 0x74],
    .of "authorization" [0xff]]

/-- Of two fields one is counted, and its token is taken. -/
theorem doubled_presents_token :
    (authorizations doubled).length = 2 ∧ presentedToken doubled = .ok "t" ∧
      ¬ DecidedByOne (authorizations doubled) doubled := by
  have presented : presentedToken doubled = .ok "t" := by rfl
  refine ⟨by decide, presented, ?_⟩
  intro decided
  have single := decided.alone "t" presented
  revert single
  decide

end Rpc

end Turnstile
