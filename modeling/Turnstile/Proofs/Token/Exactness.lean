import Mathlib.Data.List.Basic
import Turnstile.Proofs.Token.Lifetime

/-!
Which texts are tokens. Verification finds anything but an invalid token in exactly those texts
that are put together as sealing puts them together, so a token has no second spelling: whoever
changes its header, its padding, its last letter, its footer or its tag, no longer has a token.
-/

namespace Turnstile.Token

open Turnstile.Crypto Turnstile.Text Turnstile.Time
open ChaCha20 (Nonce)

structure IsToken (key : Key) (nonce : Nonce) (encrypted tag : Bytes) (claims : Claims)
    (text : String) : Prop where
  spelled : text = spell (nonce.bytes ++ (encrypted ++ tag))
  genuine : tag = sealTag key.secret nonce (associated nonce.bytes) encrypted
  held : claims? (cipher key.secret nonce encrypted) = some claims

/-- The texts that are left when one part of a token is changed, or something is added. -/
inductive IsAltered (nonce : Nonce) (encrypted tag : Bytes) : String → Prop where
  | header (start : String) (other : start ≠ Token.header)
      (apart : ¬ Token.header.toList <+: start.toList ∨ start.toList.getLast? = some '.') :
      IsAltered nonce encrypted tag
        (start ++ String.ofList
          (Base64.encodeChars Base64.urlSafe (nonce.bytes ++ (encrypted ++ tag))))
  | padding (more : String) :
      IsAltered nonce encrypted tag (spell (nonce.bytes ++ (encrypted ++ tag)) ++ "=" ++ more)
  | footer (more : String) :
      IsAltered nonce encrypted tag (spell (nonce.bytes ++ (encrypted ++ tag)) ++ "." ++ more)
  | lastLetter (front : List Char) (last other : Char)
      (spelled : Base64.encodeChars Base64.urlSafe (nonce.bytes ++ (encrypted ++ tag)) =
        front ++ [last])
      (different : other ≠ last) :
      IsAltered nonce encrypted tag (Token.header ++ String.ofList (front ++ [other]))
  | tag (other : Bytes) (length : other.length = tag.length) (different : other ≠ tag) :
      IsAltered nonce encrypted tag (spell (nonce.bytes ++ (encrypted ++ other)))

section Tokens

variable {key : Key} {nonce : Nonce} {encrypted tag : Bytes} {claims : Claims} {text : String}

theorem IsToken.length_tag (token : IsToken key nonce encrypted tag claims text) :
    tag.length = tagLength := by
  rw [token.genuine, length_sealTag]

theorem IsToken.sealText_eq (token : IsToken key nonce encrypted tag claims text) :
    sealText key nonce (cipher key.secret nonce encrypted) = text := by
  rw [sealText_eq_spell, sealBytes, cipher_cipher, token.spelled, ← token.genuine]

theorem isToken_sealText {plain : Bytes} (key : Key) (nonce : Nonce)
    (held : claims? plain = some claims) :
    IsToken key nonce (cipher key.secret nonce plain)
      (sealTag key.secret nonce (associated nonce.bytes) (cipher key.secret nonce plain)) claims
      (sealText key nonce plain) where
  spelled := sealText_eq_spell key nonce plain
  genuine := rfl
  held := by rw [cipher_cipher, held]

theorem Codec.read?_eq_some_iff (codec : Codec) (text : String) (claims : Claims) :
    codec.read? text = some claims ↔
      ∃ nonce encrypted tag, IsToken codec.key nonce encrypted tag claims text := by
  rw [Codec.read?_eq, Option.bind_eq_some_iff]
  constructor
  · rintro ⟨plain, opened, held⟩
    rcases (openText?_eq_some_iff ..).mp opened with ⟨nonce, rfl⟩
    exact ⟨nonce, _, _, isToken_sealText codec.key nonce held⟩
  · rintro ⟨nonce, encrypted, tag, token⟩
    exact ⟨_, (openText?_eq_some_iff ..).mpr ⟨nonce, token.sealText_eq.symm⟩, token.held⟩

theorem IsToken.verify_eq (token : IsToken key nonce encrypted tag claims text)
    (application : String) (now : Instant) :
    Codec.verify ⟨key, application⟩ text now =
      if now < claims.expiresAt then .ok claims else .error .expired := by
  have read := (Codec.read?_eq_some_iff ⟨key, application⟩ text claims).mpr
    ⟨nonce, encrypted, tag, token⟩
  rw [Codec.verify_eq, read]

end Tokens

/-! ## What opens no more -/

theorem letters_not_mem (bytes : Bytes) {symbol : Char}
    (foreign : Base64.value? Base64.urlSafe symbol = none) :
    symbol ∉ Base64.encodeChars Base64.urlSafe bytes := by
  intro member
  have known := Base64.isSome_value?_of_mem
    (Base64.decodeChars?_encodeChars Base64.urlSafe_isFaithful bytes) symbol member
  rw [foreign] at known
  cases known

theorem openText?_eq_none {key : Key} {text : String}
    (unspelled : ∀ bytes, text ≠ spell bytes) : openText? key text = none := by
  rw [Option.eq_none_iff_forall_ne_some]
  intro plain opened
  rcases exists_eq_spell opened with ⟨bytes, same⟩
  exact unspelled bytes same

theorem append_ne_spell (bytes : Bytes) (symbol : Char) (more : String)
    (foreign : Base64.value? Base64.urlSafe symbol = none) (other : Bytes) :
    spell bytes ++ String.ofList [symbol] ++ more ≠ spell other := by
  intro same
  have letters := congrArg String.toList same
  simp only [String.toList_append, toList_spell, String.toList_ofList, List.append_assoc] at letters
  apply letters_not_mem other foreign
  rw [← List.append_cancel_left letters]
  simp

theorem dot_mem {front extra : List Char} (ends : (front ++ extra).getLast? = some '.')
    (filled : extra ≠ []) : '.' ∈ extra := by
  rw [List.getLast?_append_of_ne_nil _ filled] at ends
  exact List.mem_of_getLast? ends

/-- A header ends in a dot, and there is no other dot for a changed header to borrow. -/
theorem otherHeader_ne_spell (bytes : Bytes) (start : String) (different : start ≠ header)
    (apart : ¬ header.toList <+: start.toList ∨ start.toList.getLast? = some '.')
    (other : Bytes) :
    start ++ String.ofList (Base64.encodeChars Base64.urlSafe bytes) ≠ spell other := by
  have dot : Base64.value? Base64.urlSafe '.' = none := by decide
  intro same
  have letters := congrArg String.toList same
  rw [String.toList_append, String.toList_ofList, toList_spell] at letters
  -- One header is longer than the other by some letters that end in a dot.
  rcases List.append_eq_append_iff.mp letters with ⟨extra, headed, body⟩ | ⟨extra, headed, body⟩
  · have ends : header.toList.getLast? = some '.' := by decide
    have filled : extra ≠ [] := by
      rintro rfl
      rw [List.append_nil] at headed
      exact different (String.toList_inj.mp headed.symm)
    rw [headed] at ends
    apply letters_not_mem bytes dot
    rw [body]
    exact List.mem_append_left _ (dot_mem ends filled)
  · have filled : extra ≠ [] := by
      rintro rfl
      rw [List.append_nil] at headed
      exact different (String.toList_inj.mp headed)
    rcases apart with apart | ends
    · exact apart (headed ▸ List.prefix_append ..)
    · rw [headed] at ends
      apply letters_not_mem other dot
      rw [body]
      exact List.mem_append_left _ (dot_mem ends filled)

theorem openText?_otherTag (key : Key) (nonce : Nonce) (encrypted tag : Bytes)
    (length : tag.length = tagLength)
    (forged : tag ≠ sealTag key.secret nonce (associated nonce.bytes) encrypted) :
    openText? key (spell (nonce.bytes ++ (encrypted ++ tag))) = none := by
  rw [openText?_spell_append, openBytes?_append _ _ _ _ _ length, if_neg forged]

/-- The last letter holds nothing but bits of the last bytes, and bits that have to be clear. -/
theorem exists_otherEnd (before after : Bytes) (filled : after ≠ []) {front : List Char}
    {last other : Char}
    (spelled : Base64.encodeChars Base64.urlSafe (before ++ after) = front ++ [last])
    {changed : Bytes}
    (decoded : Base64.decodeChars? Base64.urlSafe (front ++ [other]) = some changed) :
    ∃ end', end'.length = after.length ∧ changed = before ++ end' := by
  have original := Base64.decodeChars?_encodeChars Base64.urlSafe_isFaithful (before ++ after)
  rw [spelled] at original
  rcases Base64.exists_kept Base64.urlSafe_isFaithful original decoded with
    ⟨kept, byte, byte', whole, rfl⟩
  rcases List.eq_nil_or_concat after with empty | ⟨start, final, rfl⟩
  · exact absurd empty filled
  · rw [List.concat_eq_append, ← List.append_assoc] at whole
    rcases List.append_inj' whole rfl with ⟨rfl, -⟩
    refine ⟨start ++ [byte'], ?_, List.append_assoc ..⟩
    simp

theorem openText?_otherLetter (key : Key) (nonce : Nonce) (encrypted tag : Bytes)
    (length : tag.length = tagLength)
    (genuine : tag = sealTag key.secret nonce (associated nonce.bytes) encrypted)
    {front : List Char} {last other : Char}
    (spelled : Base64.encodeChars Base64.urlSafe (nonce.bytes ++ (encrypted ++ tag)) =
      front ++ [last])
    (different : other ≠ last) :
    openText? key (header ++ String.ofList (front ++ [other])) = none := by
  rw [Option.eq_none_iff_forall_ne_some]
  intro plain opened
  rcases exists_eq_spell opened with ⟨changed, same⟩
  have written : front ++ [other] = Base64.encodeChars Base64.urlSafe changed := by
    have letters := congrArg String.toList same
    rw [String.toList_append, String.toList_ofList, toList_spell] at letters
    exact List.append_cancel_left letters
  have decoded := (Base64.decodeChars?_eq_some_iff Base64.urlSafe_isFaithful ..).mpr written
  have filled : tag ≠ [] := by
    rintro rfl
    cases length
  rw [← List.append_assoc] at spelled
  rcases exists_otherEnd _ tag filled spelled decoded with ⟨tag', length', rfl⟩
  -- The same tag would be spelled with the same last letter.
  have forged : tag' ≠ sealTag key.secret nonce (associated nonce.bytes) encrypted := by
    intro genuine'
    rw [genuine', ← genuine, spelled] at written
    exact different (by simpa using written)
  rw [same, List.append_assoc, openText?_otherTag _ _ _ _ (length'.trans length) forged] at opened
  cases opened

theorem IsToken.openText?_altered {key : Key} {nonce : Nonce} {encrypted tag : Bytes}
    {claims : Claims} {text altered : String} (token : IsToken key nonce encrypted tag claims text)
    (change : IsAltered nonce encrypted tag altered) : openText? key altered = none := by
  cases change with
  | header start other apart => exact openText?_eq_none (otherHeader_ne_spell _ start other apart)
  | padding more => exact openText?_eq_none (append_ne_spell _ '=' more (by decide))
  | footer more => exact openText?_eq_none (append_ne_spell _ '.' more (by decide))
  | lastLetter front last other spelled different =>
      exact openText?_otherLetter key nonce encrypted tag token.length_tag token.genuine spelled
        different
  | tag other length different =>
      exact openText?_otherTag key nonce encrypted other (length.trans token.length_tag)
        fun genuine => different (genuine.trans token.genuine.symm)

/-- Nothing but a token is anything but invalid, and a token is spelled as sealing spells it; so
there is one token for each key, nonce and payload, and what is made of it by a change is invalid,
expired or not. -/
theorem verifies_only_as_sealed (key : Key) (application : String) :
    (∀ text now, Codec.verify ⟨key, application⟩ text now ≠ .error .invalid ↔
        ∃ nonce encrypted tag claims, IsToken key nonce encrypted tag claims text) ∧
      (∀ nonce encrypted tag claims text, IsToken key nonce encrypted tag claims text →
        tag.length = tagLength ∧
        sealText key nonce (cipher key.secret nonce encrypted) = text ∧
        (∀ now, Codec.verify ⟨key, application⟩ text now =
          if now < claims.expiresAt then .ok claims else .error .expired) ∧
        ∀ altered, IsAltered nonce encrypted tag altered →
          ∀ now, Codec.verify ⟨key, application⟩ altered now = .error .invalid) ∧
      (∀ nonce plain claims, claims? plain = some claims →
        ∃! text, ∃ encrypted tag,
          cipher key.secret nonce encrypted = plain ∧
          IsToken key nonce encrypted tag claims text) ∧
      ∀ account lifetime now nonce text,
        Codec.issue ⟨key, application⟩ account lifetime now (some nonce) = .ok text →
          ∃ encrypted tag claims, IsToken key nonce encrypted tag claims text := by
  refine ⟨?_, ?_, ?_, ?_⟩
  · intro text now
    rw [Codec.verify_eq]
    constructor
    · intro valid
      cases read : Codec.read? ⟨key, application⟩ text with
      | none => simp [read] at valid
      | some claims =>
          rcases (Codec.read?_eq_some_iff ..).mp read with ⟨nonce, encrypted, tag, token⟩
          exact ⟨nonce, encrypted, tag, claims, token⟩
    · rintro ⟨nonce, encrypted, tag, claims, token⟩
      rw [← Codec.verify_eq, token.verify_eq]
      split <;> simp
  · intro nonce encrypted tag claims text token
    refine ⟨token.length_tag, token.sealText_eq, token.verify_eq application, ?_⟩
    intro altered change now
    rw [Codec.verify_eq, Codec.read?_eq, token.openText?_altered change, Option.bind_none]
  · intro nonce plain claims held
    refine ⟨_, ⟨_, _, cipher_cipher .., isToken_sealText key nonce held⟩, ?_⟩
    rintro text ⟨encrypted, tag, rfl, token⟩
    exact token.sealText_eq.symm
  · intro account lifetime now nonce text issued
    cases added : now.add? lifetime with
    | none =>
        rw [Codec.issue_of_add?_eq_none _ account _ added] at issued
        cases issued
    | some expiresAt =>
        rw [Codec.issue_of_add? _ account nonce added] at issued
        cases issued
        exact ⟨_, _, _, isToken_sealText key nonce (claims?_payload _)⟩

end Turnstile.Token
