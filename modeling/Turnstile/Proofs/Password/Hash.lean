import Turnstile.Password.Hash
import Turnstile.Proofs.Crypto.Argon2
import Turnstile.Proofs.Password.Spelling

/-!
Comparing with a hash that was made here comes down to comparing digests. The text of the hash
reads back, what is read is a recipe with the parameters and the salt that the hash was made with,
and so the comparison makes the digest of the other password in the same way. With a text that is
no hash there is nothing to compare.
-/

namespace Turnstile.Password

open Turnstile.Crypto Turnstile.Text

theorem length_digest (parameters : Argon2.Parameters) (salt : Bytes) (plaintext : String) :
    (digest parameters salt plaintext).length = parameters.size :=
  Argon2.length_hash ..

def namedParameters : List (List Char × List Char) :=
  [(['m'], Decimal.ofNat ownParameters.memory), (['t'], Decimal.ofNat ownParameters.passes),
    (['p'], Decimal.ofNat ownParameters.lanes)]

def ownText (salt : Salt) (expected : Bytes) : HashText :=
  { algorithm := algorithmName ownParameters.variant
    version := some ownParameters.version.number
    parameters := namedParameters
    salt := some (Base64.encodeChars Base64.standard salt.bytes)
    digest := some expected }

theorem hash_eq (salt : Salt) (plaintext : String) :
    hash salt plaintext =
      String.ofList (ownText salt (digest ownParameters salt.bytes plaintext)).toChars := rfl

theorem isProper_ownText (salt : Salt) {expected : Bytes} (size : expected.length = 32) :
    (ownText salt expected).IsProper where
  algorithm := by
    show HashText.isName (algorithmName ownParameters.variant) = true
    decide
  version := by
    rintro _ ⟨⟩
    decide
  parameters := by
    refine ⟨?_, ?_⟩
    · intro parameter member
      simp only [ownText, namedParameters, List.mem_cons, List.not_mem_nil, or_false] at member
      rcases member with rfl | rfl | rfl
      · exact ⟨by decide, HashText.isValue_ofNat (by decide)⟩
      · exact ⟨by decide, HashText.isValue_ofNat (by decide)⟩
      · exact ⟨by decide, HashText.isValue_ofNat (by decide)⟩
    · show (HashText.parametersChars namedParameters).length ≤ 127
      decide +kernel
  unversioned := nofun
  ends := by
    refine ⟨?_, ?_, nofun⟩
    · rintro _ ⟨⟩
      have bytes := salt.length_bytes
      refine ⟨?_, HashText.isValue_encodeChars (by omega)⟩
      rw [Base64.length_encodeChars, bytes]
      decide
    · rintro _ ⟨⟩
      exact ⟨by omega, by omega⟩

theorem foldlM_namedParameters :
    namedParameters.foldlM withParameter ownParameters = some ownParameters := by
  have memory : HashText.number? (Decimal.ofNat ownParameters.memory) = some ownParameters.memory :=
    HashText.number?_ofNat (by decide)
  have passes : HashText.number? (Decimal.ofNat ownParameters.passes) = some ownParameters.passes :=
    HashText.number?_ofNat (by decide)
  have lanes : HashText.number? (Decimal.ofNat ownParameters.lanes) = some ownParameters.lanes :=
    HashText.number?_ofNat (by decide)
  simp only [namedParameters, List.foldlM_cons, List.foldlM_nil, withParameter, memory, passes, lanes]
  rfl

theorem recipe?_ownText (salt : Salt) {expected : Bytes} (size : expected.length = 32) :
    recipe? (ownText salt expected) = some (ownParameters, salt.bytes, expected) := by
  have start : { ownParameters with
      variant := .id, version := .v19, size := expected.length } = ownParameters := by
    rw [size]
    rfl
  have salted := Base64.decodeChars?_encodeChars Base64.standard_isFaithful salt.bytes
  have usable : areUsable ownParameters = true ∧ 8 ≤ salt.bytes.length :=
    ⟨by decide, by rw [salt.length_bytes]; decide⟩
  show (namedParameters.foldlM withParameter { ownParameters with
      variant := .id, version := .v19, size := expected.length }).bind _ = _
  rw [start, foldlM_namedParameters]
  show (Base64.decodeChars? Base64.standard _).bind _ = _
  rw [salted]
  exact if_pos usable

theorem not_mem_hash {letter : Char} (isMark : HashText.IsMark letter)
    (others : letter ∉ ['$', ',', '=']) (salt : Salt) (plaintext : String) :
    letter ∉ (hash salt plaintext).toList := by
  rw [hash_eq, String.toList_ofList]
  exact (isProper_ownText salt (length_digest ..)).not_mem_toChars isMark others

theorem compare_hash (salt : Salt) (password plaintext : String) :
    compare (hash salt password) plaintext =
      (digest ownParameters salt.bytes plaintext == digest ownParameters salt.bytes password) := by
  have size := length_digest ownParameters salt.bytes password
  rw [compare, hash_eq, String.toList_ofList, HashText.ofChars?_toChars (isProper_ownText salt size),
    Option.bind_some, recipe?_ownText salt size]

theorem hash_eq_append (salt : Salt) (plaintext : String) :
    hash salt plaintext =
      "$argon2id$v=19$m=19456,t=2,p=1$" ++
        String.ofList (Base64.encodeChars Base64.standard salt.bytes) ++ "$" ++
        String.ofList (Base64.encodeChars Base64.standard
          (digest ownParameters salt.bytes plaintext)) := by
  have front : '$' :: algorithmName ownParameters.variant ++
      (['$', 'v', '='] ++ Decimal.ofNat ownParameters.version.number) ++
      '$' :: HashText.parametersChars namedParameters ++ ['$'] =
        "$argon2id$v=19$m=19456,t=2,p=1$".toList := by
    decide +kernel
  rw [hash_eq, ← String.toList_inj]
  simp only [String.toList_append, String.toList_ofList, ← front]
  simp [HashText.toChars, ownText, namedParameters]

/-! ## Texts that are no hash -/

def IsHash (stored : String) : Prop :=
  ∃ text : HashText, text.IsProper ∧ text.salt ≠ none ∧ text.digest ≠ none ∧
    stored = String.ofList text.toChars

theorem isHash_hash (salt : Salt) (password : String) : IsHash (hash salt password) :=
  ⟨_, isProper_ownText salt (length_digest ..), nofun, nofun, hash_eq salt password⟩

theorem complete_of_recipe? {text : HashText} {recipe : Argon2.Parameters × Bytes × Bytes}
    (found : recipe? text = some recipe) : text.salt ≠ none ∧ text.digest ≠ none := by
  simp only [recipe?, Option.bind_eq_bind] at found
  rcases Option.bind_eq_some_iff.mp found with ⟨_, -, found⟩
  -- with a version and without one it goes on in the same way
  split at found
  all_goals
    simp only [Option.bind_eq_some_iff] at found
    rcases found with ⟨_, -, expected, digested, _, -, letters, salted, -⟩
    rw [digested, salted]
    exact ⟨nofun, nofun⟩

/-- What a password matches is the text of a hash with its digest. -/
theorem compare_eq_true_iff {stored plaintext : String} :
    compare stored plaintext = true ↔ ∃ text : HashText,
      text.IsProper ∧ stored = String.ofList text.toChars ∧
        ∃ parameters salt, recipe? text = some (parameters, salt, digest parameters salt plaintext) := by
  constructor
  · intro matched
    rw [compare] at matched
    split at matched
    · rename_i parameters salt expected found
      rcases Option.bind_eq_some_iff.mp found with ⟨text, read, recipe⟩
      rcases HashText.ofChars?_eq_some_iff.mp read with ⟨proper, spelled⟩
      refine ⟨text, proper, ?_, parameters, salt, ?_⟩
      · rw [← spelled, String.ofList_toList]
      · rw [recipe, beq_iff_eq.mp matched]
    · cases matched
  · rintro ⟨text, proper, rfl, parameters, salt, recipe⟩
    rw [compare, String.toList_ofList, HashText.ofChars?_toChars proper, Option.bind_some, recipe]
    exact beq_self_eq_true _

theorem isHash_of_compare {stored plaintext : String} (matched : compare stored plaintext = true) :
    IsHash stored := by
  rcases compare_eq_true_iff.mp matched with ⟨text, proper, spelled, parameters, salt, recipe⟩
  rcases complete_of_recipe? recipe with ⟨salted, digested⟩
  exact ⟨text, proper, salted, digested, spelled⟩

/-- A new hash is written with its parameters, its salt and its output, and is read as that again.
What matches it is what has the same output, the password among it; and nothing matches a text that
is no hash. -/
theorem comparing_agrees_with_hashing (salt : Salt) (password : String) :
    let parameters : Argon2.Parameters :=
      { variant := .id, version := .v19, memory := 19456, passes := 2, lanes := 1, size := 32 }
    let output (plaintext : String) : Bytes :=
      Argon2.hash parameters (Utf8.encode plaintext) salt.bytes
    let letters (bytes : Bytes) : String := String.ofList (Base64.encodeChars Base64.standard bytes)
    hash salt password =
        "$argon2id$v=19$m=19456,t=2,p=1$" ++ letters salt.bytes ++ "$" ++ letters (output password) ∧
      (∃ text, HashText.ofChars? (hash salt password).toList = some text ∧
        recipe? text = some (parameters, salt.bytes, output password)) ∧
      (∀ plaintext, compare (hash salt password) plaintext = true ↔
        output plaintext = output password) ∧
      compare (hash salt password) password = true ∧
      IsHash (hash salt password) ∧
      ∀ stored, ¬ IsHash stored → ∀ plaintext, compare stored plaintext = false := by
  intro parameters output letters
  have size : (output password).length = 32 := length_digest ..
  refine ⟨hash_eq_append salt password,
    ⟨ownText salt (output password), ?_, recipe?_ownText salt size⟩, ?_, ?_,
    isHash_hash salt password, ?_⟩
  · rw [hash_eq, String.toList_ofList]
    exact HashText.ofChars?_toChars (isProper_ownText salt size)
  · intro plaintext
    rw [compare_hash, beq_iff_eq]
    rfl
  · exact (compare_hash ..).trans (beq_self_eq_true _)
  · intro stored unhashed plaintext
    by_contra matched
    exact unhashed (isHash_of_compare (Bool.not_eq_false _ ▸ matched))

end Turnstile.Password
