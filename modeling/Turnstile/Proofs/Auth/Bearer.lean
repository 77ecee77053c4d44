import Mathlib.Data.List.Induction
import Turnstile.Auth.Bearer

/-!
Which token a request carries. What was inserted is found again whatever the case of its name, and
the token is everything after the first space of the only value under `authorization`.
-/

namespace Turnstile

namespace Text

@[simp] theorem asciiLower_asciiLower (letter : Char) :
    asciiLower (asciiLower letter) = asciiLower letter := by
  by_cases upper : 'A' ≤ letter ∧ letter ≤ 'Z'
  · have lowers : ∀ code < 91, 65 ≤ code →
        asciiLower (Char.ofNat (code + 32)) = Char.ofNat (code + 32) := by decide
    have least : 65 ≤ letter.toNat := upper.left
    have greatest : letter.toNat ≤ 90 := upper.right
    rw [asciiLower.eq_1 letter, if_pos upper]
    exact lowers letter.toNat (by omega) least
  · rw [asciiLower.eq_1 letter, if_neg upper, asciiLower, if_neg upper]

@[simp] theorem asciiLowerText_asciiLowerText (text : String) :
    asciiLowerText (asciiLowerText text) = asciiLowerText text := by
  simp [asciiLowerText, Function.comp_def]

theorem sameIgnoringCase_asciiLowerText (left right : String) :
    sameIgnoringCase (asciiLowerText left) right = sameIgnoringCase left right := by
  simp only [sameIgnoringCase, asciiLowerText_asciiLowerText]

end Text

namespace Auth

open Text

namespace Metadata

def ofInsertions (insertions : List (String × String)) : Metadata :=
  insertions.foldl (fun metadata entry => metadata.insert entry.1 entry.2) {}

theorem ofInsertions_eq_ofList (insertions : List (String × String)) :
    ofInsertions insertions = ofList insertions := by
  induction insertions using List.reverseRecOn with
  | nil => rfl
  | append_singleton insertions entry hypothesis =>
      rw [← insert_ofList, ← hypothesis]
      simp only [ofInsertions, List.foldl_append, List.foldl_cons, List.foldl_nil]

theorem values_ofInsertions (insertions : List (String × String)) (name : String) :
    (ofInsertions insertions).values name =
      (insertions.filter fun entry => sameIgnoringCase entry.1 name).map (·.2) := by
  rw [ofInsertions_eq_ofList, values, ofList, List.filter_map, List.map_map]
  simp only [Function.comp_def, sameIgnoringCase_asciiLowerText]

end Metadata

/-- There are insertions, and one of them alone is of a value under `authorization`. -/
def Carries (insertions : Option (List (String × String))) (value : String) : Prop :=
  ∃ entries, insertions = some entries ∧
    (entries.filter fun entry => sameIgnoringCase entry.1 "authorization").map (·.2) = [value]

/-- The value that is carried has the bearer scheme, and the token after it. -/
def Presents (insertions : Option (List (String × String))) (token : String) : Prop :=
  ∃ scheme, Carries insertions (scheme ++ " " ++ token) ∧ ' ' ∉ scheme.toList ∧
    sameIgnoringCase scheme "bearer" = true

theorem credential_of_not_mem {value : String} (unspaced : ' ' ∉ value.toList) :
    credential value = .error .malformedToken := by
  rw [credential, splitOnce, (splitChars_eq_none_iff ..).mpr unspaced]
  rfl

theorem credential_append (scheme token : String) (unspaced : ' ' ∉ scheme.toList) :
    credential (scheme ++ " " ++ token) =
      if sameIgnoringCase scheme bearerScheme then .ok token
      else .error .invalidAuthorizationScheme := by
  have split : splitChars ' ' (scheme ++ " " ++ token).toList =
      some (scheme.toList, token.toList) := by
    rw [splitChars_eq_some_iff]
    exact ⟨by simp, unspaced⟩
  rw [credential, splitOnce, split]
  simp only [Option.map_some, String.ofList_toList]

theorem exists_scheme {value : String} (spaced : ' ' ∈ value.toList) :
    ∃ scheme token, value = scheme ++ " " ++ token ∧ ' ' ∉ scheme.toList := by
  cases split : splitChars ' ' value.toList with
  | none => exact absurd spaced ((splitChars_eq_none_iff ..).mp split)
  | some parts =>
      rcases (splitChars_eq_some_iff ..).mp split with ⟨whole, unspaced⟩
      refine ⟨String.ofList parts.1, String.ofList parts.2, String.toList_inj.mp ?_, ?_⟩
      · simpa using whole
      · simpa using unspaced

variable {insertions : Option (List (String × String))}

theorem bearerToken_of_carries {value : String} (carried : Carries insertions value) :
    bearerToken (insertions.map Metadata.ofInsertions) = credential value := by
  rcases carried with ⟨entries, rfl, only⟩
  rw [Option.map_some, bearerToken, Metadata.values_ofInsertions, authorizationName, only]

theorem bearerToken_of_presents {token : String} (presented : Presents insertions token) :
    bearerToken (insertions.map Metadata.ofInsertions) = .ok token := by
  rcases presented with ⟨scheme, carried, unspaced, bearer⟩
  rw [bearerToken_of_carries carried, credential_append _ _ unspaced, bearerScheme, if_pos bearer]

theorem bearerToken_of_not_carries (entries : List (String × String))
    (alone : ¬ ∃ value, Carries (some entries) value) :
    bearerToken ((some entries).map Metadata.ofInsertions) = .error .missingAuthHeader := by
  rw [Option.map_some, bearerToken, Metadata.values_ofInsertions, authorizationName]
  split
  · rename_i value only
    exact absurd ⟨value, entries, rfl, only⟩ alone
  · rfl

theorem carries_cases {value : String} (carried : Carries insertions value) :
    ' ' ∉ value.toList ∨
      (∃ scheme token, Carries insertions (scheme ++ " " ++ token) ∧ ' ' ∉ scheme.toList ∧
        sameIgnoringCase scheme "bearer" = false) ∨
      ∃ token, Presents insertions token := by
  by_cases spaced : ' ' ∈ value.toList
  · rcases exists_scheme spaced with ⟨scheme, token, rfl, unspaced⟩
    cases bearer : sameIgnoringCase scheme "bearer" with
    | false => exact .inr (.inl ⟨scheme, token, carried, unspaced, bearer⟩)
    | true => exact .inr (.inr ⟨token, scheme, carried, unspaced, bearer⟩)
  · exact .inl spaced

theorem bearerToken_eq_ok_iff (insertions : Option (List (String × String))) (token : String) :
    bearerToken (insertions.map Metadata.ofInsertions) = .ok token ↔
      Presents insertions token := by
  constructor
  · intro read
    by_cases alone : ∃ value, Carries insertions value
    · rcases alone with ⟨value, carried⟩
      have same := bearerToken_of_carries carried
      rcases carries_cases carried with
        unspaced | ⟨scheme, other, carried, unspaced, apart⟩ | ⟨other, presented⟩
      · rw [same, credential_of_not_mem unspaced] at read
        cases read
      · rw [bearerToken_of_carries carried, credential_append _ _ unspaced, bearerScheme,
          apart] at read
        cases read
      · rw [bearerToken_of_presents presented] at read
        cases read
        exact presented
    · cases insertions with
      | none => cases read
      | some entries =>
          rw [bearerToken_of_not_carries entries alone] at read
          cases read
  · exact bearerToken_of_presents

end Auth

end Turnstile
