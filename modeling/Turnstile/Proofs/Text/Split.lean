import Turnstile.Text.Split

/-!
Cutting text at every occurrence of a letter takes apart what was joined with that letter, as long
as the parts are free of it. Nothing else is cut into those parts.
-/

namespace Turnstile.Text

theorem splitAll_eq_splitOn (mark : Char) (letters : List Char) :
    splitAll mark letters = letters.splitOn mark := by
  induction letters with
  | nil => rfl
  | cons letter rest induction =>
      rw [splitAll, List.splitOn_cons_eq_if_modifyHead, induction]
      by_cases same : letter = mark
      · rw [if_pos same, if_pos (beq_iff_eq.mpr same)]
      · rw [if_neg same, if_neg (by simpa using same)]
        cases parts : rest.splitOn mark with
        | nil => exact absurd parts (List.splitOn_ne_nil _ _)
        | cons part parts => rfl

theorem splitAll_intercalate {mark : Char} {parts : List (List Char)}
    (absent : ∀ part ∈ parts, mark ∉ part) (present : parts ≠ []) :
    splitAll mark ([mark].intercalate parts) = parts := by
  rw [splitAll_eq_splitOn]
  exact List.splitOn_intercalate mark absent present

theorem not_mem_of_mem_splitAll {mark : Char} {letters part : List Char}
    (member : part ∈ splitAll mark letters) : mark ∉ part := by
  induction letters generalizing part with
  | nil =>
      rw [splitAll, List.mem_singleton] at member
      rw [member]
      exact List.not_mem_nil
  | cons letter rest induction =>
      rw [splitAll] at member
      by_cases same : letter = mark
      · rw [if_pos same] at member
        rcases List.mem_cons.mp member with first | later
        · rw [first]
          exact List.not_mem_nil
        · exact induction later
      · rw [if_neg same] at member
        have different : mark ∉ [letter] := fun equal => same (List.mem_singleton.mp equal).symm
        cases parts : splitAll mark rest with
        | nil =>
            rw [parts, List.mem_singleton] at member
            rw [member]
            exact different
        | cons next others =>
            rw [parts] at member
            rcases List.mem_cons.mp member with first | later
            · rw [first, List.mem_cons, not_or]
              exact ⟨fun equal => same equal.symm, induction (parts ▸ List.mem_cons_self ..)⟩
            · exact induction (parts ▸ List.mem_cons_of_mem _ later)

theorem splitAll_eq_iff {mark : Char} {letters : List Char} {parts : List (List Char)} :
    splitAll mark letters = parts ↔
      parts ≠ [] ∧ (∀ part ∈ parts, mark ∉ part) ∧ letters = [mark].intercalate parts := by
  constructor
  · rintro rfl
    refine ⟨?_, fun part => not_mem_of_mem_splitAll, ?_⟩
    · rw [splitAll_eq_splitOn]
      exact List.splitOn_ne_nil _ _
    · rw [splitAll_eq_splitOn, List.intercalate_splitOn]
  · rintro ⟨present, absent, rfl⟩
    exact splitAll_intercalate absent present

theorem intercalate_eq_append_flatMap (mark : Char) (part : List Char) (parts : List (List Char)) :
    [mark].intercalate (part :: parts) = part ++ parts.flatMap (mark :: ·) := by
  induction parts generalizing part with
  | nil => rw [List.intercalate_singleton, List.flatMap_nil, List.append_nil]
  | cons next parts induction =>
      rw [List.intercalate_cons_cons, induction, List.flatMap_cons, List.append_assoc]
      rfl

end Turnstile.Text
