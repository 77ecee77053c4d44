/-!
Cutting text at the first occurrence of a letter.
-/

namespace Turnstile.Text

def splitChars (mark : Char) : List Char → Option (List Char × List Char)
  | [] => none
  | letter :: rest =>
      if letter = mark then some ([], rest)
      else (splitChars mark rest).map fun (before, after) => (letter :: before, after)

def splitOnce (mark : Char) (text : String) : Option (String × String) :=
  (splitChars mark text.toList).map fun (before, after) =>
    (String.ofList before, String.ofList after)

/-- All parts between marks; one part more than there are marks. -/
def splitAll (mark : Char) : List Char → List (List Char)
  | [] => [[]]
  | letter :: rest =>
      if letter = mark then [] :: splitAll mark rest
      else
        match splitAll mark rest with
        | [] => [[letter]]
        | part :: parts => (letter :: part) :: parts

theorem splitChars_eq_none_iff (mark : Char) (letters : List Char) :
    splitChars mark letters = none ↔ mark ∉ letters := by
  induction letters with
  | nil => simp [splitChars]
  | cons letter rest hypothesis =>
      by_cases equal : letter = mark
      · simp [splitChars, equal]
      · simp [splitChars, equal, hypothesis, Ne.symm equal]

theorem splitChars_eq_some_iff (mark : Char) (letters before after : List Char) :
    splitChars mark letters = some (before, after) ↔
      letters = before ++ mark :: after ∧ mark ∉ before := by
  induction letters generalizing before with
  | nil => simp [splitChars]
  | cons letter rest hypothesis =>
      by_cases equal : letter = mark
      · subst equal
        cases before with
        | nil => simp [splitChars]
        | cons head tail => simp [splitChars]; intro same; simp [same]
      · cases before with
        | nil => simp [splitChars, equal]
        | cons head tail =>
            simp only [splitChars, equal, if_false, Option.map_eq_some_iff, Prod.exists,
              Prod.mk.injEq, List.cons.injEq, List.cons_append, List.mem_cons, not_or]
            constructor
            · rintro ⟨front, back, found, ⟨rfl, rfl⟩, rfl⟩
              have split := (hypothesis front).mp found
              exact ⟨⟨rfl, split.1⟩, fun same => equal same.symm, split.2⟩
            · rintro ⟨⟨rfl, same⟩, _, absent⟩
              exact ⟨tail, after, (hypothesis tail).mpr ⟨same, absent⟩, ⟨rfl, rfl⟩, rfl⟩

end Turnstile.Text
