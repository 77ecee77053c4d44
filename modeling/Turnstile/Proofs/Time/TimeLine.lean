import Mathlib.Order.Defs.LinearOrder
import Turnstile.Time.InstantText

/-!
Instants are ordered as one line, and what a duration added to one of them leads to is found on a
line of nanoseconds that has no ends: the sum exists exactly where that lies within the calendar.
-/

namespace Turnstile.Time

theorem Duration.parts (duration : Duration) :
    (0 ≤ duration.nanoseconds ∧ duration.seconds = duration.nanoseconds / 1000000000
        ∧ duration.subseconds = duration.nanoseconds % 1000000000)
      ∨ (duration.nanoseconds < 0 ∧ duration.seconds = -(-duration.nanoseconds / 1000000000)
        ∧ duration.subseconds = -(-duration.nanoseconds % 1000000000)) := by
  by_cases negative : duration.nanoseconds < 0
  · have opposite : 0 ≤ -duration.nanoseconds := by omega
    refine .inr ⟨negative, ?_, ?_⟩
    · rw [← Int.tdiv_eq_ediv_of_nonneg opposite, Int.neg_tdiv, Int.neg_neg]
      rfl
    · rw [← Int.tmod_eq_emod_of_nonneg opposite, Int.neg_tmod, Int.neg_neg]
      rfl
  · have nonnegative : 0 ≤ duration.nanoseconds := by omega
    exact .inl ⟨nonnegative, Int.tdiv_eq_ediv_of_nonneg nonnegative,
      Int.tmod_eq_emod_of_nonneg nonnegative⟩

/-- The seconds of a duration that is short enough fit into 64 bits anyway. -/
theorem Duration.ofMinutes?_eq (minutes : Int) :
    ofMinutes? minutes =
      if (ofMinutes minutes).nanoseconds.natAbs ≤ longest.nanoseconds.natAbs then
        some (ofMinutes minutes)
      else none := by
  rw [ofMinutes?, ofSeconds?, ofMinutes]
  split
  · rfl
  · rename_i wide
    rw [if_neg]
    simp only [ofSeconds, longest]
    omega

namespace Instant

theorem bounds (instant : Instant) :
    firstSecond ≤ instant.seconds ∧ instant.seconds ≤ lastSecond
      ∧ (instant.nanoseconds < 1000000000
        ∨ (instant.nanoseconds < 2000000000 ∧ instant.seconds % 60 = 59)) := by
  simpa only [isInstant, decide_eq_true_eq] using instant.valid

theorem le_iff (left right : Instant) :
    left ≤ right ↔ left.seconds < right.seconds
      ∨ (left.seconds = right.seconds ∧ left.nanoseconds ≤ right.nanoseconds) := Iff.rfl

instance : LT Instant :=
  ⟨fun left right => left.seconds < right.seconds
    ∨ (left.seconds = right.seconds ∧ left.nanoseconds < right.nanoseconds)⟩

theorem lt_iff (left right : Instant) :
    left < right ↔ left.seconds < right.seconds
      ∨ (left.seconds = right.seconds ∧ left.nanoseconds < right.nanoseconds) := Iff.rfl

instance : LinearOrder Instant where
  le_refl instant := by
    rw [le_iff]
    omega
  le_trans first second third := by
    simp only [le_iff]
    omega
  le_antisymm left right := by
    rcases left with ⟨leftSeconds, leftNanoseconds, _⟩
    rcases right with ⟨rightSeconds, rightNanoseconds, _⟩
    simp only [le_iff, mk.injEq]
    omega
  le_total left right := by
    simp only [le_iff]
    omega
  lt_iff_le_not_ge left right := by
    simp only [le_iff, lt_iff]
    omega
  toDecidableLE := inferInstance

/-- Where a duration leads to, in nanoseconds since the beginning of 1970. A leap second is not on
this line: until it is left backwards, time in it counts as time in the second before. -/
def sum (instant : Instant) (duration : Duration) : Int :=
  let total := 1000000000 * instant.seconds + instant.nanoseconds + duration.nanoseconds
  if 1000000000 ≤ instant.nanoseconds ∧ 1000000000 ≤ instant.nanoseconds + duration.nanoseconds then
    total - 1000000000
  else total

def IsOnLine (nanoseconds : Int) : Prop :=
  1000000000 * firstSecond ≤ nanoseconds ∧ nanoseconds < 1000000000 * (lastSecond + 1)

theorem ofUnix?_isSome_iff (seconds : Int) (nanoseconds : Nat) :
    (ofUnix? seconds nanoseconds).isSome ↔ isInstant seconds nanoseconds = true := by
  rw [ofUnix?]
  split <;> simp_all

theorem add?_isSome_iff (instant : Instant) (duration : Duration) :
    (instant.add? duration).isSome ↔ IsOnLine (instant.sum duration) := by
  rcases instant.bounds with ⟨lower, upper, nanoseconds⟩
  have parts := duration.parts
  simp only [add?, sum, IsOnLine]
  generalize duration.seconds = whole at *
  generalize duration.subseconds = part at *
  by_cases leap : (instant.nanoseconds : Int) ≥ 1000000000
  · by_cases forward : whole > 0 ∨ (part > 0 ∧ (instant.nanoseconds : Int) + part ≥ 2000000000)
    · simp only [leap, forward, not_true, and_false, false_and, if_false, if_true,
        ofUnix?_isSome_iff, isInstant, decide_eq_true_eq]
      rw [if_pos (by omega)]
      omega
    · by_cases backward : whole < 0
      · simp only [leap, forward, backward, not_true, not_false_eq_true, and_false, and_true,
          if_false, if_true, ofUnix?_isSome_iff, isInstant, decide_eq_true_eq]
        rw [if_neg (by omega)]
        omega
      · simp only [leap, forward, backward, not_false_eq_true, and_true, if_true,
          ofUnix?_isSome_iff, isInstant, decide_eq_true_eq]
        split <;> omega
  · simp only [leap, false_and, if_false, ofUnix?_isSome_iff, isInstant, decide_eq_true_eq]
    rw [if_neg (by omega)]
    omega

/-! ## Outside leap seconds

Every instant there has a place of its own on the line, and a duration leads from one to another. -/

/-- Not within a leap second. -/
def IsOrdinary (instant : Instant) : Prop :=
  instant.nanoseconds < 1000000000

instance (instant : Instant) : Decidable instant.IsOrdinary :=
  inferInstanceAs (Decidable (_ < _))

def position (instant : Instant) : Int :=
  1000000000 * instant.seconds + instant.nanoseconds

def since (later earlier : Instant) : Duration :=
  ⟨later.position - earlier.position⟩

def last : Instant :=
  ⟨lastSecond, 999999999, by decide⟩

example : last.text .exact = "+262142-12-31T23:59:59.999999999Z" := by decide +kernel

theorem IsOrdinary.le_iff {left right : Instant} (leftOrdinary : left.IsOrdinary)
    (rightOrdinary : right.IsOrdinary) : left ≤ right ↔ left.position ≤ right.position := by
  rw [IsOrdinary] at leftOrdinary rightOrdinary
  rw [Instant.le_iff, position, position]
  omega

section Add

variable {instant : Instant} {duration : Duration} (ordinary : instant.IsOrdinary)
include ordinary

theorem IsOrdinary.sum_eq : instant.sum duration = instant.position + duration.nanoseconds := by
  rw [IsOrdinary] at ordinary
  rw [sum, position, if_neg (by omega)]

theorem IsOrdinary.add?_isSome_iff (forward : 0 ≤ duration.nanoseconds) :
    (instant.add? duration).isSome ↔
      instant.position + duration.nanoseconds ≤ last.position := by
  rcases instant.bounds with ⟨lower, -, -⟩
  rw [Instant.add?_isSome_iff, ordinary.sum_eq, IsOnLine]
  simp only [position, last]
  omega

theorem IsOrdinary.of_add? {later : Instant} (added : instant.add? duration = some later) :
    later.IsOrdinary ∧ later.position = instant.position + duration.nanoseconds := by
  rw [IsOrdinary] at ordinary
  have parts := duration.parts
  have steady : ¬ (instant.nanoseconds : Int) ≥ 1000000000 := by omega
  simp only [add?, steady, false_and, if_false, ofUnix?] at added
  split at added
  · cases added
    simp only [IsOrdinary, position]
    omega
  · cases added

end Add

end Instant

end Turnstile.Time
