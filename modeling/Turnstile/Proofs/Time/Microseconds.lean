import Turnstile.Database.Value
import Turnstile.Proofs.Time.TimeLine

/-!
Instants that a database keeps without loss: those of whole microseconds outside leap seconds. Of
the others outside leap seconds it keeps the next such instant on the way to the year 2000. Before
that year the count is negative, and its seconds and microseconds are told apart by the floor.
-/

namespace Turnstile.Time.Instant

def isWhole (instant : Instant) : Bool :=
  decide (instant.nanoseconds < 1000000000 ∧ instant.nanoseconds % 1000 = 0)

theorem databaseMicroseconds_of_isWhole {instant : Instant} (whole : instant.isWhole = true) :
    instant.databaseMicroseconds =
      (instant.seconds - databaseEpoch) * 1000000 + (instant.nanoseconds / 1000 : Nat) := by
  rw [isWhole, decide_eq_true_eq] at whole
  rcases whole with ⟨-, divides⟩
  rw [databaseMicroseconds, Int.tdiv_eq_ediv_of_dvd]
  · omega
  · omega

theorem ofDatabaseMicroseconds?_of_isWhole {instant : Instant} (whole : instant.isWhole = true) :
    ofDatabaseMicroseconds? instant.databaseMicroseconds = some instant := by
  rw [ofDatabaseMicroseconds?, databaseMicroseconds_of_isWhole whole]
  rw [isWhole, decide_eq_true_eq] at whole
  have seconds : databaseEpoch +
      ((instant.seconds - databaseEpoch) * 1000000 + (instant.nanoseconds / 1000 : Nat)) / 1000000 =
        instant.seconds := by omega
  have nanoseconds : 1000 * (((instant.seconds - databaseEpoch) * 1000000
      + (instant.nanoseconds / 1000 : Nat)) % 1000000).toNat = instant.nanoseconds := by omega
  rw [seconds, nanoseconds, ofUnix?, dif_pos instant.valid]

/-! ## What is cut off -/

def year2000 : Instant :=
  ⟨databaseEpoch, 0, by decide⟩

example : year2000.text .exact = "2000-01-01T00:00:00Z" := by decide +kernel

/-- The other instant has whole microseconds, and between the two there is less than one of them, on
the side of the year 2000. -/
structure IsKeptAs (instant kept : Instant) : Prop where
  whole : kept.isWhole = true
  near : (instant.position - kept.position).natAbs < 1000
  toward : (year2000.position ≤ kept.position ∧ kept.position ≤ instant.position) ∨
    (instant.position ≤ kept.position ∧ kept.position ≤ year2000.position)

theorem IsKeptAs.eq {instant kept other : Instant} (isKept : instant.IsKeptAs kept)
    (isOther : instant.IsKeptAs other) : kept = other := by
  rcases isKept with ⟨whole, near, toward⟩
  rcases isOther with ⟨otherWhole, otherNear, otherToward⟩
  rcases kept with ⟨seconds, nanoseconds, _⟩
  rcases other with ⟨otherSeconds, otherNanoseconds, _⟩
  simp only [isWhole, decide_eq_true_eq] at whole otherWhole
  simp only [position, year2000, databaseEpoch] at *
  rw [mk.injEq]
  omega

theorem databaseMicroseconds_cases (instant : Instant) :
    (year2000.position + 1000 * instant.databaseMicroseconds ≤ instant.position ∧
        instant.position < year2000.position + 1000 * (instant.databaseMicroseconds + 1) ∧
        0 ≤ instant.databaseMicroseconds) ∨
      (instant.position ≤ year2000.position + 1000 * instant.databaseMicroseconds ∧
        year2000.position + 1000 * (instant.databaseMicroseconds - 1) < instant.position ∧
        instant.databaseMicroseconds ≤ 0) := by
  have since : (instant.seconds - databaseEpoch) * 1000000000 + instant.nanoseconds =
      instant.position - year2000.position := by
    simp only [position, year2000]
    omega
  rw [databaseMicroseconds, since]
  rcases Int.le_total 0 (instant.position - year2000.position) with later | earlier
  · rw [Int.tdiv_eq_ediv_of_nonneg later]
    omega
  · have opposite : 0 ≤ -(instant.position - year2000.position) := by omega
    have quotient : (instant.position - year2000.position).tdiv 1000 =
        -(-(instant.position - year2000.position) / 1000) := by
      rw [← Int.tdiv_eq_ediv_of_nonneg opposite, Int.neg_tdiv, Int.neg_neg]
    rw [quotient]
    omega

theorem exists_ofDatabaseMicroseconds? {instant : Instant} (ordinary : instant.IsOrdinary) :
    ∃ kept, ofDatabaseMicroseconds? instant.databaseMicroseconds = some kept ∧
      instant.IsKeptAs kept := by
  have bounds := instant.bounds
  have cases := instant.databaseMicroseconds_cases
  generalize instant.databaseMicroseconds = microseconds at cases
  rw [IsOrdinary] at ordinary
  simp only [position, year2000, databaseEpoch, firstSecond, lastSecond] at bounds cases
  have valid : isInstant (databaseEpoch + microseconds / 1000000)
      (1000 * (microseconds % 1000000).toNat) = true := by
    rw [isInstant, decide_eq_true_eq]
    simp only [databaseEpoch, firstSecond, lastSecond]
    omega
  refine ⟨⟨_, _, valid⟩, dif_pos valid, ?_, ?_, ?_⟩
  · rw [isWhole, decide_eq_true_eq]
    dsimp only
    omega
  · simp only [position, databaseEpoch]
    omega
  · simp only [position, year2000, databaseEpoch]
    omega

end Turnstile.Time.Instant
