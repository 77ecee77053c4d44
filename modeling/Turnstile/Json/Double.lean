import Turnstile.Json.Basic

/-!
Numbers within double precision, as they are read from left to right with one rounding a step: the
leading digits are kept as long as 64 bits can hold them, what has been kept is rounded, and so is
the power of ten that it is multiplied by. A number is finite when the product is, and this can
differ from what its exact value would say where that is close to the greatest double.
-/

namespace Turnstile.Json

def doublePrecision : Nat := 53

/-- The least number that rounds to infinity. -/
def beyondDouble : Nat := Nat.pow 2 1024 - Nat.pow 2 970

/-- The nearest double, of two the one with an even significand; the range has no limit here. -/
def nearestDouble (value : Nat) : Nat :=
  let unit := Nat.pow 2 (Nat.log2 value + 1 - doublePrecision)
  let quotient := value / unit
  let remainder := value % unit
  let isUp := unit < 2 * remainder ∨ (2 * remainder = unit ∧ quotient % 2 = 1)
  unit * (if isUp then quotient + 1 else quotient)

def greatestTenPower : Nat := 308

def beyondWord : Nat := Nat.pow 2 64

/-- The leading digits of a number, as many as a word can hold, and how many follow them. -/
def leadingDigits (value : Nat) : Nat × Nat :=
  if value < beyondWord then (value, 0)
  else
    let (leading, dropped) := leadingDigits (value / 10)
    (leading, dropped + 1)
termination_by value
decreasing_by
  have : 0 < beyondWord := by decide
  omega

def appendDigits : (value : Nat) → List (Fin 10) → Nat × Nat
  | value, [] => (value, 0)
  | value, place :: rest =>
      if 10 * value + place.val < beyondWord then
        let (value, taken) := appendDigits (10 * value + place.val) rest
        (value, taken + 1)
      else (value, 0)

def Number.isFinite (number : Number) : Bool :=
  let (leading, dropped) := leadingDigits number.whole
  let (significand, taken) := appendDigits leading number.places
  let exponent := number.exponent + dropped - taken
  if significand = 0 ∨ exponent < 0 then true
  else
    exponent ≤ greatestTenPower
      && nearestDouble significand * nearestDouble (Nat.pow 10 exponent.toNat) < beyondDouble

example : nearestDouble 9007199254740993 = 9007199254740992 := by decide +kernel
example : Number.isFinite ⟨false, 17976931348623157, [], 292⟩ = true := by decide +kernel
example : Number.isFinite ⟨false, 17976931348623158, [], 292⟩ = false := by decide +kernel
example : Number.isFinite ⟨false, 0, [0], 999⟩ = true := by decide +kernel

end Turnstile.Json
