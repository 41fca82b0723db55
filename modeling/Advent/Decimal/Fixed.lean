/-!
# Numbers with a fixed count of places

Division rounds to the nearest whole number and a half goes to the even neighbour. A ratio shown with
two places is a hundredth part rounded that way.
-/
namespace Advent.Decimal

def roundDiv (numerator denominator : Nat) : Nat :=
  let quotient := numerator / denominator
  let twice := 2 * (numerator % denominator)
  if twice < denominator ∨ twice = denominator ∧ quotient % 2 = 0 then quotient else quotient + 1

/-- A number with a leading zero if it has one digit only. -/
def twoDigits (n : Nat) : String :=
  if n < 10 then s!"0{n}" else toString n

def twoPlaces (numerator denominator : Nat) : String :=
  let hundredths := roundDiv (100 * numerator) denominator
  s!"{hundredths / 100}.{twoDigits (hundredths % 100)}"

/-- Rounding moves a ratio by at most half a unit. -/
theorem roundDiv_within_half (numerator denominator : Nat) (positive : 0 < denominator) :
    2 * numerator ≤ (2 * roundDiv numerator denominator + 1) * denominator ∧
      2 * roundDiv numerator denominator * denominator ≤ 2 * numerator + denominator := by
  have split := Nat.div_add_mod numerator denominator
  have small := Nat.mod_lt numerator positive
  unfold roundDiv
  generalize numerator / denominator = quotient at *
  generalize numerator % denominator = remainder at *
  subst split
  simp only
  split
  next down =>
    constructor
    · have : (2 * quotient + 1) * denominator = 2 * (denominator * quotient) + denominator := by
        rw [Nat.add_mul, Nat.mul_assoc, Nat.mul_comm quotient, Nat.one_mul]
      omega
    · have : 2 * quotient * denominator = 2 * (denominator * quotient) := by
        rw [Nat.mul_assoc, Nat.mul_comm quotient]
      omega
  next up =>
    constructor
    · have : (2 * (quotient + 1) + 1) * denominator =
          2 * (denominator * quotient) + 3 * denominator := by
        rw [show 2 * (quotient + 1) + 1 = 2 * quotient + 3 by omega, Nat.add_mul, Nat.mul_assoc,
          Nat.mul_comm quotient]
      omega
    · have : 2 * (quotient + 1) * denominator = 2 * (denominator * quotient) + 2 * denominator := by
        rw [show 2 * (quotient + 1) = 2 * quotient + 2 by omega, Nat.add_mul, Nat.mul_assoc,
          Nat.mul_comm quotient]
      omega

end Advent.Decimal
