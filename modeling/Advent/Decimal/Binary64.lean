import Advent.Decimal.Fixed

/-!
# Non-negative binary floating point numbers of 53 bits

A number is a mantissa times a power of two. Every operation is exact on ratios and then rounded
once: the exponent is chosen such that the mantissa has 53 bits, and a half goes to the even
neighbour. The exponent has no bounds; the numbers that reports show stay far inside the range of a
64-bit format.
-/
namespace Advent.Decimal

structure Binary64 where
  mantissa : Nat
  exponent : Int
  deriving Repr, DecidableEq

/-- A ratio divided by a power of two, as a ratio. -/
def scaleDown (numerator denominator : Nat) : Int → Nat × Nat
  | .ofNat power => (numerator, denominator <<< power)
  | .negSucc power => (numerator <<< (power + 1), denominator)

namespace Binary64

/-- The nearest number to a ratio. -/
def ofRatio (numerator denominator : Nat) : Binary64 :=
  if numerator = 0 then ⟨0, 0⟩
  else
    let low : Int := (numerator.log2 : Int) - denominator.log2 - 53
    -- In units of two to the power of `low` the ratio lies between 2⁵² and 2⁵⁴.
    let (high, unit) := scaleDown numerator denominator low
    let exponent := if 1 <<< 53 ≤ high / unit then low + 1 else low
    let (scaled, divisor) := scaleDown numerator denominator exponent
    ⟨roundDiv scaled divisor, exponent⟩

def ofNat (n : Nat) : Binary64 :=
  ofRatio n 1

/-- The exact value as a ratio. -/
def toRatio (x : Binary64) : Nat × Nat :=
  scaleDown x.mantissa 1 (-x.exponent)

def add (x y : Binary64) : Binary64 :=
  let (xTop, xUnder) := x.toRatio
  let (yTop, yUnder) := y.toRatio
  ofRatio (xTop * yUnder + yTop * xUnder) (xUnder * yUnder)

def div (x y : Binary64) : Binary64 :=
  let (xTop, xUnder) := x.toRatio
  let (yTop, yUnder) := y.toRatio
  ofRatio (xTop * yUnder) (xUnder * yTop)

/-- The number with two places, from its exact value. -/
def shown (x : Binary64) : String :=
  twoPlaces x.toRatio.1 x.toRatio.2

end Binary64

end Advent.Decimal
