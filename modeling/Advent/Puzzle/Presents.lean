import Advent.Solver.Dispatch
import Advent.Text.Lines
import Advent.Text.Numeral
import Advent.Text.Quoted
import Advent.Word

/-!
# Presents

A present is a box known by its three sides in ascending order, so the order in which they were given
does not matter. Paper covers the surface and the smallest face once more; ribbon goes around the
smallest face, with a bow as long as the volume. Each part adds one of the two measures up over all
presents, within 128 bits.
-/
namespace Advent.Presents

structure Present where
  short : Nat
  middle : Nat
  long : Nat
  deriving Repr, DecidableEq

namespace Present

def ofSides (length width height : Nat) : Present where
  short := min length (min width height)
  middle := max (min length width) (min (max length width) height)
  long := max length (max width height)

def paper (present : Present) : Nat :=
  2 * (present.short * present.middle + present.middle * present.long +
    present.long * present.short) + present.short * present.middle

def ribbon (present : Present) : Nat :=
  2 * (present.short + present.middle) + present.short * present.middle * present.long

end Present

inductive PresentError
  | badDimension (piece : List Char) (cause : Text.NumeralError)
  | notPositive (text : List Char)
  | notThreeSides (text : List Char)
  deriving Repr, DecidableEq

def PresentError.message : PresentError → String
  | .badDimension piece cause => s!"bad dimension {Text.quote piece}: {cause.message}"
  | .notPositive text => s!"dimensions must be positive, got {Text.quote text}"
  | .notThreeSides text => s!"expected LxWxH, got {Text.quote text}"

/-- The greatest side that a present may have. -/
def longestSide : Nat := Word.greatest 32

def readSide (piece : List Char) : Except PresentError Nat :=
  (Text.readNat longestSide (Text.trim piece)).mapError (.badDimension piece)

/-- Three sides with `x` between them; the first bad side is reported before their count. -/
def readPresent (text : List Char) : Except PresentError Present := do
  match ← (text.splitOn 'x').mapM readSide with
  | [length, width, height] =>
    if length = 0 ∨ width = 0 ∨ height = 0 then .error (.notPositive text)
    else .ok (.ofSides length width height)
  | _ => .error (.notThreeSides text)

inductive TotalError
  | tooLarge
  | overflow
  deriving Repr, DecidableEq

def TotalError.toSolveError : TotalError → SolveError
  | .tooLarge => .failed "total does not fit in 128 bits"
  | .overflow => .fault .overflow

/-- The sum of a measure. A measure that leaves its word is a fault, a sum that does is too large. -/
def total (measure : Present → Nat) (presents : List Present) : Except TotalError Nat :=
  presents.foldlM (fun sum present =>
    match Word.unsigned128? (measure present) with
    | none => .error .overflow
    | some value =>
      match Word.unsigned128? (sum + value) with
      | none => .error .tooLarge
      | some sum => .ok sum) 0

def parse (input : String) : Except ParseError (List Present) :=
  (Text.readLines readPresent input.toList).mapError fun error =>
    .invalidFormat (error.message PresentError.message)

def answer (presents : List Present) (part : Nat) : Except SolveError String :=
  let measure := if part = 1 then Present.paper else Present.ribbon
  ((total measure presents).mapError TotalError.toSolveError).map toString

def solver : Solver :=
  (Dispatch.upTo 2).solver parse fun part presents => .ofAnswer presents (answer presents part)

end Advent.Presents
