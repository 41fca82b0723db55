import Advent.Run.Duration
import Advent.Run.Key
import Advent.Solver.Error

/-!
# Results of parts

A part has an answer, or fails because its input could not be loaded, because no solver could be set
up, or because the solver failed.
-/
namespace Advent

inductive InputError
  | notFound (path : String)
  | unreadable (path reason : String)
  deriving Repr, DecidableEq

def InputError.message : InputError → String
  | .notFound path => s!"input file {path} not found"
  | .unreadable path reason => s!"failed to read {path}: {reason}"

inductive PartError
  | input (cause : InputError)
  | setup (cause : SolverError)
  | solve (cause : SolveError)
  deriving Repr, DecidableEq

def PartError.message : PartError → String
  | .input cause => cause.message
  | .setup cause => cause.message
  | .solve cause => cause.message

structure PartResult where
  key : Key
  answer : Except PartError String
  /-- The time that reading the input took, if this part reports it. -/
  parseTime : Option Duration
  solveTime : Duration

namespace PartResult

def isSolved (result : PartResult) : Bool :=
  result.answer.isOk

/-- The result of a part that never reached its solver. -/
def unsolved (key : Key) (error : PartError) : PartResult :=
  { key, answer := .error error, parseTime := none, solveTime := .zero }

end PartResult

end Advent
