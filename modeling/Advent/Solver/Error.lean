/-!
# Errors of solvers

An input may be refused, a part may fail, and a registry may have no solver to ask. A fault stands
apart from the other failures: it is a step that has no result at all, such as a sum that leaves its
machine word. Laws about faults say that no input leads to one.
-/
namespace Advent

inductive ParseError
  | invalidFormat (detail : String)
  | missingData (detail : String)
  | other (detail : String)
  deriving Repr, DecidableEq

def ParseError.message : ParseError → String
  | .invalidFormat detail => s!"Invalid format: {detail}"
  | .missingData detail => s!"Missing data: {detail}"
  | .other detail => s!"Parse error: {detail}"

inductive Fault
  | overflow
  | outOfBounds
  deriving Repr, DecidableEq

def Fault.message : Fault → String
  | .overflow => "arithmetic overflow"
  | .outOfBounds => "access out of bounds"

inductive SolveError
  /-- The solver has no such part. -/
  | partNotImplemented (part : Nat)
  /-- The part is zero or above the solver's count. -/
  | partOutOfRange (part : Nat)
  | failed (reason : String)
  | fault (cause : Fault)
  deriving Repr, DecidableEq

def SolveError.message : SolveError → String
  | .partNotImplemented part => s!"Part {part} is not implemented"
  | .partOutOfRange part => s!"Part {part} is out of range"
  | .failed reason => s!"Solve failed: {reason}"
  | .fault cause => s!"Solve failed: {cause.message}"

inductive SolverError
  | notFound (year day : Nat)
  | invalidYearDay (year day : Nat)
  | parse (cause : ParseError)
  | solve (cause : SolveError)
  deriving Repr, DecidableEq

def SolverError.message : SolverError → String
  | .notFound year day => s!"Solver not found for year {year} day {day}"
  | .invalidYearDay year day => s!"Year {year} day {day} is outside the supported range"
  | .parse cause => s!"Parse error: {cause.message}"
  | .solve cause => s!"Solve error: {cause.message}"

inductive RegistrationError
  | duplicateSolver (year day : Nat)
  | invalidYearDay (year day : Nat)
  deriving Repr, DecidableEq

def RegistrationError.message : RegistrationError → String
  | .duplicateSolver year day => s!"Duplicate solver registration for year {year} day {day}"
  | .invalidYearDay year day =>
    s!"Cannot register solver for year {year} day {day}: out of range"

end Advent
