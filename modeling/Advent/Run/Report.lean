import Advent.Run.Result

/-!
# The report of a run

Each result has a line, for standard output if the part was solved and for standard error if not; a
quiet report shows answers and errors only. The summary counts solved and failed parts and adds up
the times of the solved ones. It has no speedup line if no time went by.
-/
namespace Advent

/-- A line for one of the two output streams. -/
inductive ReportLine
  | out (text : String)
  | err (text : String)
  deriving Repr, DecidableEq

def resultLine (quiet : Bool) (result : PartResult) : ReportLine :=
  let day := Decimal.twoDigits result.key.day
  let label := s!"{result.key.year}/{day} Part {result.key.part}"
  match result.answer with
  | .ok answer =>
    if quiet then .out answer
    else
      let parse :=
        match result.parseTime with
        | some time => s!"parse: {time.shown}, "
        | none => ""
      .out s!"{label}: {answer} ({parse}solve: {result.solveTime.shown})"
  | .error error =>
    if quiet then .err s!"Error: {error.message}" else .err s!"{label}: Error - {error.message}"

/-- The total parse time of the solved results. -/
def totalParseTime? (results : List PartResult) : Option Duration :=
  Duration.sum? ((results.filter PartResult.isSolved).filterMap PartResult.parseTime)

/-- The total solve time of the solved results. -/
def totalSolveTime? (results : List PartResult) : Option Duration :=
  Duration.sum? ((results.filter PartResult.isSolved).map PartResult.solveTime)

/-- The lines of the summary, unless a total leaves the range of durations. -/
def summary? (results : List PartResult) (elapsed : Elapsed) : Option (List String) := do
  let parse ← totalParseTime? results
  let solve ← totalSolveTime? results
  let computing ← parse.add? solve
  let solved := results.countP PartResult.isSolved
  let failed := results.length - solved
  return [
    "--- Summary ---",
    s!"Solvers: {solved} solved, {failed} failed",
    s!"Total parse time: {parse.shown}",
    s!"Total solve time: {solve.shown}",
    s!"Elapsed wall-clock time: {elapsed.shown}"] ++
    if elapsed.isZero then [] else [s!"Speedup factor: {speedup computing elapsed}"]

end Advent
