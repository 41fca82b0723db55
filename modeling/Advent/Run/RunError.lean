/-!
# Errors of a run

A run may fail to deliver results or to start its workers. Several errors are kept together in one
flat list in the order in which they came.
-/
namespace Advent

inductive RunError
  | undelivered
  | noWorkers (reason : String)
  | multiple (errors : List RunError)

namespace RunError

def message : RunError → String
  | .undelivered => "Channel send error"
  | .noWorkers reason => s!"Thread pool creation failed: {reason}"
  | .multiple errors => s!"Multiple errors occurred ({errors.length} total)"

/-- The errors that an error stands for. -/
def items : RunError → List RunError
  | .multiple errors => errors
  | error => [error]

/-- Both errors as one list, the first's before the second's. -/
def combine : RunError → RunError → RunError
  | .multiple earlier, .multiple later => .multiple (earlier ++ later)
  | first, .multiple later => .multiple (first :: later)
  | .multiple earlier, second => .multiple (earlier ++ [second])
  | first, second => .multiple [first, second]

theorem combine_eq (first second : RunError) :
    combine first second = .multiple (first.items ++ second.items) := by
  cases first <;> cases second <;> rfl

def combineWith (collected : Option RunError) (error : RunError) : RunError :=
  match collected with
  | some first => combine first error
  | none => error

/-- The error of two runs of which each may have gone well. -/
def merge : Option RunError → Option RunError → Option RunError
  | some first, some second => some (combine first second)
  | some first, none => some first
  | none, second => second

/-- The errors that there are, from the first on. -/
def collect (outcomes : List (Option RunError)) : Option RunError :=
  outcomes.foldl (fun collected outcome =>
    match outcome with
    | some error => some (combineWith collected error)
    | none => collected) none

end RunError

/-- The order in which the outcomes of groups are merged when groups run side by side. -/
inductive MergeTree (α : Type)
  | leaf (outcome : α)
  | node (left right : MergeTree α)

namespace MergeTree

variable {α : Type}

def leaves : MergeTree α → List α
  | .leaf outcome => [outcome]
  | .node left right => left.leaves ++ right.leaves

def merged : MergeTree (Option RunError) → Option RunError
  | .leaf outcome => outcome
  | .node left right => RunError.merge left.merged right.merged

end MergeTree

end Advent
