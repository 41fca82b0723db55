import Advent.Solver.Error

/-!
# Machine words

Results are kept within machine words. An operation whose exact result leaves its word has no result,
which the solvers report as a fault.
-/
namespace Advent.Word

/-- How many values a word of so many bits has. -/
def size (bits : Nat) : Nat :=
  1 <<< bits

/-- The greatest unsigned number of so many bits. -/
def greatest (bits : Nat) : Nat :=
  size bits - 1

/-- A signed word of 32 bits. -/
def signed32? (value : Int) : Option Int :=
  if -(size 31 : Int) ≤ value ∧ value < size 31 then some value else none

/-- An unsigned word of 32 bits. -/
def unsigned32? (value : Nat) : Option Nat :=
  if value < size 32 then some value else none

/-- An unsigned word of 64 bits. -/
def unsigned64? (value : Nat) : Option Nat :=
  if value < size 64 then some value else none

/-- An unsigned word of 128 bits. -/
def unsigned128? (value : Nat) : Option Nat :=
  if value < size 128 then some value else none

/-- The value, or the overflow fault. -/
def orOverflow {α : Type} : Option α → Except SolveError α
  | some value => .ok value
  | none => .error (.fault .overflow)

/-- The value, or the fault alone. -/
def orFault {α : Type} : Option α → Except Fault α
  | some value => .ok value
  | none => .error .overflow

/-- The difference of two unsigned words. -/
def difference (value less : Nat) : Except Fault Nat :=
  if less ≤ value then .ok (value - less) else .error .overflow

end Advent.Word
