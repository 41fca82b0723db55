import Advent.Log.Record
import Advent.Solver.Error

/-!
# Solvers

A solver reads an input into a state and answers numbered parts from it. A part may leave work in the
state for a later part to reuse, so a step returns the state that follows, whether or not it answers.
`solveChecked` refuses part numbers outside one to `parts` without running the solver.
-/
namespace Advent

universe u

/-- What one call of a part gives. -/
structure Step (σ : Type u) where
  answer : Except SolveError String
  state : σ
  records : List Log.Record := []

namespace Step

variable {σ : Type u}

/-- A step that leaves the state as it is. -/
def ofAnswer (state : σ) (answer : Except SolveError String) : Step σ :=
  { answer, state }

def failed (state : σ) (error : SolveError) : Step σ :=
  ofAnswer state (.error error)

end Step

structure Solver where
  State : Type
  parts : Nat
  parse : String → Except ParseError State
  solve : State → Nat → Step State

namespace Solver

def solveChecked (solver : Solver) (state : solver.State) (part : Nat) : Step solver.State :=
  if 1 ≤ part ∧ part ≤ solver.parts then solver.solve state part
  else .failed state (.partOutOfRange part)

/-- The answers to a sequence of calls, each on the state that the call before left. -/
def answers (solver : Solver) : solver.State → List Nat → List (Except SolveError String)
  | _, [] => []
  | state, part :: rest =>
    let step := solver.solveChecked state part
    step.answer :: answers solver step.state rest

theorem solveChecked_of_range (solver : Solver) (state : solver.State) (part : Nat)
    (positive : 1 ≤ part) (within : part ≤ solver.parts) :
    solver.solveChecked state part = solver.solve state part :=
  if_pos ⟨positive, within⟩

theorem solveChecked_out_of_range (solver : Solver) (state : solver.State) (part : Nat)
    (outside : ¬ (1 ≤ part ∧ part ≤ solver.parts)) :
    solver.solveChecked state part = .failed state (.partOutOfRange part) :=
  if_neg outside

end Solver

end Advent
