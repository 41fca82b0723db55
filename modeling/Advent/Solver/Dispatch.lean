import Advent.Solver.Basic

/-!
# Dispatch of part numbers

A dispatch is a count of parts with one arm for each part that it runs. A part number with an arm runs
the part solver of that number; any other is not implemented and leaves the state as it is.
-/
namespace Advent

structure Dispatch where
  parts : Nat
  arms : List Nat
  deriving Repr, DecidableEq

namespace Dispatch

/-- One arm for each part from one to the count. -/
def upTo (parts : Nat) : Dispatch :=
  ⟨parts, List.range' 1 parts⟩

def solve {σ : Type} (dispatch : Dispatch) (family : Nat → σ → Step σ) (state : σ) (part : Nat) :
    Step σ :=
  if part ∈ dispatch.arms then family part state else .failed state (.partNotImplemented part)

/-- The solver that a reader and a family of part solvers make. -/
def solver {σ : Type} (dispatch : Dispatch) (parse : String → Except ParseError σ)
    (family : Nat → σ → Step σ) : Solver where
  State := σ
  parts := dispatch.parts
  parse := parse
  solve := dispatch.solve family

theorem mem_upTo_arms (parts part : Nat) :
    part ∈ (upTo parts).arms ↔ 1 ≤ part ∧ part ≤ parts := by
  simp only [upTo, List.mem_range'_1]
  omega

end Dispatch

end Advent
