import Advent.Solver.Error

/-!
# Slices

A slice of a list goes from one index up to another. It is a fault to ask for one whose indices are
not in order or reach past the end.
-/
namespace Advent.Text

variable {α : Type}

def slice (start stop : Nat) (items : List α) : Except Fault (List α) :=
  if start ≤ stop ∧ stop ≤ items.length then .ok ((items.drop start).take (stop - start))
  else .error .outOfBounds

/-- The slice that goes on to the end. -/
def sliceFrom (start : Nat) (items : List α) : Except Fault (List α) :=
  slice start items.length items

theorem slice_of_le {start stop : Nat} {items : List α} (ordered : start ≤ stop)
    (within : stop ≤ items.length) :
    slice start stop items = .ok ((items.drop start).take (stop - start)) :=
  if_pos ⟨ordered, within⟩

theorem sliceFrom_of_le {start : Nat} {items : List α} (within : start ≤ items.length) :
    sliceFrom start items = .ok (items.drop start) := by
  rw [sliceFrom, slice_of_le within (Nat.le_refl _), List.take_of_length_le (by simp)]

end Advent.Text
