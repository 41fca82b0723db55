import Advent.Proofs.Solver.Faults
import Advent.Proofs.Text.Reading
import Advent.Puzzle.Houses

/-!
# Walks within a word

After so many steps both coordinates of a walker are at most that far from zero. Each route has at
most as many directions as the text has bytes, so no walk leaves the words of its coordinates if the
text is short enough.
-/
namespace Advent.Houses

/-- Both coordinates are at most so far from zero. -/
def Position.Within (distance : Nat) (position : Position) : Prop :=
  position.x.natAbs ≤ distance ∧ position.y.natAbs ≤ distance

theorem Position.step_of_within {position : Position} {taken : Nat}
    (near : position.Within taken) (short : taken + 1 < Word.size 31) (direction : Direction) :
    ∃ next, position.step direction = some next ∧ next.Within (taken + 1) := by
  have up {value : Int} (close : value.natAbs ≤ taken) :
      Word.signed32? (value + 1) = some (value + 1) :=
    Word.signed32?_of_natAbs_lt (by omega)
  have down {value : Int} (close : value.natAbs ≤ taken) :
      Word.signed32? (value - 1) = some (value - 1) :=
    Word.signed32?_of_natAbs_lt (by omega)
  obtain ⟨x_near, y_near⟩ := near
  -- One coordinate changes by one and the other stays as it is.
  cases direction <;>
    simp only [step, up x_near, up y_near, down x_near, down y_near, Option.map_some] <;>
    exact ⟨_, rfl, by simp only; omega, by simp only; omega⟩

theorem Walk.along_of_short {directions : List Direction}
    (short : directions.length < Word.size 31) :
    ∃ walk, Walk.along directions = some walk ∧ walk.position.Within directions.length := by
  refine foldlM_of_steps (fun taken (walk : Walk) => walk.position.Within taken) ?_
    ⟨Nat.le_refl 0, Nat.le_refl 0⟩
  intro taken walk direction _ near within
  obtain ⟨next, stepped, close⟩ := walk.position.step_of_within near (by omega) direction
  exact ⟨_, congrArg _ stepped, close⟩

theorem visit_of_short (directions : List Direction) {routes : List (List Direction)}
    (short : ∀ route ∈ routes, route.length < Word.size 31) :
    ∃ text, (visit directions routes).answer = .ok text := by
  have walked : ∃ walks, routes.mapM Walk.along = some walks := by
    induction routes with
    | nil => exact ⟨[], rfl⟩
    | cons route rest ih =>
      obtain ⟨head, tail⟩ := List.forall_mem_cons.mp short
      obtain ⟨walk, first, _⟩ := Walk.along_of_short head
      obtain ⟨walks, others⟩ := ih tail
      exact ⟨walk :: walks, by rw [List.mapM_cons, first, others]; rfl⟩
  obtain ⟨walks, walked⟩ := walked
  unfold visit
  rw [walked]
  exact ⟨_, rfl⟩

theorem length_turns_le (turn : Nat) (directions : List Direction) :
    (turns turn directions).length ≤ directions.length := by
  simpa [turns] using List.length_filterMap_le
    (fun (entry : Direction × Nat) => if entry.2 % 2 = turn then some entry.1 else none)
    directions.zipIdx

theorem visit_state (directions : List Direction) (routes : List (List Direction)) :
    (visit directions routes).state = directions := by
  unfold visit
  split <;> rfl

theorem length_le_of_parse {input : String} {directions : List Direction}
    (read : parse input = .ok directions) : directions.length ≤ input.utf8ByteSize :=
  Text.length_le_of_readTrimmed (Text.of_mapError_eq_ok read)

/-- One route in the first part, two that take turns in the second. -/
theorem solve_of_short {directions : List Direction} (short : directions.length < Word.size 31)
    (part : Nat) :
    ∃ text, (if part = 1 then visit directions [directions]
      else visit directions [turns 0 directions, turns 1 directions]).answer = .ok text := by
  split
  · exact visit_of_short directions (by simpa using short)
  · have turn_short (turn : Nat) : (turns turn directions).length < Word.size 31 :=
      Nat.lt_of_le_of_lt (length_turns_le turn directions) short
    exact visit_of_short directions (by simp [turn_short])

section Input

variable {input : String} (short : input.utf8ByteSize < Word.size 31)

include short

theorem solver_completesOn : solver.CompletesOn input :=
  Dispatch.completesOn_of_answers (fun _ _ => by split <;> exact visit_state ..) fun _ read =>
    solve_of_short (Nat.lt_of_le_of_lt (length_le_of_parse read) short)

theorem solver_answersOn : solver.AnswersOn input :=
  Dispatch.answersOn_of_stateless (fun _ _ => by split <;> exact visit_state ..) fun _ read =>
    solve_of_short (Nat.lt_of_le_of_lt (length_le_of_parse read) short)

end Input

end Advent.Houses
