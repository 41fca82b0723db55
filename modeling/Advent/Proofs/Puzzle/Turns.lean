import Advent.Proofs.Puzzle.Houses
import Mathlib.Algebra.BigOperators.Group.List.Basic
import Mathlib.Algebra.Group.Prod
import Mathlib.Algebra.Ring.Int.Defs
import Mathlib.Data.Finset.Card
import Mathlib.Data.Finset.Image
import Mathlib.Data.Finset.Union
import Mathlib.Data.List.Infix
import Mathlib.Data.List.Induction

/-!
# Walkers in turns

A direction is a vector, and a walk from the origin comes to the sums of the vectors of its first
parts. The first part of the puzzle counts the different sums. The second walks every other
direction and then the directions left out, and counts the places of both walks. These are the
places seen when two walkers move in turns. Of two walks that are interleaved it counts the union of
their places.
-/
namespace Advent.Houses

/-! ### Places -/

/-- How far a direction leads. -/
def Direction.vector : Direction → Int × Int
  | .north => (0, 1)
  | .south => (0, -1)
  | .east => (1, 0)
  | .west => (-1, 0)

/-- Where some moves lead from the origin. -/
def destination (moves : List Direction) : Int × Int :=
  (moves.map Direction.vector).sum

/-- The sums of the vectors of all first parts of the moves, the empty part among them. -/
def partialSums (moves : List Direction) : Finset (Int × Int) :=
  (moves.inits.map destination).toFinset

theorem destination_concat (moves : List Direction) (last : Direction) :
    destination (moves ++ [last]) = destination moves + last.vector := by
  simp [destination]

theorem partialSums_concat (moves : List Direction) (last : Direction) :
    partialSums (moves ++ [last]) =
      insert (destination (moves ++ [last])) (partialSums moves) := by
  have parts : (moves ++ [last]).inits = moves.inits ++ [moves ++ [last]] := by
    rw [List.inits_append]
    rfl
  ext place
  simp [partialSums, parts]

/-! ### Walks -/

/-- The coordinates as one pair. -/
def Position.place (position : Position) : Int × Int :=
  (position.x, position.y)

theorem Position.place_injective : Function.Injective Position.place := by
  rintro ⟨x, y⟩ ⟨x', y'⟩ same
  simpa [place] using same

theorem Position.place_step {position next : Position} {direction : Direction}
    (stepped : position.step direction = some next) :
    next.place = position.place + direction.vector := by
  cases direction <;>
  · obtain ⟨moved, within, rfl⟩ := Option.map_eq_some_iff.mp stepped
    unfold Word.signed32? at within
    split at within
    · cases within
      simp [place, Direction.vector, sub_eq_add_neg]
    · cases within

/-- The places of positions, each once. -/
def places (positions : List Position) : Finset (Int × Int) :=
  positions.toFinset.image Position.place

theorem distinct_eq_card (positions : List Position) :
    distinct positions = (places positions).card := by
  have once : (Std.HashSet.ofList positions).toList.Nodup :=
    Std.HashSet.distinct_toList.imp fun different same => by simp [same] at different
  have same_members : (Std.HashSet.ofList positions).toList.toFinset = positions.toFinset := by
    ext position
    simp
  rw [distinct, places, Finset.card_image_of_injective _ Position.place_injective, ← same_members,
    List.toFinset_card_of_nodup once, Std.HashSet.length_toList]

theorem Walk.along_concat {moves : List Direction} {last : Direction} {walk : Walk}
    (walked : Walk.along (moves ++ [last]) = some walk) :
    ∃ before next, Walk.along moves = some before ∧ before.position.step last = some next ∧
      walk = ⟨next, next :: before.visited⟩ := by
  rw [along, List.foldlM_append] at walked
  obtain ⟨before, earlier, stepped⟩ := Option.bind_eq_some_iff.mp walked
  simp only [List.foldlM_cons, List.foldlM_nil, bind_pure] at stepped
  obtain ⟨next, moved, rfl⟩ := Option.map_eq_some_iff.mp stepped
  exact ⟨before, next, earlier, moved, rfl⟩

/-- A walk ends where its moves lead and has been at their partial sums. -/
theorem Walk.places_along {moves : List Direction} {walk : Walk}
    (walked : Walk.along moves = some walk) :
    walk.position.place = destination moves ∧ places walk.visited = partialSums moves := by
  -- Each move adds the last partial sum, so the induction adds moves at the end.
  induction moves using List.reverseRecOn generalizing walk with
  | nil =>
    cases walked
    exact ⟨rfl, by decide⟩
  | append_singleton moves last ih =>
    obtain ⟨before, next, earlier, stepped, rfl⟩ := Walk.along_concat walked
    obtain ⟨here, been⟩ := ih earlier
    have there : next.place = destination (moves ++ [last]) := by
      rw [Position.place_step stepped, here, destination_concat]
    refine ⟨there, ?_⟩
    rw [partialSums_concat, ← been, ← there]
    simp [places, Finset.image_insert]

theorem places_append (first second : List Position) :
    places (first ++ second) = places first ∪ places second := by
  rw [places, List.toFinset_append, Finset.image_union]
  rfl

/-- What is counted is the places of all routes together. -/
theorem visit_answer (directions : List Direction) (routes : List (List Direction))
    (short : ∀ route ∈ routes, route.length < Word.size 31) :
    (visit directions routes).answer =
      .ok (toString (routes.foldr (fun route others => partialSums route ∪ others) ∅).card) := by
  have walked : ∃ walks, routes.mapM Walk.along = some walks ∧
      places (walks.flatMap Walk.visited) =
        routes.foldr (fun route others => partialSums route ∪ others) ∅ := by
    induction routes with
    | nil => exact ⟨[], rfl, rfl⟩
    | cons route rest ih =>
      obtain ⟨head, tail⟩ := List.forall_mem_cons.mp short
      obtain ⟨walk, first, _⟩ := Walk.along_of_short head
      obtain ⟨walks, others, been⟩ := ih tail
      refine ⟨walk :: walks, by rw [List.mapM_cons, first, others]; rfl, ?_⟩
      rw [List.flatMap_cons, places_append, been, (Walk.places_along first).2, List.foldr_cons]
  obtain ⟨walks, walked, been⟩ := walked
  unfold visit
  rw [walked, ← been, ← distinct_eq_card]

/-! ### Two walkers -/

/-- Where two walkers stand, and all places where one of them has been. -/
structure Simulation where
  walkers : Fin 2 → Int × Int
  seen : Finset (Int × Int)

namespace Simulation

def start : Simulation :=
  ⟨fun _ => 0, {0}⟩

/-- Moves the walker whose number the number of the move leaves when halved. -/
def move (simulation : Simulation) : Direction × Nat → Simulation
  | (direction, index) =>
    let walker := Fin.ofNat 2 index
    let place := simulation.walkers walker + direction.vector
    ⟨Function.update simulation.walkers walker place, insert place simulation.seen⟩

/-- All moves, numbered from zero. -/
def run (moves : List Direction) : Simulation :=
  moves.zipIdx.foldl move start

theorem run_concat (moves : List Direction) (last : Direction) :
    run (moves ++ [last]) = (run moves).move (last, moves.length) := by
  simp [run, List.zipIdx_append]

end Simulation

theorem turns_concat_own (moves : List Direction) (last : Direction) :
    turns (moves.length % 2) (moves ++ [last]) = turns (moves.length % 2) moves ++ [last] := by
  simp [turns, List.zipIdx_append]

theorem turns_concat_other (turn : Nat) {moves : List Direction}
    (different : moves.length % 2 ≠ turn) (last : Direction) :
    turns turn (moves ++ [last]) = turns turn moves := by
  simp [turns, List.zipIdx_append, different]

/-- Each walker stands where its own moves lead, and the places seen are those of both walks. -/
theorem run_turns (moves : List Direction) :
    (∀ walker, (Simulation.run moves).walkers walker = destination (turns walker moves)) ∧
      (Simulation.run moves).seen = partialSums (turns 0 moves) ∪ partialSums (turns 1 moves) := by
  induction moves using List.reverseRecOn with
  | nil => exact ⟨fun _ => rfl, by decide⟩
  | append_singleton moves last ih =>
    obtain ⟨stand, seen⟩ := ih
    have own := turns_concat_own moves last
    have place : (Simulation.run moves).walkers (Fin.ofNat 2 moves.length) + last.vector =
        destination (turns (moves.length % 2) (moves ++ [last])) := by
      rw [own, destination_concat, stand]
      rfl
    rw [Simulation.run_concat]
    simp only [Simulation.move, place]
    constructor
    · intro walker
      by_cases moved : walker = Fin.ofNat 2 moves.length
      · subst moved
        rw [Function.update_self]
        rfl
      · have different : moves.length % 2 ≠ walker := fun same => moved (Fin.ext same.symm)
        rw [Function.update_of_ne moved, stand, turns_concat_other _ different]
    · -- The new place belongs to the walk of the walker that moves.
      rw [seen]
      rcases Nat.mod_two_eq_zero_or_one moves.length with even | odd
      · rw [even] at own
        rw [even, turns_concat_other 1 (by omega), own, partialSums_concat,
          Finset.insert_union]
      · rw [odd] at own
        rw [odd, turns_concat_other 0 (by omega), own, partialSums_concat,
          Finset.union_insert]

/-! ### Interleaved walks -/

/-- The items of two lists in turns, from the first item of the first list on. -/
def interleave {α : Type} : List α → List α → List α
  | [], second => second
  | item :: first, second => item :: interleave second first
termination_by first second => first.length + second.length
decreasing_by
  simp only [List.length_cons]
  omega

/-- Lists that can take turns to their ends. -/
def TakeTurns {α : Type} (first second : List α) : Prop :=
  first.length = second.length ∨ first.length = second.length + 1

/-- The moves in places with the number of a turn, when numbers go up from the given one. -/
theorem filterMap_interleave {first second : List Direction} (fair : TakeTurns first second)
    (index : Nat) :
    let kept (turn : Nat) := ((interleave first second).zipIdx index).filterMap
      fun (direction, index) => if index % 2 = turn then some direction else none
    kept (index % 2) = first ∧ kept ((index + 1) % 2) = second := by
  induction first, second using interleave.induct generalizing index with
  | case1 second =>
    obtain rfl : second = [] := by
      rcases fair with same | more
      · exact List.length_eq_zero_iff.mp same.symm
      · simp at more
    simp [interleave]
  | case2 second item first ih =>
    -- The second list begins at the next number and is as long as the rest or longer by one.
    obtain ⟨theirs, ours⟩ := ih (by unfold TakeTurns at fair ⊢; simp at fair; omega) (index + 1)
    have again : (index + 1 + 1) % 2 = index % 2 := by omega
    have apart : index % 2 ≠ (index + 1) % 2 := by omega
    rw [again] at ours
    rw [interleave]
    simp only [List.zipIdx_cons, List.filterMap_cons, if_true, if_neg apart, ours, theirs]
    trivial

theorem turns_interleave {first second : List Direction} (fair : TakeTurns first second) :
    turns 0 (interleave first second) = first ∧ turns 1 (interleave first second) = second :=
  filterMap_interleave fair 0

/-! ### Answers -/

/-- The first part answers how many partial sums there are, the second how many places two walkers
see that move in turns; of interleaved moves these are the places of both walks. -/
theorem houses_counted_in_turns {directions : List Direction} (short : directions.length < 2 ^ 31) :
    (solver.solveChecked directions 1).answer =
        .ok (toString (partialSums directions).card) ∧
      (solver.solveChecked directions 2).answer =
        .ok (toString (Simulation.run directions).seen.card) ∧
      ∀ first second, directions = interleave first second →
        first.length = second.length ∨ first.length = second.length + 1 →
        (solver.solveChecked directions 2).answer =
          .ok (toString (partialSums first ∪ partialSums second).card) := by
  have size_eq : Word.size 31 = 2 ^ 31 := by decide
  rw [← size_eq] at short
  have turn_short (turn : Nat) : (turns turn directions).length < Word.size 31 :=
    Nat.lt_of_le_of_lt (length_turns_le turn directions) short
  have one := visit_answer directions [directions] (by simpa using short)
  have two := visit_answer directions [turns 0 directions, turns 1 directions]
    (by simp [turn_short])
  simp only [List.foldr_cons, List.foldr_nil, Finset.union_empty] at one two
  refine ⟨one, ?_, ?_⟩
  · rw [(run_turns directions).2]
    exact two
  · rintro first second rfl fair
    obtain ⟨ours, theirs⟩ := turns_interleave fair
    exact two.trans (by rw [ours, theirs])

/-- Of three moves the first walker makes two. -/
theorem three_houses_in_turns :
    [Direction.north, .east, .south].length < 2 ^ 31 ∧
      (solver.solveChecked [.north, .east, .south] 1).answer = .ok "4" ∧
      (solver.solveChecked [.north, .east, .south] 2).answer = .ok "3" ∧
      (partialSums [.north, .south] ∪ partialSums [.east]).card = 3 := by
  have short : [Direction.north, .east, .south].length < 2 ^ 31 := by decide
  obtain ⟨one, _, both⟩ := houses_counted_in_turns short
  have four : (partialSums [.north, .east, .south]).card = 4 := by decide
  have three : (partialSums [.north, .south] ∪ partialSums [.east]).card = 3 := by decide
  have two := both [.north, .south] [.east] (by simp [interleave]) (Or.inr rfl)
  rw [four] at one
  rw [three] at two
  exact ⟨short, one, two, three⟩

end Advent.Houses
