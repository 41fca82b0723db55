import Advent.Proofs.Solver.Calls
import Advent.Puzzle.Circuit.Solver

/-!
# What a board remembers

The signal of wire `a` is resolved at most once. A board that remembers one remembers the signal
in the circuit as it was read, since the rewired circuit of the second part is never kept. So a part
has the same answer on every board for a circuit, and no call takes a remembered signal away.
-/
namespace Advent.Circuits

/-- The board is one for the circuit, and what it remembers is the signal of `a` in it. -/
structure Remembers (circuit : Circuit) (board : Board) : Prop where
  circuit_eq : board.circuit = circuit
  signal : ∀ signal, board.signalOfA = some signal → (signalOn circuit "a").1 = .ok signal

variable {circuit : Circuit} {board : Board}

theorem Remembers.fresh (circuit : Circuit) : Remembers circuit ⟨circuit, none⟩ :=
  ⟨rfl, by simp⟩

/-- Asking for the signal of `a` comes to the same whether or not it is remembered. -/
theorem Remembers.originalSignal_cases (remembers : Remembers circuit board) :
    (∃ error records, (signalOn circuit "a").1 = .error error ∧
        originalSignal board = (.error error, records)) ∨
      ∃ signal next records, (signalOn circuit "a").1 = .ok signal ∧
        originalSignal board = (.ok (signal, next), records) ∧ Remembers circuit next ∧
        next.signalOfA = some signal := by
  obtain ⟨rfl, signal⟩ := remembers
  unfold originalSignal
  cases known : board.signalOfA with
  | some first =>
    exact Or.inr ⟨first, board, [], signal first known, rfl, ⟨rfl, signal⟩, known⟩
  | none =>
    cases resolved : signalOn board.circuit "a" with
    | mk outcome records =>
      cases outcome with
      | error error => exact Or.inl ⟨error, records, rfl, rfl⟩
      | ok first =>
        refine Or.inr ⟨first, { board with signalOfA := some first }, records, rfl, rfl,
          ⟨rfl, fun other same => ?_⟩, rfl⟩
        cases same
        exact congrArg Prod.fst resolved

/-- The answer to a part without anything remembered. -/
def answerFor (circuit : Circuit) (part : Nat) : Except SolveError String :=
  match (signalOn circuit "a").1 with
  | .error error => .error (.failed error.message)
  | .ok signal =>
    if part = 1 then .ok (toString signal.toNat)
    else if "b" ∈ circuit.wires then
      match (signalOn (rewired circuit signal) "a").1 with
      | .error error => .error (.failed error.message)
      | .ok signal => .ok (toString signal.toNat)
    else .error (.failed (CircuitError.nothingToOverride "b").message)

theorem Remembers.answer_eq (remembers : Remembers circuit board) (part : Nat) :
    (solvePart part board).answer = answerFor circuit part := by
  unfold solvePart answerFor
  rcases remembers.originalSignal_cases with
    ⟨error, records, resolved, failed⟩ | ⟨signal, next, records, resolved, found, later, _⟩
  · rw [failed, resolved]
    rfl
  · simp only [found, resolved, later.circuit_eq]
    split
    · rfl
    · split
      · obtain ⟨outcome, more⟩ := signalOn (rewired circuit signal) "a"
        cases outcome <;> rfl
      · rfl

theorem Remembers.state_of_failed (remembers : Remembers circuit board) {error : CircuitError}
    (failed : (signalOn circuit "a").1 = .error error) (part : Nat) :
    (solvePart part board).state = board := by
  unfold solvePart
  rcases remembers.originalSignal_cases with ⟨_, _, _, refused⟩ | ⟨_, _, _, resolved, _⟩
  · rw [refused]
    rfl
  · cases failed.symm.trans resolved

/-- Every part remembers the signal of `a` if there is one, whether or not it has an answer. -/
theorem Remembers.state_of_resolved (remembers : Remembers circuit board) {signal : Signal}
    (resolved : (signalOn circuit "a").1 = .ok signal) (part : Nat) :
    Remembers circuit (solvePart part board).state ∧
      (solvePart part board).state.signalOfA = some signal := by
  unfold solvePart
  rcases remembers.originalSignal_cases with ⟨_, _, failed, _⟩ | ⟨_, next, _, again, found, known⟩
  · cases resolved.symm.trans failed
  · cases resolved.symm.trans again
    simp only [found]
    split
    · exact known
    · split
      · obtain ⟨outcome, more⟩ := signalOn (rewired next.circuit signal) "a"
        cases outcome with
        | error error => exact known
        | ok second => exact known
      · exact known

theorem memoises (circuit : Circuit) :
    Dispatch.Memoises solvePart (Remembers circuit) Board.signalOfA
      fun signal => (signalOn circuit "a").1 = .ok signal where
  unique first second resolved resolved' := by
    cases resolved.symm.trans resolved'
    rfl
  sound _ signal remembers known := remembers.signal signal known
  step_cases board part remembers := by
    cases resolved : (signalOn circuit "a").1 with
    | error error => exact Or.inl (remembers.state_of_failed resolved part)
    | ok signal =>
      obtain ⟨later, known⟩ := remembers.state_of_resolved resolved part
      exact Or.inr ⟨later, signal, rfl, known⟩

theorem parse_remembers {input : String} {board : Board} (read : parse input = .ok board) :
    Remembers board.circuit board := by
  unfold parse at read
  split at read
  · cases read
    exact ⟨rfl, by simp⟩
  · cases read

theorem solver_keeps :
    solver.Keeps fun fresh state =>
      Remembers fresh.circuit fresh ∧ Remembers fresh.circuit state := by
  refine Dispatch.keeps_of_family parse ?_ ?_ ?_
  · intro input fresh read
    exact ⟨parse_remembers read, parse_remembers read⟩
  · intro fresh state part sound
    exact (sound.2.answer_eq part).trans (sound.1.answer_eq part).symm
  · intro fresh state part sound
    exact ⟨sound.1, (memoises fresh.circuit).step state part sound.2⟩

theorem answers_eq_freshAnswers (circuit : Circuit) (calls : List Nat) :
    solver.answers (⟨circuit, none⟩ : Board) calls =
      solver.freshAnswers (⟨circuit, none⟩ : Board) calls :=
  have fresh := Remembers.fresh circuit
  solver_keeps.answers_eq (And.intro fresh fresh) calls

theorem stateAfter_remembers (circuit : Circuit) (calls : List Nat) :
    Remembers circuit (solver.stateAfter (⟨circuit, none⟩ : Board) calls) :=
  have fresh : Remembers (Board.mk circuit none).circuit ⟨circuit, none⟩ := .fresh circuit
  (solver_keeps.stateAfter (And.intro fresh fresh) calls).2

/-- What calls leave remembered is what a new board answers to part 1, and stays so. -/
theorem remembered_signal {input : String} {board : Board} (read : parse input = .ok board)
    {calls : List Nat} {signal : Signal}
    (known : (solver.stateAfter board calls).signalOfA = some signal) :
    (signalOn board.circuit "a").1 = .ok signal ∧
      (solver.solveChecked board 1).answer = .ok (toString signal.toNat) ∧
      ∀ more, (solver.stateAfter board (calls ++ more)).signalOfA = some signal := by
  have fresh := parse_remembers read
  have later := (solver_keeps.stateAfter (And.intro fresh fresh) calls).2
  have resolved := later.signal signal known
  refine ⟨resolved, ?_, fun more => ?_⟩
  · have called := Dispatch.solveChecked_of_within parse solvePart board
      (show 1 ≤ 1 ∧ 1 ≤ 2 by decide)
    refine (congrArg Step.answer called).trans ((fresh.answer_eq 1).trans ?_)
    simp only [answerFor, resolved, if_true]
  · have both := solver.stateAfter_append board calls more
    exact (congrArg Board.signalOfA both).trans
      ((memoises board.circuit).memory_stateAfter parse later known more)

end Advent.Circuits
