import Advent.Proofs.Puzzle.Circuit.Rewiring

/-!
# Circuits in any order

The connections of a circuit are listed in some order, which decides little: in every order they
settle to the same signals, so all calls have the same answers, and where wires are stuck, as many of
them are. Only which of the stuck wires an answer names is up to the order.
-/
namespace Advent.Circuits

/-- The same answer, but for the stuck wires that it names. -/
inductive AnsweredAlike : Except SolveError String → Except SolveError String → Prop
  | same (answer : Except SolveError String) : AnsweredAlike answer answer
  | stuck (count : Nat) (sample sample' : List String) :
    AnsweredAlike (.error (.failed (CircuitError.stuck count sample).message))
      (.error (.failed (CircuitError.stuck count sample').message))

/-! ### Signals -/

theorem SameButForSample.bind {α β : Type} {first second : Except CircuitError α}
    (same : SameButForSample first second) (next : α → Except CircuitError β) :
    SameButForSample (first.bind next) (second.bind next) := by
  cases same with
  | same outcome => exact .same _
  | stuck count sample sample' => exact .stuck count sample sample'

/-- Of what a circuit settles to, a signal is only looked up. -/
theorem signalOn_eq (circuit : Circuit) (wire : Wire) :
    (signalOn circuit wire).1 =
      ((resolve circuit).map fun result => lookup result.1).bind fun signals =>
        (signals wire).elim (.error (.noWire wire)) .ok := by
  unfold signalOn
  cases resolve circuit with
  | error error => rfl
  | ok settled =>
    obtain ⟨signals, rounds⟩ := settled
    simp only [Except.map, Except.bind]
    cases lookup signals wire with
    | none => rfl
    | some signal => rfl

variable {circuit order order' : Circuit} (wellFormed : circuit.WellFormed)
  (listed : order.Perm circuit) (listed' : order'.Perm circuit)

theorem mem_wires_of_perm (listed : order.Perm circuit) (wire : Wire) :
    wire ∈ order.wires ↔ wire ∈ circuit.wires :=
  (listed.map Connection.wire).mem_iff

theorem connect_perm (listed : order.Perm circuit) (wire : Wire) (gate : Gate) :
    (order.connect wire gate).Perm (circuit.connect wire gate) := by
  unfold Circuit.connect
  simp only [mem_wires_of_perm listed]
  split
  · exact listed.map _
  · exact listed.append_right _

include wellFormed listed listed'

theorem signalOn_of_perm (wire : Wire) :
    SameButForSample (signalOn order wire).1 (signalOn order' wire).1 := by
  rw [signalOn_eq, signalOn_eq]
  exact (resolve_of_perm wellFormed listed listed').bind _

/-! ### Answers -/

theorem answerFor_of_perm (part : Nat) :
    AnsweredAlike (answerFor order part) (answerFor order' part) := by
  unfold answerFor
  have first := signalOn_of_perm wellFormed listed listed' "a"
  generalize (signalOn order "a").1 = outcome, (signalOn order' "a").1 = outcome' at first
  cases first with
  | stuck count sample sample' => exact .stuck count sample sample'
  | same outcome =>
    cases outcome with
    | error error => exact .same _
    | ok signal =>
      simp only [mem_wires_of_perm listed, mem_wires_of_perm listed']
      by_cases driven : "b" ∈ circuit.wires
      · -- The second part resolves the rewired circuit, whose connections have moved alike.
        have second := signalOn_of_perm (wellFormed.connect driven)
          (connect_perm listed "b" (.assign (.value signal)))
          (connect_perm listed' "b" (.assign (.value signal))) "a"
        simp only [rewired, if_pos driven]
        generalize (signalOn (order.connect "b" (.assign (.value signal))) "a").1 = again,
          (signalOn (order'.connect "b" (.assign (.value signal))) "a").1 = again' at second
        by_cases one : part = 1
        · simp only [if_pos one]
          exact .same _
        · simp only [if_neg one]
          cases second with
          | same again => exact .same _
          | stuck count sample sample' => exact .stuck count sample sample'
      · simp only [if_neg driven]
        exact .same _

theorem solveChecked_of_perm (part : Nat) :
    AnsweredAlike (solver.solveChecked (⟨order, none⟩ : Board) part).answer
      (solver.solveChecked (⟨order', none⟩ : Board) part).answer := by
  by_cases within : 1 ≤ part ∧ part ≤ 2
  · have answered (circuit : Circuit) :
        (solver.solveChecked (⟨circuit, none⟩ : Board) part).answer = answerFor circuit part :=
      (congrArg Step.answer (Dispatch.solveChecked_of_within parse solvePart _ within)).trans
        ((Remembers.fresh circuit).answer_eq part)
    rw [answered order, answered order']
    exact answerFor_of_perm wellFormed listed listed' part
  · -- A part out of range is refused before the circuit is looked at.
    have refused (board : Board) := congrArg Step.answer
      (solver.solveChecked_out_of_range board part within)
    rw [refused ⟨order, none⟩, refused ⟨order', none⟩]
    exact .same _

/-- Calls on a board for one order, and each of them on a new board for another order. -/
theorem freshAnswers_of_perm (calls : List Nat) :
    List.Forall₂ AnsweredAlike (solver.answers (⟨order, none⟩ : Board) calls)
      (solver.freshAnswers (⟨order', none⟩ : Board) calls) := by
  rw [answers_eq_freshAnswers]
  apply List.forall₂_map_left_iff.mpr
  apply List.forall₂_map_right_iff.mpr
  exact List.forall₂_same.mpr fun part _ =>
    solveChecked_of_perm wellFormed listed listed' part

/-- In whatever orders the connections are listed, all calls are answered alike. -/
theorem answers_of_perm (calls : List Nat) :
    List.Forall₂ AnsweredAlike (solver.answers (⟨order, none⟩ : Board) calls)
      (solver.answers (⟨order', none⟩ : Board) calls) := by
  rw [answers_eq_freshAnswers order']
  exact freshAnswers_of_perm wellFormed listed listed' calls

/-- What calls leave remembered is the signal in every order. -/
theorem signalOn_of_remembered {calls : List Nat} {signal : Signal}
    (known : (solver.stateAfter (⟨order, none⟩ : Board) calls).signalOfA = some signal) :
    (signalOn order' "a").1 = .ok signal := by
  have resolved := (stateAfter_remembers order calls).signal signal known
  have same := signalOn_of_perm wellFormed listed listed' "a"
  rw [resolved] at same
  generalize (signalOn order' "a").1 = outcome at same
  cases same
  rfl

end Advent.Circuits
