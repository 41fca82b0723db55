import Advent.Calendar
import Advent.Proofs.Puzzle.Circuit.Orders
import Advent.Proofs.Puzzle.Coins
import Advent.Proofs.Puzzle.Houses
import Advent.Proofs.Registry.Factories

/-!
# Answers do not depend on earlier calls

Six days leave the state as it is. Days 4 and 7 remember the answer to their first part, and what
they remember is what a new instance would find. So an instance answers every call as a new one
does, whatever it was asked before and whether or not that failed. For day 7 the new instance may
even list the circuit in another order, which only shows in the stuck wires that an answer names.
-/
namespace Advent.Calendar

theorem houses_independent : Houses.solver.Independent := by
  refine Dispatch.independent_of_stateless Houses.parse fun part directions => ?_
  split <;> exact Houses.visit_state ..

theorem plugins_independent : ∀ plugin ∈ plugins, plugin.solver.Independent := by
  simp only [plugins, List.forall_mem_cons, List.not_mem_nil, false_imp_iff, implies_true,
    and_true]
  refine ⟨?_, ?_, houses_independent, ?_, ?_, ?_, ?_, ?_⟩
  case refine_3 => exact (Coins.solverWith_keeps Hash.Md5.digest).independent
  case refine_6 => exact Circuits.solver_keeps.independent
  all_goals exact Dispatch.independent_of_stateless _ fun _ _ => rfl

/-- Every call is answered as on a new instance, and what days 4 and 7 remember is what a new
instance answers to part 1. Where the new instance lists the circuit in another order, the answers
are the same but for the stuck wires that they name, and what is remembered is the same. -/
theorem calls_answered_as_fresh :
    (∀ plugin ∈ plugins, ∀ input running fresh, plugin.entry.factory.create input = .ok running →
      plugin.entry.factory.create input = .ok fresh →
        ∀ calls, running.answers calls = fresh.freshAnswers calls) ∧
    (∀ input board, Circuits.parse input = .ok board → ∀ calls signal,
      (Circuits.solver.stateAfter board calls).signalOfA = some signal →
        (Circuits.signalOn board.circuit "a").1 = .ok signal ∧
        (Circuits.solver.solveChecked board 1).answer = .ok (toString signal.toNat) ∧
        ∀ more, (Circuits.solver.stateAfter board (calls ++ more)).signalOfA = some signal) ∧
    (∀ input prospect, Coins.parse input = .ok prospect → ∀ calls number,
      (Coins.solver.stateAfter prospect calls).fiveZeroes = some number →
        (Coins.solver.solveChecked prospect 1).answer = .ok (toString number) ∧
        Coins.mine Hash.Md5.digest prospect.key 6 number =
          Coins.mine Hash.Md5.digest prospect.key 6 1 ∧
        ∀ more, (Coins.solver.stateAfter prospect (calls ++ more)).fiveZeroes = some number) ∧
    ∀ input board, Circuits.parse input = .ok board → ∀ order order' : Circuits.Circuit,
      order.Perm board.circuit → order'.Perm board.circuit → ∀ calls,
        List.Forall₂ Circuits.AnsweredAlike
          (Circuits.solver.answers (⟨order, none⟩ : Circuits.Board) calls)
          (Circuits.solver.freshAnswers (⟨order', none⟩ : Circuits.Board) calls) ∧
        ∀ signal, (Circuits.solver.stateAfter (⟨order, none⟩ : Circuits.Board) calls).signalOfA =
          some signal → (Circuits.signalOn order' "a").1 = .ok signal := by
  refine ⟨?_, ?_, ?_, ?_⟩
  · intro plugin member input running fresh created again calls
    cases created.symm.trans again
    have independent := plugins_independent plugin member
    obtain ⟨same, read⟩ := (Factory.create_eq_ok_iff ..).mp created
    exact running.answers_eq_freshAnswers read (same ▸ independent) calls
  · intro input board read calls signal known
    exact Circuits.remembered_signal read known
  · intro input prospect read calls number known
    exact Coins.remembered_coin read known
  · intro input board read order order' listed listed' calls
    have wellFormed := ((Circuits.parse_eq_ok_iff ..).mp read).2.1
    constructor
    · exact Circuits.freshAnswers_of_perm wellFormed listed listed' calls
    · exact fun signal => Circuits.signalOn_of_remembered wellFormed listed listed'

/-- The calls are one that answers with `b` rewired and one out of range; the new instances of the
last clause list the wires the other way round. -/
theorem calls_answered_as_fresh_on_two_wires :
    ∃ board, Circuits.parse "5 -> b\nb LSHIFT 1 -> a" = .ok board ∧
      (Circuits.solver.stateAfter board [2, 0]).signalOfA = some 10 ∧
      (Circuits.solver.solveChecked board 1).answer = .ok "10" ∧
      (∀ more, (Circuits.solver.stateAfter board ([2, 0] ++ more)).signalOfA = some 10) ∧
      List.Forall₂ Circuits.AnsweredAlike (Circuits.solver.answers board [2, 0])
        (Circuits.solver.freshAnswers (⟨board.circuit.reverse, none⟩ : Circuits.Board) [2, 0]) := by
  let circuit : Circuits.Circuit :=
    [⟨"b", .assign (.value 5)⟩, ⟨"a", .leftShift (.wire "b") (.value 1)⟩]
  have read : Circuits.parse "5 -> b\nb LSHIFT 1 -> a" = .ok ⟨circuit, none⟩ := rfl
  have resolved : (Circuits.signalOn circuit "a").1 = .ok 10 := by
    simp [circuit, Circuits.signalOn, Circuits.resolve, Circuits.settle, Circuits.sweep,
      Circuits.Gate.output, Circuits.Operand.read, Circuits.lookup, Except.mapError,
      Circuits.shiftLeft]
    rfl
  have known : (Circuits.solver.stateAfter ⟨circuit, none⟩ [2, 0]).signalOfA = some 10 :=
    ((Circuits.parse_remembers read).state_of_resolved resolved 2).2
  obtain ⟨_, answer, stays⟩ := calls_answered_as_fresh.2.1 _ _ read _ _ known
  have alike := (calls_answered_as_fresh.2.2.2 _ _ read circuit circuit.reverse (.refl _)
    (List.reverse_perm circuit) [2, 0]).1
  exact ⟨_, read, known, answer, stays, alike⟩

end Advent.Calendar
