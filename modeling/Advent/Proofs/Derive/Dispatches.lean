import Advent.Proofs.Derive.Arguments
import Advent.Proofs.Derive.Expansions
import Advent.Proofs.Solver.Calls

/-!
# Arms and the range of parts

The dispatch of an accepted item has one arm for each part from one to the last count among its
arguments, and the code that the item expands to has these arms. So the part numbers with an arm are
those that the range check lets through: what a dispatch does without an arm shows when it is asked
on its own, and never through an instance.
-/
namespace Advent

namespace Dispatch

variable {σ : Type}

/-- The arms are those of the parts in range. -/
def CoversRange (dispatch : Dispatch) : Prop :=
  ∀ part, part ∈ dispatch.arms ↔ 1 ≤ part ∧ part ≤ dispatch.parts

/-- The solver of the same arms that takes some other step where a part has none. -/
def solverOr (dispatch : Dispatch) (parse : String → Except ParseError σ)
    (family fallback : Nat → σ → Step σ) : Solver where
  State := σ
  parts := dispatch.parts
  parse := parse
  solve state part := if part ∈ dispatch.arms then family part state else fallback part state

theorem upTo_coversRange (parts : Nat) : (upTo parts).CoversRange :=
  mem_upTo_arms parts

section Range

variable {dispatch : Dispatch} (covers : dispatch.CoversRange)
  (parse : String → Except ParseError σ) (family fallback : Nat → σ → Step σ)

include covers

theorem solve_eq_of_coversRange (state : σ) (part : Nat) :
    dispatch.solve family state part =
      if 1 ≤ part ∧ part ≤ dispatch.parts then family part state
      else .failed state (.partNotImplemented part) := by
  simp only [solve, covers part]

/-- Behind the range check the arms are all that is reached. -/
theorem solveChecked_solverOr (state : σ) (part : Nat) :
    (dispatch.solverOr parse family fallback).solveChecked state part =
      if 1 ≤ part ∧ part ≤ dispatch.parts then family part state
      else .failed state (.partOutOfRange part) := by
  unfold Solver.solveChecked
  by_cases within : 1 ≤ part ∧ part ≤ dispatch.parts
  · rw [if_pos within]
    refine (if_pos within).trans ?_
    exact if_pos ((covers part).mpr within)
  · rw [if_neg within]
    exact if_neg within

theorem solveChecked_solverOr_eq (state : σ) (part : Nat) :
    (dispatch.solverOr parse family fallback).solveChecked state part =
      (dispatch.solver parse family).solveChecked state part :=
  -- The solver of the dispatch is the one that refuses such a part as not implemented.
  (solveChecked_solverOr covers parse family fallback state part).trans
    (solveChecked_solverOr covers parse family _ state part).symm

/-- No sequence of calls tells what would be done without an arm. -/
theorem calls_solverOr_eq (state : σ) (calls : List Nat) :
    (dispatch.solverOr parse family fallback).answers state calls =
        (dispatch.solver parse family).answers state calls ∧
      (dispatch.solverOr parse family fallback).stateAfter state calls =
        (dispatch.solver parse family).stateAfter state calls := by
  induction calls generalizing state with
  | nil => exact ⟨rfl, rfl⟩
  | cons part rest ih =>
    -- Both take the same step, so the rest is called on the same state.
    have same := solveChecked_solverOr_eq covers parse family fallback state part
    obtain ⟨answers, final⟩ := ih ((dispatch.solver parse family).solveChecked state part).state
    constructor
    · refine congrArg₂ List.cons (congrArg Step.answer same) (Eq.trans ?_ answers)
      exact congrArg (Solver.answers (dispatch.solverOr parse family fallback) · rest)
        (congrArg Step.state same)
    · refine Eq.trans ?_ final
      exact congrArg (Solver.stateAfter (dispatch.solverOr parse family fallback) · rest)
        (congrArg Step.state same)

end Range

end Dispatch

namespace Derive

/-- The arguments in which an item counts its parts. -/
def partsArguments (item : Item) : Except DeriveError (List Token) :=
  argumentsOf item "aoc_solver" "AocSolver" "#[aoc_solver(max_parts = N)]"

theorem dispatchOf_eq_ok_iff {item : Item} {dispatch : Dispatch} :
    dispatchOf item = .ok dispatch ↔
      ∃ tokens counts parts, partsArguments item = .ok tokens ∧
        Lists CountWritten counts tokens ∧ counts.getLast? = some parts ∧ 1 ≤ parts ∧
        dispatch = .upTo parts := by
  have steps : dispatchOf item = partsArguments item >>= dispatchOfArguments := rfl
  rw [steps, bind_eq_ok_iff]
  simp only [dispatchOfArguments_eq_ok_iff]
  constructor
  · rintro ⟨tokens, found, counts, parts, facts⟩
    exact ⟨tokens, counts, parts, found, facts⟩
  · rintro ⟨tokens, counts, parts, found, facts⟩
    exact ⟨tokens, found, counts, parts, facts⟩

/-- The code that an accepted item expands to is an implementation for the item, with the last count
of its arguments as its range. Asked on its own it runs the part solvers of the parts in range, and
refuses the others as not implemented; the range check gives the same for the parts in range and
refuses the others as out of range. So through an instance it never shows what the code does for a
part without an arm. -/
theorem dispatch_agrees_with_range {item : Item} {code : List Token}
    (accepted : expandSolver item = .ok code) :
    ∃ dispatch implementation, dispatchOf item = .ok dispatch ∧
      code = dispatchTokens item.name dispatch ∧
      Implementation.ofTokens? code = some implementation ∧
      implementation = ⟨item.name, dispatch.parts,
        (List.range' 1 dispatch.parts).map (fun part => .run part part) ++ [.refuse]⟩ ∧
      (∃ tokens counts, partsArguments item = .ok tokens ∧
        Lists CountWritten counts tokens ∧ counts.getLast? = some dispatch.parts) ∧
      1 ≤ dispatch.parts ∧ dispatch.parts ≤ 255 ∧
      ∀ (σ : Type) (parse : String → Except ParseError σ) (family : Nat → σ → Step σ)
        (state : σ) (part : Nat),
        implementation.solvePart family state part = some (dispatch.solve family state part) ∧
        dispatch.solve family state part =
          (if 1 ≤ part ∧ part ≤ dispatch.parts then family part state
            else .failed state (.partNotImplemented part)) ∧
        (dispatch.solver parse family).solveChecked state part =
          (if 1 ≤ part ∧ part ≤ dispatch.parts then dispatch.solve family state part
            else .failed state (.partOutOfRange part)) ∧
        ∀ (fallback : Nat → σ → Step σ) (year day : Nat) (calls : List Nat),
          implementation.solveOr family fallback state part =
            some ((dispatch.solverOr parse family fallback).solve state part) ∧
          Instance.answers ⟨⟨dispatch.solverOr parse family fallback, year, day⟩, state⟩ calls =
            Instance.answers ⟨⟨dispatch.solver parse family, year, day⟩, state⟩ calls ∧
          (dispatch.solverOr parse family fallback).stateAfter state calls =
            (dispatch.solver parse family).stateAfter state calls := by
  obtain ⟨dispatch, read, rfl⟩ := map_eq_ok_iff.mp accepted
  obtain ⟨tokens, counts, parts, found, lists, last, positive, rfl⟩ := dispatchOf_eq_ok_iff.mp read
  have covers := Dispatch.upTo_coversRange parts
  obtain ⟨_, _, within⟩ := lists.of_mem parts (List.mem_of_getLast? last)
  have said := Implementation.ofTokens?_dispatchTokens item.name (.upTo parts)
  refine ⟨_, _, read, rfl, said, rfl, ⟨tokens, counts, found, lists, last⟩, positive, within, ?_⟩
  intro σ parse family state part
  refine ⟨Implementation.solvePart_ofDispatch family state part _ _,
    Dispatch.solve_eq_of_coversRange covers family state part, rfl, ?_⟩
  intro fallback year day calls
  refine ⟨Implementation.solveOr_ofDispatch family fallback state part _ _, ?_⟩
  rw [Instance.answers_eq, Instance.answers_eq]
  exact Dispatch.calls_solverOr_eq covers parse family fallback state calls

/-- Of two counts the last is taken, so the code has two arms and a refusal; part 3 is refused in two
ways. -/
theorem two_of_seven_parts_dispatched :
    ∃ item code, Item.ofText?
        "#[aoc_solver(max_parts = 7, max_parts = 0x2u8,)] enum Elf {}".toList = some item ∧
      expandSolver item = .ok code ∧
      Implementation.ofTokens? code = some ⟨item.name, 2, [.run 1 1, .run 2 2, .refuse]⟩ ∧
      ∀ (parse : String → Except ParseError Nat) (state : Nat),
        let family (part state : Nat) : Step Nat := .ofAnswer (state + part) (.ok (toString state))
        let solver := (Dispatch.upTo 2).solver parse family
        solver.solveChecked state 2 = .ofAnswer (state + 2) (.ok (toString state)) ∧
        solver.solve state 3 = .failed state (.partNotImplemented 3) ∧
        solver.solveChecked state 3 = .failed state (.partOutOfRange 3) := by
  have read : (Item.ofText?
      "#[aoc_solver(max_parts = 7, max_parts = 0x2u8,)] enum Elf {}".toList).bind
        (fun item => (dispatchOf item).toOption) = some (.upTo 2) := by
    decide +kernel
  obtain ⟨item, item_read, found⟩ := Option.bind_eq_some_iff.mp read
  have two : dispatchOf item = .ok (.upTo 2) := eq_ok_of_toOption found
  have accepted : expandSolver item = .ok (dispatchTokens item.name (.upTo 2)) :=
    map_eq_ok_iff.mpr ⟨_, two, rfl⟩
  obtain ⟨dispatch, implementation, same, _, said, rfl, _, _, _, agrees⟩ :=
    dispatch_agrees_with_range accepted
  obtain rfl : .upTo 2 = dispatch := Except.ok.inj (two.symm.trans same)
  refine ⟨item, _, item_read, accepted, said, fun parse state => ?_⟩
  intro family solver
  have second := agrees Nat parse family state 2
  have third := agrees Nat parse family state 3
  exact ⟨second.2.2.1.trans second.2.1, third.2.1, third.2.2.1⟩

end Derive

end Advent
