import Advent.Solver.Dispatch
import Advent.Word
import Mathlib.Algebra.GroupWithZero.Nat

/-!
# Calls without faults

A solver completes on an input if no sequence of calls of its parts, with any numbers, ever faults
on the state that was read from it, and it answers on the input if besides every call of a part that
it has gives an answer. It is enough that reading establishes a condition under which each part
solver does so and which it keeps. A part solver completes if what it computes stays within its
words, which a run of steps does if a budget covers what the steps cost.
-/
namespace Advent

/-! ### Results within words -/

namespace Word

theorem size_eq (bits : Nat) : size bits = 2 ^ bits :=
  Nat.one_shiftLeft bits

theorem signed32?_of_natAbs_lt {value : Int} (small : value.natAbs < size 31) :
    signed32? value = some value :=
  if_pos (by omega)

theorem unsigned32?_of_lt {value : Nat} (small : value < size 32) :
    unsigned32? value = some value :=
  if_pos small

theorem unsigned64?_of_lt {value : Nat} (small : value < size 64) :
    unsigned64? value = some value :=
  if_pos small

theorem unsigned128?_of_lt {value : Nat} (small : value < size 128) :
    unsigned128? value = some value :=
  if_pos small

theorem difference_of_le {value less : Nat} (ordered : less ≤ value) :
    difference value less = .ok (value - less) :=
  if_pos ordered

end Word

/-! ### Runs within a budget -/

section Runs

variable {σ α : Type} {m : Type → Type} [Monad m] [LawfulMonad m] {step : σ → α → m σ}
  {items : List α}

/-- If the budget covers the costs of all items, every step has a result, and what holds within the
costs so far holds at the end within all of them. -/
theorem foldlM_of_budget (Within : Nat → σ → Prop) (cost : α → Nat) {budget : Nat}
    (advance : ∀ spent state item, item ∈ items → Within spent state →
      spent + cost item ≤ budget →
        ∃ next, step state item = pure next ∧ Within (spent + cost item) next)
    {spent : Nat} {state : σ} (start : Within spent state)
    (covered : spent + (items.map cost).sum ≤ budget) :
    ∃ last, items.foldlM step state = pure last ∧
      Within (spent + (items.map cost).sum) last := by
  induction items generalizing spent state with
  | nil => exact ⟨state, rfl, start⟩
  | cons item rest ih =>
    -- What the first item costs is spent before the others run.
    rw [List.map_cons, List.sum_cons, ← Nat.add_assoc] at covered ⊢
    obtain ⟨next, stepped, later⟩ :=
      advance spent state item List.mem_cons_self start (by omega)
    rw [List.foldlM_cons, stepped, pure_bind]
    exact ih (fun spent state item member =>
      advance spent state item (List.mem_cons_of_mem _ member)) later covered

/-- Where all items cost the same, the budget is the count of steps. -/
theorem foldlM_of_steps (Within : Nat → σ → Prop)
    (advance : ∀ taken state item, item ∈ items → Within taken state → taken < items.length →
      ∃ next, step state item = pure next ∧ Within (taken + 1) next)
    {state : σ} (start : Within 0 state) :
    ∃ last, items.foldlM step state = pure last ∧ Within items.length last := by
  have length_eq : 0 + (items.map fun _ => 1).sum = items.length := by
    simp [List.map_const']
  obtain ⟨last, run, within⟩ :=
    foldlM_of_budget Within (fun _ => 1) advance start (Nat.le_of_eq length_eq)
  exact ⟨last, run, length_eq ▸ within⟩

end Runs

/-! ### Calls -/

/-- The step gives an answer or an error that is no fault. -/
def Step.Completes {σ : Type} (step : Step σ) : Prop :=
  ∀ cause, step.answer ≠ .error (.fault cause)

theorem Step.completes_of_ok {σ : Type} {step : Step σ} {text : String}
    (answered : step.answer = .ok text) : step.Completes := by
  intro cause
  simp [answered]

namespace Solver

/-- The answers to calls of parts whatever their numbers, each on the state that the call before
left. -/
def partAnswers (solver : Solver) : solver.State → List Nat → List (Except SolveError String)
  | _, [] => []
  | state, part :: rest =>
    let step := solver.solve state part
    step.answer :: partAnswers solver step.state rest

/-- If the input is accepted, no call of a part faults. -/
def CompletesOn (solver : Solver) (input : String) : Prop :=
  ∀ state, solver.parse input = .ok state →
    ∀ parts, ∀ answer ∈ solver.partAnswers state parts, ∀ cause, answer ≠ .error (.fault cause)

/-- If the input is accepted, every call of a part that the solver has gives an answer. -/
def AnswersOn (solver : Solver) (input : String) : Prop :=
  ∀ state, solver.parse input = .ok state →
    ∀ parts, (∀ part ∈ parts, 1 ≤ part ∧ part ≤ solver.parts) →
      ∀ answer ∈ solver.partAnswers state parts, ∃ text, answer = .ok text

theorem forall_partAnswers {solver : Solver} {Holds : solver.State → Prop} {Called : Nat → Prop}
    {Fine : Except SolveError String → Prop}
    (step : ∀ state part, Holds state → Called part →
      Fine (solver.solve state part).answer ∧ Holds (solver.solve state part).state)
    {state : solver.State} (holds : Holds state) {parts : List Nat}
    (called : ∀ part ∈ parts, Called part) :
    ∀ answer ∈ solver.partAnswers state parts, Fine answer := by
  induction parts generalizing state with
  | nil => simp [partAnswers]
  | cons part rest ih =>
    obtain ⟨first, others⟩ := List.forall_mem_cons.mp called
    obtain ⟨fine, later⟩ := step state part holds first
    exact List.forall_mem_cons.mpr ⟨fine, ih later others⟩

end Solver

namespace Dispatch

variable {σ : Type} {parts : Nat} {parse : String → Except ParseError σ}
  {family : Nat → σ → Step σ} {input : String}

/-- A part without an arm neither faults nor changes the state. -/
theorem completesOn_of_family {Holds : σ → Prop}
    (start : ∀ state, parse input = .ok state → Holds state)
    (step : ∀ state part, Holds state →
      (family part state).Completes ∧ Holds (family part state).state) :
    ((upTo parts).solver parse family).CompletesOn input := by
  intro state read calls
  -- Parts without an arm are called as well, so the condition has to survive them too.
  have every (state : σ) (part : Nat) (holds : Holds state) (_ : True) :
      ((upTo parts).solve family state part).Completes ∧
        Holds ((upTo parts).solve family state part).state := by
    unfold Dispatch.solve
    split
    · exact step state part holds
    · exact ⟨fun cause => by simp [Step.failed, Step.ofAnswer], holds⟩
  exact Solver.forall_partAnswers every (start state read) fun _ _ => trivial

section Stateless

variable (stateless : ∀ part state, (family part state).state = state)

include stateless

/-- Part solvers that leave the state as it is only have to complete on the state that was read. -/
theorem completesOn_of_stateless
    (completes : ∀ state, parse input = .ok state → ∀ part, (family part state).Completes) :
    ((upTo parts).solver parse family).CompletesOn input := by
  refine completesOn_of_family (fun state read => read) fun state part read => ?_
  exact ⟨completes state read part, (stateless part state).symm ▸ read⟩

variable (answers : ∀ state, parse input = .ok state →
  ∀ part, ∃ text, (family part state).answer = .ok text)

include answers

theorem completesOn_of_answers : ((upTo parts).solver parse family).CompletesOn input := by
  refine completesOn_of_stateless stateless fun state read part => ?_
  obtain ⟨text, answered⟩ := answers state read part
  exact Step.completes_of_ok answered

theorem answersOn_of_stateless : ((upTo parts).solver parse family).AnswersOn input := by
  intro state read calls within
  have every (later : σ) (part : Nat) (same : state = later) (called : 1 ≤ part ∧ part ≤ parts) :
      (∃ text, ((upTo parts).solve family later part).answer = .ok text) ∧
        state = ((upTo parts).solve family later part).state := by
    rw [Dispatch.solve, if_pos ((mem_upTo_arms parts part).mpr called), ← same]
    exact ⟨answers state read part, (stateless part state).symm⟩
  exact Solver.forall_partAnswers every rfl within

end Stateless

end Dispatch

end Advent
