import Advent.Registry.Basic
import Advent.Solver.Dispatch
import Mathlib.Logic.Basic

/-!
# Sequences of calls

An instance may be asked for parts in any order, again and again, and keeps what earlier calls left
in its state. A solver is independent if none of this shows: each call is answered as it would be on
a state that was just read. It is enough that calls keep a relation between the state and the one
that was read, and that related states give the same answers.
-/
namespace Advent

namespace Solver

/-- The state that a sequence of calls leaves. -/
def stateAfter (solver : Solver) (state : solver.State) (parts : List Nat) : solver.State :=
  parts.foldl (fun state part => (solver.solveChecked state part).state) state

/-- The answers to calls each of which is made on the same state. -/
def freshAnswers (solver : Solver) (state : solver.State) (parts : List Nat) :
    List (Except SolveError String) :=
  parts.map fun part => (solver.solveChecked state part).answer

/-- No call on a state that was read is answered otherwise because of the calls before it. -/
def Independent (solver : Solver) : Prop :=
  ∀ input state, solver.parse input = .ok state →
    ∀ parts, solver.answers state parts = solver.freshAnswers state parts

theorem length_answers (solver : Solver) (state : solver.State) (parts : List Nat) :
    (solver.answers state parts).length = parts.length := by
  induction parts generalizing state with
  | nil => rfl
  | cons part rest ih => simp [answers, ih]

/-- Calls keep a relation between the state that was read and the present one, and do not tell
related states apart. -/
structure Keeps (solver : Solver) (Sound : solver.State → solver.State → Prop) : Prop where
  start : ∀ input fresh, solver.parse input = .ok fresh → Sound fresh fresh
  answer_eq : ∀ fresh state part, Sound fresh state →
    (solver.solveChecked state part).answer = (solver.solveChecked fresh part).answer
  step : ∀ fresh state part, Sound fresh state → Sound fresh (solver.solveChecked state part).state

variable {solver : Solver} {Sound : solver.State → solver.State → Prop}

theorem stateAfter_of_step {Holds : solver.State → Prop}
    (step : ∀ state part, Holds state → Holds (solver.solveChecked state part).state)
    {state : solver.State} (start : Holds state) (parts : List Nat) :
    Holds (solver.stateAfter state parts) := by
  induction parts generalizing state with
  | nil => exact start
  | cons part rest ih => exact ih (step state part start)

theorem stateAfter_append (state : solver.State) (parts more : List Nat) :
    solver.stateAfter state (parts ++ more) =
      solver.stateAfter (solver.stateAfter state parts) more :=
  List.foldl_append

theorem Keeps.stateAfter (keeps : solver.Keeps Sound) {fresh state : solver.State}
    (sound : Sound fresh state) (parts : List Nat) : Sound fresh (solver.stateAfter state parts) :=
  stateAfter_of_step (keeps.step fresh) sound parts

theorem Keeps.answers_eq (keeps : solver.Keeps Sound) {fresh state : solver.State}
    (sound : Sound fresh state) (parts : List Nat) :
    solver.answers state parts = solver.freshAnswers fresh parts := by
  induction parts generalizing state with
  | nil => rfl
  | cons part rest ih =>
    exact congrArg₂ List.cons (keeps.answer_eq fresh state part sound)
      (ih (keeps.step fresh state part sound))

theorem Keeps.independent (keeps : solver.Keeps Sound) : solver.Independent :=
  fun input state read parts => keeps.answers_eq (keeps.start input state read) parts

end Solver

namespace Dispatch

variable {σ : Type}

theorem solveChecked_of_within {parts part : Nat} (parse : String → Except ParseError σ)
    (family : Nat → σ → Step σ) (state : σ) (within : 1 ≤ part ∧ part ≤ parts) :
    ((upTo parts).solver parse family).solveChecked state part = family part state :=
  (if_pos within).trans (if_pos ((mem_upTo_arms parts part).mpr within))

/-- What every part solver keeps, calls keep: a part out of range leaves the state as it is. -/
theorem step_of_family {parts : Nat} (parse : String → Except ParseError σ)
    {family : Nat → σ → Step σ} {Holds : σ → Prop}
    (step : ∀ state part, Holds state → Holds (family part state).state) (state : σ) (part : Nat)
    (holds : Holds state) :
    Holds (((upTo parts).solver parse family).solveChecked state part).state := by
  by_cases within : 1 ≤ part ∧ part ≤ parts
  · exact congrArg Step.state (solveChecked_of_within parse family state within) ▸
      step state part holds
  · exact congrArg Step.state
      (Solver.solveChecked_out_of_range ((upTo parts).solver parse family) state part within) ▸
      holds

theorem stateAfter_of_family {parts : Nat} (parse : String → Except ParseError σ)
    {family : Nat → σ → Step σ} {Holds : σ → Prop}
    (step : ∀ state part, Holds state → Holds (family part state).state) {state : σ}
    (start : Holds state) (calls : List Nat) :
    Holds (((upTo parts).solver parse family).stateAfter state calls) :=
  Solver.stateAfter_of_step (step_of_family parse step) start calls

theorem keeps_of_family {parts : Nat} (parse : String → Except ParseError σ)
    {family : Nat → σ → Step σ} {Sound : σ → σ → Prop}
    (start : ∀ input fresh, parse input = .ok fresh → Sound fresh fresh)
    (answer_eq : ∀ fresh state part, Sound fresh state →
      (family part state).answer = (family part fresh).answer)
    (step : ∀ fresh state part, Sound fresh state → Sound fresh (family part state).state) :
    ((upTo parts).solver parse family).Keeps Sound where
  start := start
  answer_eq fresh state part sound := by
    by_cases within : 1 ≤ part ∧ part ≤ parts
    · have here (state : σ) :=
        congrArg Step.answer (solveChecked_of_within parse family state within)
      exact (here state).trans ((answer_eq fresh state part sound).trans (here fresh).symm)
    · have refused (state : σ) := congrArg Step.answer
        (Solver.solveChecked_out_of_range ((upTo parts).solver parse family) state part within)
      exact (refused state).trans (refused fresh).symm
  step fresh := step_of_family parse (step fresh)

/-- Part solvers that leave the state as it is are independent. -/
theorem independent_of_stateless {parts : Nat} (parse : String → Except ParseError σ)
    {family : Nat → σ → Step σ} (stateless : ∀ part state, (family part state).state = state) :
    ((upTo parts).solver parse family).Independent := by
  have answer_eq : ∀ fresh state part, fresh = state →
      (family part state).answer = (family part fresh).answer := by
    rintro fresh _ part rfl
    rfl
  have step : ∀ fresh state part, fresh = state → fresh = (family part state).state := by
    rintro fresh _ part rfl
    exact (stateless part fresh).symm
  exact (keeps_of_family parse (fun _ _ _ => rfl) answer_eq step).independent

/-- Part solvers that compute a value at most once: `Sound` holds of the states for one input, and
`Value` of the only value that these may remember. -/
structure Memoises {α : Type} (family : Nat → σ → Step σ) (Sound : σ → Prop)
    (memory : σ → Option α) (Value : α → Prop) : Prop where
  unique : ∀ first second, Value first → Value second → first = second
  sound : ∀ state value, Sound state → memory state = some value → Value value
  step_cases : ∀ state part, Sound state → (family part state).state = state ∨
    Sound (family part state).state ∧
      ∃ value, Value value ∧ memory (family part state).state = some value

section Memory

variable {α : Type} {family : Nat → σ → Step σ} {Sound : σ → Prop} {memory : σ → Option α}
  {Value : α → Prop} (memoises : Memoises family Sound memory Value)

include memoises

theorem Memoises.step (state : σ) (part : Nat) (sound : Sound state) :
    Sound (family part state).state := by
  rcases memoises.step_cases state part sound with same | ⟨later, _⟩
  · exact same.symm ▸ sound
  · exact later

theorem Memoises.memory_step (state : σ) (part : Nat) (value : α) (sound : Sound state)
    (known : memory state = some value) : memory (family part state).state = some value := by
  rcases memoises.step_cases state part sound with same | ⟨_, other, right, later⟩
  · exact same.symm ▸ known
  · rw [memoises.unique value other (memoises.sound state value sound known) right, later]

/-- What is remembered stays through any calls. -/
theorem Memoises.memory_stateAfter {parts : Nat} (parse : String → Except ParseError σ) {state : σ}
    (sound : Sound state) {value : α} (known : memory state = some value) (calls : List Nat) :
    memory (((upTo parts).solver parse family).stateAfter state calls) = some value := by
  let Knows (state : σ) := Sound state ∧ memory state = some value
  have step : ∀ state part, Knows state → Knows (family part state).state := fun state part knows =>
    ⟨memoises.step state part knows.1, memoises.memory_step state part value knows.1 knows.2⟩
  have start : Knows state := ⟨sound, known⟩
  exact (stateAfter_of_family parse step start calls).2

end Memory

end Dispatch

namespace Instance

/-- The answers to a sequence of calls on one instance. -/
def answers : Instance → List Nat → List (Except SolveError String)
  | _, [] => []
  | running, part :: rest =>
    let step := running.solve part
    step.answer :: answers step.state rest

/-- The answers to calls each of which is made on an instance of its own. -/
def freshAnswers (running : Instance) (parts : List Nat) : List (Except SolveError String) :=
  parts.map fun part => (running.solve part).answer

theorem answers_eq (running : Instance) (parts : List Nat) :
    running.answers parts = running.factory.solver.answers running.state parts := by
  induction parts generalizing running with
  | nil => rfl
  | cons part rest ih => exact congrArg (_ :: ·) (ih _)

/-- An instance of an independent solver that was just created answers as new ones would. -/
theorem answers_eq_freshAnswers {running : Instance} {input : String}
    (read : running.factory.solver.parse input = .ok running.state)
    (independent : running.factory.solver.Independent) (parts : List Nat) :
    running.answers parts = running.freshAnswers parts :=
  (running.answers_eq parts).trans (independent input running.state read parts)

end Instance

end Advent
