import Advent.Proofs.Registry.Factories
import Advent.Proofs.Run.SingleWorker
import Advent.Proofs.Run.WorkItems
import Advent.Proofs.Solver.Calls

/-!
# Outcomes of work items

The outcome of a part is its key with its answer or error, without times. An item has one outcome
for each of its parts, in every way of running it: when its input cannot be loaded, when no instance
can be set up, and when an instance is asked. Shared runs ask one instance for all parts, split runs
ask a new one for each; the outcomes of both are those of one function of the registry.
-/
namespace Advent

/-- What a result tells, apart from times. -/
def PartResult.outcome (result : PartResult) : Key × Except PartError String :=
  (result.key, result.answer)

def WorkItem.failures (item : WorkItem) (error : PartError) :
    List (Key × Except PartError String) :=
  item.keys.map fun key => (key, .error error)

/-- The outcomes of an item; `respond` says what an instance answers to the parts. -/
def Registry.outcomes (registry : Registry)
    (respond : Instance → List Nat → List (Except SolveError String)) (item : WorkItem) :
    Except InputError String → List (Key × Except PartError String)
  | .error cause => item.failures (.input cause)
  | .ok input =>
    match registry.create item.year item.day input with
    | .error cause => item.failures (.setup cause)
    | .ok running =>
      (item.parts.zip (respond running item.parts)).map fun (part, answer) =>
        (⟨running.year, running.day, part⟩, answer.mapError .solve)

theorem Registry.outcomes_of_refused {registry : Registry} {item : WorkItem} {input : String}
    {cause : SolverError} (refused : registry.create item.year item.day input = .error cause)
    (respond : Instance → List Nat → List (Except SolveError String)) :
    registry.outcomes respond item (.ok input) = item.failures (.setup cause) := by
  simp only [Registry.outcomes, refused]

theorem Registry.outcomes_of_created {registry : Registry} {item : WorkItem} {input : String}
    {running : Instance} (created : registry.create item.year item.day input = .ok running)
    (respond : Instance → List Nat → List (Except SolveError String)) :
    registry.outcomes respond item (.ok input) =
      (item.parts.zip (respond running item.parts)).map fun (part, answer) =>
        (⟨running.year, running.day, part⟩, answer.mapError .solve) := by
  simp only [Registry.outcomes, created]

/-- How instances are asked for the parts of an item. -/
def Parallelism.respond : Parallelism → Instance → List Nat → List (Except SolveError String)
  | .part => Instance.freshAnswers
  | .sequential | .year | .day => Instance.answers

/-- What the file of an item holds. -/
def InputSource.load (source : InputSource) (files : String → Except ReadFault String)
    (item : WorkItem) : Except InputError String :=
  InputSource.ofRead (source.path item.year item.day) (files (source.path item.year item.day))

/-! ### Runs of one item -/

section Runs

variable (times : Phase → Duration)

theorem unsolvedItem_outcomes (item : WorkItem) (error : PartError) :
    (unsolvedItem item error).parts.map (·.result.outcome) = item.failures error := by
  simp only [unsolvedItem, List.map_map]
  rfl

theorem solvedRun_outcome {σ : Type} (key : Key) (parseTime : Option Duration) (step : Step σ)
    (time : Duration) :
    (solvedRun key parseTime step time).result.outcome = (key, step.answer.mapError .solve) := by
  unfold solvedRun
  cases answered : step.answer <;> rfl

theorem solveParts_outcomes (factory : Factory) (state : factory.solver.State)
    (parseTime : Option Duration) (parts : List Nat) :
    (Id.run (solveParts (.single times) factory state parseTime parts)).map (·.result.outcome) =
      (parts.zip (factory.solver.answers state parts)).map fun (part, answer) =>
        (⟨factory.year, factory.day, part⟩, answer.mapError .solve) := by
  -- Only the first part reports the parse time, so the induction is over any time.
  induction parts generalizing state parseTime with
  | nil => rfl
  | cons part rest ih =>
    refine congrArg₂ List.cons (solvedRun_outcome _ _ _ _) ?_
    exact ih (factory.solver.solveChecked state part).state none

theorem runShared_outcomes (registry : Registry) (item : WorkItem) (input : String) :
    (Id.run (runShared (.single times) registry item input)).parts.map (·.result.outcome) =
      registry.outcomes Instance.answers item (.ok input) := by
  unfold runShared Registry.outcomes Registry.create
  cases found : registry.factory item.year item.day with
  | error cause => exact unsolvedItem_outcomes item (.setup cause)
  | ok factory =>
    cases read : factory.solver.parse input with
    | error cause =>
      simp only [Factory.create, read, Workers.single, pure_bind, Except.map, Except.mapError]
      exact unsolvedItem_outcomes item (.setup (.parse cause))
    | ok state =>
      simp only [Factory.create, read, Workers.single, pure_bind, Except.map, Except.mapError,
        Instance.answers_eq]
      exact solveParts_outcomes times factory state _ item.parts

theorem runAlone_outcome (registry : Registry) (item : WorkItem) (input : String) (part : Nat) :
    (Id.run (runAlone (.single times) registry item input part)).result.outcome =
      match registry.create item.year item.day input with
      | .error cause => (⟨item.year, item.day, part⟩, .error (.setup cause))
      | .ok running =>
        (⟨running.year, running.day, part⟩, (running.solve part).answer.mapError .solve) := by
  unfold runAlone Registry.create
  cases found : registry.factory item.year item.day with
  | error cause => rfl
  | ok factory =>
    cases read : factory.solver.parse input with
    | error cause =>
      simp only [Factory.create, read, Workers.single, pure_bind, Except.map, Except.mapError]
      rfl
    | ok state =>
      simp only [Factory.create, read, Workers.single, pure_bind, Except.map, Except.mapError]
      exact solvedRun_outcome _ _ _ _

theorem runSplit_outcomes (registry : Registry) (item : WorkItem) (input : String) :
    (Id.run (runSplit (.single times) registry item input)).parts.map (·.result.outcome) =
      registry.outcomes Instance.freshAnswers item (.ok input) := by
  have alone : (Id.run (runSplit (.single times) registry item input)).parts =
      item.parts.map fun part => Id.run (runAlone (.single times) registry item input part) := by
    simp only [runSplit, Workers.single, pure_bind, Id.run_bind, List.idRun_mapM, Id.run_pure,
      List.map_map]
    rfl
  rw [alone, List.map_map]
  -- Every part creates its own instance from the same input, with the same success or error.
  cases created : registry.create item.year item.day input with
  | error cause =>
    rw [Registry.outcomes_of_refused created, WorkItem.failures, WorkItem.keys, List.map_map]
    refine List.map_congr_left fun part _ => ?_
    exact (runAlone_outcome times registry item input part).trans (by rw [created]; rfl)
  | ok running =>
    have paired : item.parts.zip (running.freshAnswers item.parts) =
        item.parts.map fun part => (part, (running.solve part).answer) :=
      List.map_prod_left_eq_zip.symm
    rw [Registry.outcomes_of_created created, paired, List.map_map]
    refine List.map_congr_left fun part _ => ?_
    exact (runAlone_outcome times registry item input part).trans (by rw [created]; rfl)

theorem itemRun_outcomes (executor : Executor) (files : String → Except ReadFault String)
    (item : WorkItem) :
    (executor.itemRun times files item).parts.map (·.result.outcome) =
      executor.registry.outcomes executor.parallelism.respond item
        (executor.source.load files item) := by
  unfold Executor.itemRun runItem InputSource.load
  simp only [pure_bind]
  cases loaded : InputSource.ofRead (executor.source.path item.year item.day)
      (files (executor.source.path item.year item.day)) with
  | error cause => exact unsolvedItem_outcomes item (.input cause)
  | ok input =>
    cases mode : executor.parallelism with
    | part => exact runSplit_outcomes times executor.registry item input
    | sequential => exact runShared_outcomes times executor.registry item input
    | year => exact runShared_outcomes times executor.registry item input
    | day => exact runShared_outcomes times executor.registry item input

end Runs

/-! ### The keys of outcomes -/

theorem WorkItem.map_fst_failures (item : WorkItem) (error : PartError) :
    (item.failures error).map Prod.fst = item.keys := by
  simp only [failures, List.map_map, Function.comp_def, List.map_id']

theorem Parallelism.length_respond (parallelism : Parallelism) (running : Instance)
    (parts : List Nat) : (parallelism.respond running parts).length = parts.length := by
  cases parallelism with
  | part => exact List.length_map _
  | sequential | year | day =>
    exact (congrArg List.length (running.answers_eq parts)).trans (Solver.length_answers ..)

/-- Whatever happens to an item, it has one outcome for each of its keys. -/
theorem Registry.map_fst_outcomes {registry : Registry} (own : registry.ReportsOwnDays)
    (parallelism : Parallelism) (item : WorkItem) (loaded : Except InputError String) :
    (registry.outcomes parallelism.respond item loaded).map Prod.fst = item.keys := by
  cases loaded with
  | error cause => exact item.map_fst_failures (.input cause)
  | ok input =>
    cases created : registry.create item.year item.day input with
    | error cause =>
      rw [outcomes_of_refused created]
      exact item.map_fst_failures (.setup cause)
    | ok running =>
      obtain ⟨year, day⟩ := year_day_of_create own created
      have numbered := List.map_fst_zip
        (Nat.le_of_eq (parallelism.length_respond running item.parts).symm)
      rw [outcomes_of_created created, year, day]
      calc ((item.parts.zip (parallelism.respond running item.parts)).map _).map Prod.fst
        _ = ((item.parts.zip (parallelism.respond running item.parts)).map Prod.fst).map
            fun part => ⟨item.year, item.day, part⟩ := by simp only [List.map_map]; rfl
        _ = item.keys := by rw [numbered]; rfl

/-! ### A receiver that takes every result -/

theorem RunError.collect_eq_none {outcomes : List (Option RunError)}
    (well : ∀ outcome ∈ outcomes, outcome = none) : collect outcomes = none := by
  unfold collect
  induction outcomes with
  | nil => rfl
  | cons first rest ih =>
    obtain ⟨rfl, later⟩ := List.forall_mem_cons.mp well
    exact ih later

namespace Delivery

theorem inOrder_all (runs : List PartRun) :
    (inOrder (fun _ => true) runs).sent = runs.map PartRun.result ∧
      (inOrder (fun _ => true) runs).error = none := by
  induction runs with
  | nil => exact ⟨rfl, rfl⟩
  | cons run rest ih =>
    simp only [inOrder, if_true, List.map_cons, ih]
    exact ⟨trivial, trivial⟩

/-- A receiver that takes every result gets all results of an item. -/
theorem ofItem_all (run : ItemRun) :
    (ofItem (fun _ => true) run).sent = run.parts.map PartRun.result ∧
      (ofItem (fun _ => true) run).error = none := by
  unfold ofItem
  cases run.isSplit with
  | false => exact inOrder_all run.parts
  | true =>
    refine ⟨List.filter_eq_self.mpr fun _ _ => rfl, RunError.collect_eq_none ?_⟩
    intro outcome member
    obtain ⟨_, _, rfl⟩ := List.mem_map.mp member
    rfl

theorem ofGroup_error_eq_none {deliveries : List Delivery}
    (well : ∀ delivery ∈ deliveries, delivery.error = none) :
    (ofGroup deliveries).error = none := by
  refine RunError.collect_eq_none fun outcome member => ?_
  obtain ⟨delivery, present, rfl⟩ := List.mem_map.mp member
  exact well delivery present

end Delivery

/-! ### Whole runs -/

namespace Executor

variable (executor : Executor) (times : Phase → Duration)
  (files : String → Except ReadFault String)

theorem deliver_sent (accepts : PartResult → Bool) :
    (executor.deliver times files accepts).sent = executor.workItems.flatMap fun item =>
      (Delivery.ofItem accepts (executor.itemRun times files item)).sent := by
  have items : executor.groups.flatMap id = executor.workItems := by
    rw [List.flatMap_id]
    exact Parallelism.groups_flatten _ _
  rw [deliver_eq, ← items, List.flatMap_assoc]
  simp only [groupDelivery, Delivery.ofGroup, List.flatMap_map, id]

theorem groupDelivery_all_error (items : List WorkItem) :
    (executor.groupDelivery times files (fun _ _ => true) items).error = none := by
  refine Delivery.ofGroup_error_eq_none fun delivery member => ?_
  obtain ⟨item, _, rfl⟩ := List.mem_map.mp member
  exact (Delivery.ofItem_all _).2

theorem deliver_all_error : (executor.deliver times files fun _ => true).error = none := by
  rw [deliver_eq]
  refine Delivery.ofGroup_error_eq_none fun group member => ?_
  obtain ⟨items, _, rfl⟩ := List.mem_map.mp member
  exact executor.groupDelivery_all_error times files items

/-- A receiver that takes every result gets the outcomes of all items. -/
theorem deliver_all_outcomes :
    (executor.deliver times files fun _ => true).sent.map PartResult.outcome =
      executor.workItems.flatMap fun item =>
        executor.registry.outcomes executor.parallelism.respond item
          (executor.source.load files item) := by
  rw [deliver_sent, List.map_flatMap]
  refine List.flatMap_congr fun item _ => ?_
  rw [(Delivery.ofItem_all _).1, List.map_map]
  exact itemRun_outcomes times executor files item

theorem deliver_all_keys (own : executor.registry.ReportsOwnDays) :
    (executor.deliver times files fun _ => true).sent.map PartResult.key =
      executor.expectedKeys := by
  have keys : PartResult.key = Prod.fst ∘ PartResult.outcome := rfl
  rw [keys, ← List.map_map, deliver_all_outcomes, List.map_flatMap]
  exact List.flatMap_congr fun item _ => Registry.map_fst_outcomes own _ item _

end Executor

end Advent
