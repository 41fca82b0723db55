import Advent.Proofs.Run.Merging
import Advent.Proofs.Run.Outcomes

/-!
# Results that are not taken

A receiver may refuse any result. A shared run tries its results up to the first that is refused, a
split run tries all of them. Every refused result is one error, and the errors are merged within
items, within groups and across groups, in any tree. So a run fails if and only if some result was
refused: with the one error itself, or with as many errors in one list as results were refused.
-/
namespace Advent

/-! ### One item -/

namespace Delivery

/-- The results of an item that are tried. -/
def attempts (accepts : PartResult → Bool) (run : ItemRun) : List PartResult :=
  let results := run.parts.map PartRun.result
  if run.isSplit then results
  else results.takeWhile accepts ++ (results.dropWhile accepts).take 1

/-- One error for each result that is tried and refused. -/
def refusals (accepts : PartResult → Bool) (results : List PartResult) : List RunError :=
  (results.filter fun result => !accepts result).map fun _ => .undelivered

theorem length_refusals (accepts : PartResult → Bool) (results : List PartResult) :
    (refusals accepts results).length = results.countP fun result => !accepts result := by
  rw [refusals, List.length_map, List.countP_eq_length_filter]

theorem inOrder_eq (accepts : PartResult → Bool) (runs : List PartRun) :
    let results := runs.map PartRun.result
    let tried := results.takeWhile accepts ++ (results.dropWhile accepts).take 1
    (inOrder accepts runs).sent = tried.filter accepts ∧
      (inOrder accepts runs).error = RunError.bundle (refusals accepts tried) := by
  induction runs with
  | nil => exact ⟨rfl, rfl⟩
  | cons run rest ih =>
    simp only [refusals] at ih
    by_cases taken : accepts run.result = true
    · simp [inOrder, refusals, taken, ih]
    · -- The first refused result is the last that is tried.
      simp [inOrder, refusals, taken, RunError.bundle]

theorem ofEach_error (accepts : PartResult → Bool) (runs : List PartRun) :
    (ofEach accepts runs).error =
      RunError.bundle (refusals accepts (runs.map PartRun.result)) := by
  have each (run : PartRun) : (if accepts run.result then none else some .undelivered) =
      RunError.bundle (refusals accepts [run.result]) := by
    cases taken : accepts run.result <;> simp [refusals, taken, RunError.bundle]
  have together : (runs.map fun run => refusals accepts [run.result]).flatten =
      refusals accepts (runs.map PartRun.result) := by
    induction runs with
    | nil => rfl
    | cons run rest ih =>
      rw [List.map_cons, List.flatten_cons, ih, refusals, refusals, refusals, ← List.map_append,
        ← List.filter_append]
      rfl
  rw [← together, ← RunError.collect_bundles, List.map_map]
  exact congrArg RunError.collect (List.map_congr_left fun run _ => each run)

theorem ofItem_eq (accepts : PartResult → Bool) (run : ItemRun) :
    (ofItem accepts run).sent = (attempts accepts run).filter accepts ∧
      (ofItem accepts run).error = RunError.bundle (refusals accepts (attempts accepts run)) := by
  unfold ofItem attempts
  cases run.isSplit with
  | false => exact inOrder_eq accepts run.parts
  | true => exact ⟨rfl, ofEach_error accepts run.parts⟩

end Delivery

/-! ### Whole runs -/

namespace Executor

variable (executor : Executor) (times : Phase → Duration)
  (files : String → Except ReadFault String) (accepts : WorkItem → PartResult → Bool)

/-- The results of an item that are tried. -/
def itemAttempts (item : WorkItem) : List PartResult :=
  Delivery.attempts (accepts item) (executor.itemRun times files item)

/-- The errors of the refused results of a group, in the order of the items. -/
def groupRefusals (items : List WorkItem) : List RunError :=
  items.flatMap fun item =>
    Delivery.refusals (accepts item) (executor.itemAttempts times files accepts item)

theorem groupDelivery_error (items : List WorkItem) :
    (executor.groupDelivery times files accepts items).error =
      RunError.bundle (executor.groupRefusals times files accepts items) := by
  have each : (items.map fun item =>
      Delivery.ofItem (accepts item) (executor.itemRun times files item)).map Delivery.error =
      (items.map fun item =>
        Delivery.refusals (accepts item) (executor.itemAttempts times files accepts item)).map
          RunError.bundle := by
    rw [List.map_map, List.map_map]
    exact List.map_congr_left fun item _ => (Delivery.ofItem_eq ..).2
  rw [groupDelivery, groupRefusals, List.flatMap_def, ← RunError.collect_bundles, ← each]
  rfl

/-- All results that are tried, with their items, in the order of the items. -/
def attempts : List (WorkItem × PartResult) :=
  executor.workItems.flatMap fun item =>
    (executor.itemAttempts times files accepts item).map fun result => (item, result)

/-- How many of the results that are tried are refused. -/
def failedSends : Nat :=
  (executor.attempts times files accepts).countP fun (item, result) => !accepts item result

/-- The groups together have one error for each refused result. -/
theorem groupRefusals_flatten :
    (executor.groups.map (executor.groupRefusals times files accepts)).flatten =
      List.replicate (executor.failedSends times files accepts) .undelivered := by
  have items : executor.groups.flatten = executor.workItems := Parallelism.groups_flatten _ _
  have together : (executor.groups.map (executor.groupRefusals times files accepts)).flatten =
      executor.workItems.flatMap fun item =>
        Delivery.refusals (accepts item) (executor.itemAttempts times files accepts item) := by
    rw [← items, List.flatMap_def, List.map_flatten, List.flatten_flatten, List.map_map]
    rfl
  rw [together, List.eq_replicate_iff]
  constructor
  · rw [List.length_flatMap, failedSends, attempts, List.countP_flatMap]
    refine congrArg List.sum (List.map_congr_left fun item _ => ?_)
    rw [Delivery.length_refusals, Function.comp_apply, List.countP_map]
    rfl
  · intro error member
    obtain ⟨item, _, refused⟩ := List.mem_flatMap.mp member
    obtain ⟨_, _, undelivered⟩ := List.mem_map.mp refused
    exact undelivered.symm

/-- The results that are tried and not refused are sent. -/
theorem groups_sent :
    (Delivery.ofGroup (executor.groups.map (executor.groupDelivery times files accepts))).sent =
      ((executor.attempts times files accepts).filter fun (item, result) =>
        accepts item result).map Prod.snd := by
  have items : executor.groups.flatMap id = executor.workItems := by
    rw [List.flatMap_id]
    exact Parallelism.groups_flatten _ _
  calc (Delivery.ofGroup (executor.groups.map (executor.groupDelivery times files accepts))).sent
    _ = executor.workItems.flatMap fun item =>
        (Delivery.ofItem (accepts item) (executor.itemRun times files item)).sent := by
      rw [← items, List.flatMap_assoc]
      simp only [Delivery.ofGroup, groupDelivery, List.flatMap_map, id]
    _ = executor.workItems.flatMap fun item =>
        (executor.itemAttempts times files accepts item).filter (accepts item) :=
      List.flatMap_congr fun item _ => (Delivery.ofItem_eq ..).1
    _ = ((executor.attempts times files accepts).filter fun (item, result) =>
        accepts item result).map Prod.snd := by
      rw [attempts, List.filter_flatMap, List.map_flatMap]
      refine List.flatMap_congr fun item _ => ?_
      rw [List.filter_map, List.map_map]
      exact (List.map_id _).symm

end Executor

/-! ### What a run reports -/

/-- The error of a run in which so many results were refused. -/
structure RunError.Reports (refused : Nat) (error : Option RunError) : Prop where
  none_iff : error = none ↔ refused = 0
  one : refused = 1 → error = some .undelivered
  several : 2 ≤ refused → error = some (.multiple (List.replicate refused .undelivered))

theorem RunError.reports_bundle (refused : Nat) :
    Reports refused (bundle (List.replicate refused .undelivered)) := by
  constructor
  · cases refused with
    | zero => exact ⟨fun _ => rfl, fun _ => rfl⟩
    | succ less =>
      have some_error : List.replicate (less + 1) RunError.undelivered ≠ [] := by simp
      obtain ⟨error, bundled, _⟩ := exists_bundle some_error
      rw [bundled]
      simp
  · rintro rfl
    rfl
  · intro several
    have flat : (List.replicate refused RunError.undelivered).flatMap items =
        List.replicate refused .undelivered := by
      rw [List.flatMap_replicate]
      exact List.flatten_replicate_singleton
    rw [bundle_of_two_le (by simpa using several), flat]

/-- Whatever a receiver refuses, in every mode and for every tree in which the groups' outcomes are
merged: the results that are tried are sent or refused, and each that is refused is reported once. -/
theorem refused_results_reported (executor : Executor) (times : Phase → Duration)
    (files : String → Except ReadFault String) (accepts : WorkItem → PartResult → Bool) :
    let deliveries := executor.groups.map (executor.groupDelivery times files accepts)
    let refused := executor.failedSends times files accepts
    (Delivery.ofGroup deliveries).sent =
        ((executor.attempts times files accepts).filter fun (item, result) =>
          accepts item result).map Prod.snd ∧
      RunError.Reports refused (Delivery.ofGroup deliveries).error ∧
      (∀ tree : MergeTree (Option RunError), tree.leaves = deliveries.map Delivery.error →
        RunError.Reports refused tree.merged) ∧
      ∀ taken, executor.deliver times files taken =
        .ofGroup (executor.groups.map (executor.groupDelivery times files fun _ => taken)) := by
  intro deliveries refused
  have errors : deliveries.map Delivery.error =
      (executor.groups.map (executor.groupRefusals times files accepts)).map RunError.bundle := by
    rw [List.map_map, List.map_map]
    exact List.map_congr_left fun items _ => executor.groupDelivery_error times files accepts items
  have flat := executor.groupRefusals_flatten times files accepts
  refine ⟨executor.groups_sent times files accepts, ?_, ?_, executor.deliver_eq times files⟩
  · have collected : (Delivery.ofGroup deliveries).error = RunError.bundle _ :=
      (congrArg RunError.collect errors).trans (RunError.collect_bundles _)
    rw [collected, flat]
    exact RunError.reports_bundle refused
  · intro tree leaves
    rw [tree.merged_bundles (leaves.trans errors), flat]
    exact RunError.reports_bundle refused

/-- Of day 3, whose input cannot be read, each part is tried; of day 6, whose input is missing, only
the first. -/
theorem two_refused_grid_results_reported :
    ∃ executor : Executor, Registry.ofPlugins Calendar.plugins ["grid"] = .ok executor.registry ∧
      executor.parallelism = .part ∧
      let files (path : String) : Except ReadFault String :=
        if path = "2015_day03.txt" then .ok "x" else .error .notFound
      let accepts (_ : WorkItem) (result : PartResult) := decide (result.key.part = 2)
      let deliveries := executor.groups.map (executor.groupDelivery (fun _ => .zero) files accepts)
      ∃ tree : MergeTree (Option RunError), tree.leaves = deliveries.map Delivery.error ∧
        tree.merged = some (.multiple [.undelivered, .undelivered]) := by
  let files (path : String) : Except ReadFault String :=
    if path = "2015_day03.txt" then .ok "x" else .error .notFound
  let accepts (_ : WorkItem) (result : PartResult) := decide (result.key.part = 2)
  let run (registry : Registry) : Executor := ⟨registry, ⟨"", none⟩, .part, ⟨none, none, none⟩⟩
  obtain ⟨registry, built, _⟩ := Calendar.exists_grid_registry
  have items : (run registry).workItems = [⟨2015, 3, 1, 2⟩, ⟨2015, 6, 1, 2⟩] :=
    Calendar.grid_workItems built
  have groups : (run registry).groups.length = 2 := by
    unfold Executor.groups
    rw [items]
    rfl
  have refused : (run registry).failedSends (fun _ => .zero) files accepts = 2 := by
    have counted : ((Registry.ofPlugins Calendar.plugins ["grid"]).map fun registry =>
        (([⟨2015, 3, 1, 2⟩, ⟨2015, 6, 1, 2⟩] : List WorkItem).flatMap fun item =>
          ((run registry).itemAttempts (fun _ => .zero) files accepts item).map fun result =>
            (item, result)).countP fun (item, result) => !accepts item result).toOption =
        some 2 := by
      decide +kernel
    rw [built] at counted
    unfold Executor.failedSends Executor.attempts
    rw [items]
    exact Option.some.inj counted
  obtain ⟨first, second, two⟩ := List.length_eq_two.mp groups
  let outcome items := ((run registry).groupDelivery (fun _ => .zero) files accepts items).error
  let tree : MergeTree (Option RunError) := .node (.leaf (outcome first)) (.leaf (outcome second))
  have leaves : tree.leaves = ((run registry).groups.map
      ((run registry).groupDelivery (fun _ => .zero) files accepts)).map Delivery.error := by
    rw [two]
    rfl
  have reports :=
    (refused_results_reported (run registry) (fun _ => .zero) files accepts).2.2.1 tree leaves
  rw [refused] at reports
  exact ⟨run registry, built, rfl, tree, leaves, reports.several (Nat.le_refl 2)⟩

end Advent
