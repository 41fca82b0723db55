import Advent.Proofs.Run.Inputs
import Advent.Proofs.Run.Outcomes

/-!
# Days do not interfere

An item loads one file, and what its parts report depends on the rest of the files in no way. A run
sends what its items report, one item after the other, whatever fails on the way. So two runs on
files that agree for one day have the same results for that day, in every mode.
-/
namespace Advent

namespace Executor

/-! ### One item -/

/-- What the parts of an item report. -/
def itemOutcomes (executor : Executor) (times : Phase → Duration)
    (files : String → Except ReadFault String) (item : WorkItem) :
    List (Key × Except PartError String) :=
  (executor.itemRun times files item).parts.map (·.result.outcome)

variable (executor : Executor)

theorem itemOutcomes_congr (times times' : Phase → Duration)
    {files files' : String → Except ReadFault String} {item : WorkItem}
    (agree : files (executor.source.path item.year item.day) =
      files' (executor.source.path item.year item.day)) :
    executor.itemOutcomes times files item = executor.itemOutcomes times' files' item := by
  have loaded : executor.source.load files item = executor.source.load files' item := by
    unfold InputSource.load
    rw [agree]
  unfold itemOutcomes
  rw [itemRun_outcomes, itemRun_outcomes, loaded]

theorem map_fst_itemOutcomes (own : executor.registry.ReportsOwnDays) (times : Phase → Duration)
    (files : String → Except ReadFault String) (item : WorkItem) :
    (executor.itemOutcomes times files item).map Prod.fst = item.keys := by
  unfold itemOutcomes
  rw [itemRun_outcomes]
  exact Registry.map_fst_outcomes own executor.parallelism item _

theorem deliver_itemOutcomes (times : Phase → Duration)
    (files : String → Except ReadFault String) :
    (executor.deliver times files fun _ => true).sent.map PartResult.outcome =
      executor.workItems.flatMap (executor.itemOutcomes times files) := by
  rw [deliver_all_outcomes]
  exact List.flatMap_congr fun item _ => (itemRun_outcomes times executor files item).symm

/-! ### The results of one day -/

/-- What results tell of one day. -/
def outcomesOn (year day : Nat) (results : List PartResult) : List (Key × Except PartError String) :=
  (results.map PartResult.outcome).filter fun (key, _) => key.year = year && key.day = day

theorem year_day_of_mem_itemOutcomes (own : executor.registry.ReportsOwnDays)
    {times : Phase → Duration} {files : String → Except ReadFault String} {item : WorkItem}
    {outcome : Key × Except PartError String}
    (member : outcome ∈ executor.itemOutcomes times files item) :
    outcome.1.year = item.year ∧ outcome.1.day = item.day := by
  have key : outcome.1 ∈ item.keys :=
    executor.map_fst_itemOutcomes own times files item ▸ List.mem_map_of_mem member
  obtain ⟨part, _, same⟩ := List.mem_map.mp key
  rw [← same]
  exact ⟨rfl, rfl⟩

/-- Of its day a run sends what the item reports, and nothing else. -/
theorem outcomesOn_deliver (own : executor.registry.ReportsOwnDays) (times : Phase → Duration)
    (files : String → Except ReadFault String) {item : WorkItem}
    (listed : item ∈ executor.workItems) :
    outcomesOn item.year item.day (executor.deliver times files fun _ => true).sent =
      executor.itemOutcomes times files item := by
  obtain ⟨before, after, items⟩ := List.append_of_mem listed
  have ascending := executor.registry.workItems_ascending executor.selection
  rw [show executor.registry.workItems executor.selection = before ++ item :: after from items,
    List.pairwise_append, List.pairwise_cons] at ascending
  obtain ⟨_, ⟨later, _⟩, earlier⟩ := ascending
  have apart : ∀ other ∈ before ++ after, ¬ (other.year = item.year ∧ other.day = item.day) := by
    intro other member
    rcases List.mem_append.mp member with first | second
    · have order := earlier other first item List.mem_cons_self
      unfold WorkItem.Before at order
      omega
    · have order := later other second
      unfold WorkItem.Before at order
      omega
  -- The items before and after are for other days, of which nothing is kept.
  have silent (others : List WorkItem) (part_of : ∀ other ∈ others, other ∈ before ++ after) :
      (others.flatMap fun other => (executor.itemOutcomes times files other).filter
        fun (key, _) => key.year = item.year && key.day = item.day) = [] := by
    refine List.flatMap_eq_nil_iff.mpr fun other member => ?_
    refine List.filter_eq_nil_iff.mpr fun outcome reported => ?_
    obtain ⟨year, day⟩ := executor.year_day_of_mem_itemOutcomes own reported
    simpa [year, day] using apart other (part_of other member)
  have kept : ((executor.itemOutcomes times files item).filter fun (key, _) =>
      key.year = item.year && key.day = item.day) = executor.itemOutcomes times files item := by
    refine List.filter_eq_self.mpr fun outcome reported => ?_
    obtain ⟨year, day⟩ := executor.year_day_of_mem_itemOutcomes own reported
    simp [year, day]
  unfold outcomesOn
  rw [deliver_itemOutcomes, items, List.filter_flatMap, List.flatMap_append, List.flatMap_cons,
    silent before fun _ member => List.mem_append_left _ member,
    silent after fun _ member => List.mem_append_right _ member, kept, List.nil_append,
    List.append_nil]

end Executor

/-! ### Two runs -/

/-- Two runs on files that agree for the day of an item have the same results for that item, whatever
the other files hold. Where instances report the days they are found under, the results of the item
are those with its year and day. -/
theorem results_depend_on_own_input {executor : Executor} (layout : executor.source.file = none)
    {item : WorkItem} (listed : item ∈ executor.workItems)
    {files files' : String → Except ReadFault String}
    (agree : files (executor.source.path item.year item.day) =
      files' (executor.source.path item.year item.day)) :
    (∀ times contents, (executor.deliver times contents fun _ => true).sent.map
        PartResult.outcome = executor.workItems.flatMap (executor.itemOutcomes times contents)) ∧
      (∀ times times', executor.itemOutcomes times files item =
        executor.itemOutcomes times' files' item) ∧
      (∀ times year day content, ¬ (year = item.year ∧ day = item.day) →
        executor.itemOutcomes times
            (Function.update files (executor.source.path year day) content) item =
          executor.itemOutcomes times files item) ∧
      (executor.registry.ReportsOwnDays → ∀ times times' (arrival arrival' : List PartResult),
        arrival.Perm (executor.deliver times files fun _ => true).sent →
        arrival'.Perm (executor.deliver times' files' fun _ => true).sent →
          (Executor.outcomesOn item.year item.day arrival).Perm
              (Executor.outcomesOn item.year item.day arrival') ∧
            ((Executor.outcomesOn item.year item.day arrival).map Prod.fst).Perm item.keys) := by
  refine ⟨executor.deliver_itemOutcomes, ?_, ?_, ?_⟩
  · intro times times'
    exact executor.itemOutcomes_congr times times' agree
  · intro times year day content apart
    have elsewhere : executor.source.path item.year item.day ≠ executor.source.path year day := by
      intro shared
      obtain ⟨years, days⟩ := (InputSource.path_inj layout).mp shared
      exact apart ⟨years.symm, days.symm⟩
    apply executor.itemOutcomes_congr
    rw [Function.update_of_ne elsewhere]
  · intro own times times' arrival arrival' arrives arrives'
    have first : (Executor.outcomesOn item.year item.day arrival).Perm
        (executor.itemOutcomes times files item) := by
      rw [← executor.outcomesOn_deliver own times files listed]
      exact (arrives.map PartResult.outcome).filter _
    have second : (Executor.outcomesOn item.year item.day arrival').Perm
        (executor.itemOutcomes times' files' item) := by
      rw [← executor.outcomesOn_deliver own times' files' listed]
      exact (arrives'.map PartResult.outcome).filter _
    constructor
    · rw [← executor.itemOutcomes_congr times times' agree] at second
      exact first.trans second.symm
    · rw [← executor.map_fst_itemOutcomes own times files item]
      exact first.map Prod.fst

/-- Day 3 with a missing and with a malformed input for day 6. -/
theorem grid_results_depend_on_own_input :
    ∃ executor : Executor, Registry.ofPlugins Calendar.plugins ["grid"] = .ok executor.registry ∧
      executor.workItems = [⟨2015, 3, 1, 2⟩, ⟨2015, 6, 1, 2⟩] ∧
      let files path := if path = "2015_day03.txt" then .ok "^>v<" else .error .notFound
      let files' path := if path = "2015_day03.txt" then .ok "^>v<" else .ok "turn up 0,0"
      ∀ times times' (arrival arrival' : List PartResult),
        arrival.Perm (executor.deliver times files fun _ => true).sent →
        arrival'.Perm (executor.deliver times' files' fun _ => true).sent →
          (Executor.outcomesOn 2015 3 arrival).Perm (Executor.outcomesOn 2015 3 arrival') := by
  let run (registry : Registry) : Executor :=
    ⟨registry, ⟨"", none⟩, .sequential, ⟨none, none, none⟩⟩
  obtain ⟨registry, built, _⟩ := Calendar.exists_grid_registry
  have two : (run registry).workItems = _ := Calendar.grid_workItems built
  have listed : (⟨2015, 3, 1, 2⟩ : WorkItem) ∈ (run registry).workItems := by
    rw [two]
    exact List.mem_cons_self
  have path : InputSource.path ⟨"", none⟩ 2015 3 = "2015_day03.txt" := by decide +kernel
  refine ⟨run registry, built, two, fun times times' arrival arrival' arrives arrives' => ?_⟩
  exact ((results_depend_on_own_input rfl listed (by simp [run, path])).2.2.2
    (Registry.reportsOwnDays_of_plugins built) times times' arrival arrival' arrives arrives').1

end Advent
