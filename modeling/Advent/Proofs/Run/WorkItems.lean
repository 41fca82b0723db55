import Advent.Proofs.Registry.Registrations
import Advent.Run.Executor
import Mathlib.Data.List.Flatten

/-!
# The order of work items

A registry lists its days in ascending order, and so do the work items that a selection leaves. The
keys of the items ascend strictly, which makes every expected key expected once. Grouping items for
workers that run side by side neither loses nor reorders any.
-/
namespace Advent

def WorkItem.Before (first second : WorkItem) : Prop :=
  first.year < second.year ∨ first.year = second.year ∧ first.day < second.day

/-! ### Ascending items and keys -/

theorem WorkItem.ofInfo?_day {part : Option Nat} {info : SolverInfo} {item : WorkItem}
    (taken : WorkItem.ofInfo? part info = some item) :
    item.year = info.year ∧ item.day = info.day := by
  unfold WorkItem.ofInfo? at taken
  split at taken <;> split at taken
  all_goals cases taken
  all_goals exact ⟨rfl, rfl⟩

/-- Items come from registered days. -/
theorem Registry.contains_of_mem_workItems {registry : Registry} {selection : Selection}
    {item : WorkItem} (member : item ∈ registry.workItems selection) :
    registry.contains item.year item.day = true := by
  obtain ⟨info, listed, taken⟩ := List.mem_filterMap.mp member
  obtain ⟨year, day⟩ := WorkItem.ofInfo?_day taken
  rw [contains_iff]
  exact ⟨info, (List.mem_filter.mp listed).1, year.symm, day.symm⟩

theorem Registry.workItems_ascending (registry : Registry) (selection : Selection) :
    (registry.workItems selection).Pairwise WorkItem.Before := by
  refine List.Pairwise.filterMap _ ?_ (registry.infos_ascending.filter _)
  intro info info' before item taken item' taken'
  obtain ⟨year, day⟩ := WorkItem.ofInfo?_day taken
  obtain ⟨year', day'⟩ := WorkItem.ofInfo?_day taken'
  unfold WorkItem.Before
  rw [year, day, year', day']
  exact before

theorem WorkItem.keys_ascending (item : WorkItem) : item.keys.Pairwise Key.Before := by
  refine List.pairwise_map.mpr ((List.pairwise_lt_range' (s := item.firstPart)).imp ?_)
  intro part part' before
  exact Or.inr ⟨rfl, Or.inr ⟨rfl, before⟩⟩

theorem Registry.keys_ascending (registry : Registry) (selection : Selection) :
    ((registry.workItems selection).flatMap WorkItem.keys).Pairwise Key.Before := by
  refine List.pairwise_flatMap.mpr ⟨fun item _ => item.keys_ascending, ?_⟩
  refine (registry.workItems_ascending selection).imp ?_
  intro item item' before key member key' member'
  obtain ⟨part, _, rfl⟩ := List.mem_map.mp member
  obtain ⟨part', _, rfl⟩ := List.mem_map.mp member'
  rcases before with earlier | ⟨same, earlier⟩
  · exact Or.inl earlier
  · exact Or.inr ⟨same, Or.inl earlier⟩

theorem Executor.expectedKeys_ascending (executor : Executor) :
    executor.expectedKeys.Pairwise Key.Before :=
  executor.registry.keys_ascending executor.selection

/-! ### Groups -/

theorem groupByYear_flatten (items : List WorkItem) : (groupByYear items).flatten = items := by
  induction items with
  | nil => rfl
  | cons item rest ih =>
    unfold groupByYear
    split
    next next group groups grouped =>
      rw [grouped] at ih
      split <;> simp [← ih]
    · simp [ih]

theorem Parallelism.groups_flatten (items : List WorkItem) (parallelism : Parallelism) :
    (parallelism.groups items).flatten = items := by
  cases parallelism with
  | sequential => simp [Parallelism.groups]
  | year => exact groupByYear_flatten items
  | day => simp [Parallelism.groups, ← List.flatMap_def]
  | part => simp [Parallelism.groups, ← List.flatMap_def]

/-! ### The items of the grid -/

/-- The days tagged with the grid are 3 and 6, with two parts each. -/
theorem Calendar.grid_workItems {registry : Registry}
    (built : Registry.ofPlugins plugins ["grid"] = .ok registry) :
    registry.workItems ⟨none, none, none⟩ = [⟨2015, 3, 1, 2⟩, ⟨2015, 6, 1, 2⟩] := by
  have facts : ((Registry.ofPlugins plugins ["grid"]).map fun registry =>
      (registry.size, registry.info? 2015 3, registry.info? 2015 6)).toOption =
        some (2, some ⟨2015, 3, 2⟩, some ⟨2015, 6, 2⟩) := by
    decide +kernel
  rw [built] at facts
  simp only [Except.map, Except.toOption, Option.some.injEq, Prod.mk.injEq,
    Registry.info?_eq_some_iff, Registry.size_eq_length_infos] at facts
  obtain ⟨size, ⟨third, _⟩, ⟨sixth, _⟩⟩ := facts
  obtain ⟨info, info', two⟩ := List.length_eq_two.mp size
  have ascending := registry.infos_ascending
  rw [two] at third sixth ascending
  have before : info.Before info' := by simpa using ascending
  simp only [List.mem_cons, List.not_mem_nil, or_false] at third sixth
  have infos : registry.infos = [⟨2015, 3, 2⟩, ⟨2015, 6, 2⟩] := by
    -- One info cannot be both, and the other way round they would not ascend.
    rcases third with rfl | rfl <;> rcases sixth with same | same
    · cases same
    · exact same ▸ two
    · exact absurd (same ▸ before) (by simp [SolverInfo.Before])
    · cases same
  unfold Registry.workItems
  rw [infos]
  rfl

end Advent
