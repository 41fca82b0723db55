import Advent.Proofs.Run.WorkItems

/-!
# What a selection leaves

The work items of a selection stand for the registered parts that pass every filter, each once and in
ascending order, and no item is without parts. Grouping puts neighbours of one year together. As the
items ascend by year, all items of a year are neighbours, so no year is split into two groups.
-/
namespace Advent

/-- The key passes every filter that is given. -/
structure Selection.Matches (selection : Selection) (key : Key) : Prop where
  year : ∀ year ∈ selection.year, key.year = year
  day : ∀ day ∈ selection.day, key.day = day
  part : ∀ part ∈ selection.part, key.part = part

/-! ### Parts -/

namespace WorkItem

theorem mem_keys_iff (item : WorkItem) (key : Key) :
    key ∈ item.keys ↔ item.year = key.year ∧ item.day = key.day ∧
      item.firstPart ≤ key.part ∧ key.part ≤ item.lastPart := by
  obtain ⟨year, day, part⟩ := key
  simp only [keys, parts, List.mem_map, List.mem_range'_1, Key.mk.injEq]
  constructor
  · rintro ⟨_, within, rfl, rfl, rfl⟩
    exact ⟨rfl, rfl, by omega⟩
  · rintro ⟨rfl, rfl, within⟩
    exact ⟨part, by omega, rfl, rfl, rfl⟩

/-- An item stands for the parts of its day that the solver has and the filter leaves. -/
theorem mem_keys_of_info_iff {part : Option Nat} (counted : ∀ number ∈ part, 1 ≤ number)
    (info : SolverInfo) (key : Key) :
    (∃ item, ofInfo? part info = some item ∧ key ∈ item.keys) ↔
      info.year = key.year ∧ info.day = key.day ∧ 1 ≤ key.part ∧ key.part ≤ info.parts ∧
        ∀ number ∈ part, key.part = number := by
  simp only [mem_keys_iff]
  cases part with
  | none =>
    simp only [ofInfo?]
    split
    next some_part => simp
    next no_part =>
      simp only [reduceCtorEq, false_and, exists_false, false_iff]
      omega
  | some number =>
    have positive : 1 ≤ number := counted number rfl
    simp only [ofInfo?, Option.mem_some_iff, forall_eq']
    split
    next has_part =>
      simp only [Option.some.injEq, exists_eq_left']
      omega
    next lacks_part =>
      simp only [reduceCtorEq, false_and, exists_false, false_iff]
      omega

/-- A reversed range makes no item. -/
theorem parts_ne_nil_of_info {part : Option Nat} {info : SolverInfo} {item : WorkItem}
    (taken : ofInfo? part info = some item) : item.parts ≠ [] := by
  have filled : item.firstPart ≤ item.lastPart := by
    simp only [ofInfo?] at taken
    split at taken <;> split at taken
    · cases taken
      exact Nat.le_refl _
    · cases taken
    next some_part =>
      cases taken
      exact some_part
    · cases taken
  simp only [parts, ne_eq, List.range'_eq_nil_iff]
  omega

end WorkItem

theorem Registry.mem_workItems_iff (registry : Registry) (selection : Selection)
    (item : WorkItem) : item ∈ registry.workItems selection ↔
      ∃ info ∈ registry.infos, ((∀ year ∈ selection.year, info.year = year) ∧
        ∀ day ∈ selection.day, info.day = day) ∧
          WorkItem.ofInfo? selection.part info = some item := by
  simp only [workItems, List.mem_filterMap, List.mem_filter, Bool.and_eq_true, Option.all_eq_true,
    decide_eq_true_eq, and_assoc]
  rfl

/-- The keys of the items are those of the registered parts that match. -/
theorem Registry.mem_keys_iff (registry : Registry) {selection : Selection}
    (counted : ∀ part ∈ selection.part, 1 ≤ part) (key : Key) :
    key ∈ (registry.workItems selection).flatMap WorkItem.keys ↔
      selection.Matches key ∧ ∃ info, registry.info? key.year key.day = some info ∧
        1 ≤ key.part ∧ key.part ≤ info.parts := by
  simp only [List.mem_flatMap, mem_workItems_iff, info?_eq_some_iff]
  constructor
  · rintro ⟨item, ⟨info, listed, ⟨year, day⟩, taken⟩, member⟩
    obtain ⟨same_year, same_day, positive, within, part⟩ :=
      (WorkItem.mem_keys_of_info_iff counted info key).mp ⟨item, taken, member⟩
    rw [same_year] at year
    rw [same_day] at day
    exact ⟨⟨year, day, part⟩, info, ⟨listed, same_year, same_day⟩, positive, within⟩
  · rintro ⟨⟨year, day, part⟩, info, ⟨listed, same_year, same_day⟩, positive, within⟩
    obtain ⟨item, taken, member⟩ := (WorkItem.mem_keys_of_info_iff counted info key).mpr
      ⟨same_year, same_day, positive, within, part⟩
    rw [← same_year] at year
    rw [← same_day] at day
    exact ⟨item, ⟨info, listed, ⟨year, day⟩, taken⟩, member⟩

/-! ### Years -/

theorem groupByYear_cons_first (item : WorkItem) (rest : List WorkItem) :
    ∃ group groups, groupByYear (item :: rest) = (item :: group) :: groups := by
  simp only [groupByYear]
  split
  · split
    · exact ⟨_, _, rfl⟩
    · exact ⟨[], _, rfl⟩
  · exact ⟨[], _, rfl⟩

/-- An item joins the group of the item after it if they have the same year. -/
theorem groupByYear_cons_cases (item : WorkItem) (rest : List WorkItem) :
    (∃ next group groups, groupByYear rest = (next :: group) :: groups ∧ item.year = next.year ∧
      groupByYear (item :: rest) = (item :: next :: group) :: groups) ∨
    (∀ next ∈ rest.head?, item.year ≠ next.year) ∧
      groupByYear (item :: rest) = [item] :: groupByYear rest := by
  cases rest with
  | nil => exact Or.inr ⟨by simp, rfl⟩
  | cons next rest =>
    obtain ⟨group, groups, first⟩ := groupByYear_cons_first next rest
    by_cases same : item.year = next.year
    · refine Or.inl ⟨next, group, groups, first, same, ?_⟩
      rw [groupByYear, first]
      exact if_pos same
    · refine Or.inr ⟨by simpa using same, ?_⟩
      rw [groupByYear, first]
      exact if_neg same

/-- Every group is of one year. -/
theorem year_of_mem_groupByYear (items : List WorkItem) :
    ∀ group ∈ groupByYear items, group ≠ [] ∧ ∃ year, ∀ item ∈ group, item.year = year := by
  induction items with
  | nil => simp [groupByYear]
  | cons item rest ih =>
    rcases groupByYear_cons_cases item rest with
      ⟨next, group, groups, first, same, joined⟩ | ⟨_, apart⟩
    · rw [first, List.forall_mem_cons] at ih
      obtain ⟨⟨_, year, alike⟩, others⟩ := ih
      rw [joined]
      refine List.forall_mem_cons.mpr ⟨⟨by simp, year, ?_⟩, others⟩
      exact List.forall_mem_cons.mpr ⟨same.trans (alike next List.mem_cons_self), alike⟩
    · rw [apart]
      exact List.forall_mem_cons.mpr ⟨⟨by simp, item.year, by simp⟩, ih⟩

/-- Where the years ascend, every group is of an earlier year than the groups after it. -/
theorem groupByYear_ascending {items : List WorkItem}
    (ascending : items.Pairwise fun item later => item.year ≤ later.year) :
    (groupByYear items).Pairwise fun group later =>
      ∀ item ∈ group, ∀ item' ∈ later, item.year < item'.year := by
  induction items with
  | nil => exact List.Pairwise.nil
  | cons item rest ih =>
    obtain ⟨least, tail⟩ := List.pairwise_cons.mp ascending
    have later := ih tail
    rcases groupByYear_cons_cases item rest with
      ⟨next, group, groups, first, same, joined⟩ | ⟨different, apart⟩
    · -- The item joins the first group and is before the other groups, as the next item is.
      rw [first] at later
      obtain ⟨after, others⟩ := List.pairwise_cons.mp later
      rw [joined]
      refine List.pairwise_cons.mpr ⟨fun other member => ?_, others⟩
      refine List.forall_mem_cons.mpr ⟨?_, after other member⟩
      rw [same]
      exact after other member next List.mem_cons_self
    · -- The next item is of a later year, and no item after it is of an earlier one.
      have below : ∀ item' ∈ rest, item.year < item'.year := by
        cases rest with
        | nil => simp
        | cons next rest =>
          have first := Nat.lt_of_le_of_ne (least next List.mem_cons_self) (different next rfl)
          have rising := (List.pairwise_cons.mp tail).1
          exact List.forall_mem_cons.mpr
            ⟨first, fun item' member => first.trans_le (rising item' member)⟩
      rw [apart]
      refine List.pairwise_cons.mpr ⟨fun group member item' alone other inside => ?_, later⟩
      obtain rfl := List.mem_singleton.mp alone
      apply below other
      rw [← groupByYear_flatten rest]
      exact List.mem_flatten_of_mem member inside

/-! ### Selections -/

/-- Every selection leaves exactly the registered parts that match it, each once and in ascending
order, in items that have parts; and these are divided into groups of distinct years. -/
theorem matching_parts_listed_once (registry : Registry) {selection : Selection}
    (counted : ∀ part ∈ selection.part, 1 ≤ part) :
    let items := registry.workItems selection
    let groups := Parallelism.year.groups items
    (items.flatMap WorkItem.keys).Pairwise Key.Before ∧
    (∀ key, key ∈ items.flatMap WorkItem.keys ↔
      selection.Matches key ∧ ∃ info, registry.info? key.year key.day = some info ∧
        1 ≤ key.part ∧ key.part ≤ info.parts) ∧
    (∀ item ∈ items, item.parts ≠ []) ∧
    groups.flatten = items ∧
    (∀ group ∈ groups, group ≠ [] ∧ ∃ year, ∀ item ∈ group, item.year = year) ∧
    groups.Pairwise fun group later => ∀ item ∈ group, ∀ item' ∈ later, item.year ≠ item'.year := by
  intro items groups
  have rising : items.Pairwise fun item later => item.year ≤ later.year := by
    refine (registry.workItems_ascending selection).imp fun before => ?_
    exact before.elim Nat.le_of_lt fun same => Nat.le_of_eq same.1
  refine ⟨registry.keys_ascending selection, registry.mem_keys_iff counted, ?_,
    groupByYear_flatten items, year_of_mem_groupByYear items, ?_⟩
  · intro item member
    obtain ⟨info, _, _, taken⟩ := (registry.mem_workItems_iff selection item).mp member
    exact WorkItem.parts_ne_nil_of_info taken
  · apply (groupByYear_ascending rising).imp
    intro group later before item member item' member'
    exact Nat.ne_of_lt (before item member item' member')

/-- Of four days, one without parts and one without a second part are left out. -/
theorem second_parts_of_four_days :
    let calls : List Registration :=
      [⟨2016, 1, ⟨⟨Floors.solver, 2016, 1⟩, 3⟩⟩, ⟨2015, 2, ⟨⟨Floors.solver, 2015, 2⟩, 0⟩⟩,
        ⟨2015, 9, ⟨⟨Floors.solver, 2015, 9⟩, 255⟩⟩, ⟨2015, 4, ⟨⟨Floors.solver, 2015, 4⟩, 1⟩⟩]
    let selection : Selection := ⟨none, none, some 2⟩
    ∃ registry, Registry.empty.registerAll calls = .ok registry ∧
      (∀ part ∈ selection.part, 1 ≤ part) ∧
      Parallelism.year.groups (registry.workItems selection) =
        [[⟨2015, 9, 2, 2⟩], [⟨2016, 1, 2, 2⟩]] ∧
      ∀ key, key ∈ [(⟨2015, 9, 2⟩ : Key), ⟨2016, 1, 2⟩] ↔
        selection.Matches key ∧ ∃ info, registry.info? key.year key.day = some info ∧
          1 ≤ key.part ∧ key.part ≤ info.parts := by
  intro calls selection
  obtain ⟨registry, registered⟩ := (Registry.registerAll_empty_ok_iff calls).mpr
    ⟨by decide, by decide⟩
  have infos : registry.infos =
      [⟨2015, 2, 0⟩, ⟨2015, 4, 1⟩, ⟨2015, 9, 255⟩, ⟨2016, 1, 3⟩] := by
    refine registry.infos_eq_of_mem_iff (by simp [SolverInfo.Before]) fun info => ?_
    rw [Registry.mem_infos_of_chain registered]
    simp only [calls, List.mem_cons, List.not_mem_nil, or_false, exists_eq_or_imp, exists_eq_left]
    tauto
  have items : registry.workItems selection = [⟨2015, 9, 2, 2⟩, ⟨2016, 1, 2, 2⟩] := by
    rw [Registry.workItems, infos]
    rfl
  have counted : ∀ part ∈ selection.part, 1 ≤ part := by simp [selection]
  obtain ⟨_, listed, _⟩ := matching_parts_listed_once registry counted
  refine ⟨registry, registered, counted, by rw [items]; rfl, fun key => ?_⟩
  rw [← listed key, items]
  rfl

end Advent
