import Advent.Proofs.Registry.Factories
import Advent.Proofs.Run.Inputs
import Advent.Proofs.Run.Selections
import Advent.Proofs.Run.SingleWorker
import Advent.Run.Config
import Mathlib.Data.List.Nodup

/-!
# One file for one day

A run reads one path for each of its items, in the order of the items. Arguments with an explicit
file are accepted only with a year and a day, and a registry has at most one item for these, so the
file is read for one day at most. Without an explicit file all items are read from paths of their
own. So no run reads a path twice.
-/
namespace Advent

/-! ### The paths that a run reads -/

/-- Reads files that do not change and notes the paths asked for. -/
def notedRead (files : String → Except ReadFault String) (path : String) :
    StateM (List String) (Except ReadFault String) := do
  modify (· ++ [path])
  return files path

/-- What is noted of computations in a row, each of which notes the same whatever was before. -/
theorem mapM_notes {α β : Type} {compute : α → StateM (List String) β} {notes : α → List String}
    (each : ∀ input noted, ((compute input).run noted).2 = noted ++ notes input)
    (inputs : List α) (noted : List String) :
    ((inputs.mapM compute).run noted).2 = noted ++ inputs.flatMap notes := by
  induction inputs generalizing noted with
  | nil => exact (List.append_nil noted).symm
  | cons input rest ih =>
    -- The rest starts with what the first computation has left noted.
    rw [List.mapM_cons, List.flatMap_cons, ← List.append_assoc, ← each input noted]
    exact ih _

namespace Executor

variable (executor : Executor) (times : Phase → Duration)
  (files : String → Except ReadFault String) (accepts : PartResult → Bool)

/-- The paths that a whole run reads, in order. -/
def readPaths : List String :=
  ((executor.execute (.single times) (notedRead files) accepts).run []).2

/-- The path of an item. -/
def itemPath (item : WorkItem) : String :=
  executor.source.path item.year item.day

theorem runGroup_notes (items : List WorkItem) (noted : List String) :
    ((runGroup (.single times) (notedRead files) accepts executor items).run noted).2 =
      noted ++ items.map executor.itemPath := by
  have each (item : WorkItem) (noted : List String) :
      ((runItem (.single times) executor.registry executor.source executor.parallelism
        (notedRead files) item).run noted).2 = noted ++ [executor.itemPath item] := by
    rw [runItem_single]
    rfl
  have whole := mapM_notes each items noted
  rw [← List.map_eq_flatMap] at whole
  exact whole

/-- A run reads for every item the path of the item, once. -/
theorem readPaths_eq :
    executor.readPaths times files accepts = executor.workItems.map executor.itemPath := by
  have whole := mapM_notes (executor.runGroup_notes times files accepts) executor.groups []
  have items : executor.groups.flatten = executor.workItems :=
    Parallelism.groups_flatten _ _
  rw [readPaths, execute_single, ← items, List.map_flatten]
  exact whole

end Executor

/-! ### Days -/

theorem WorkItem.Before.day_ne {first second : WorkItem} (before : first.Before second) :
    ¬ (first.year = second.year ∧ first.day = second.day) := by
  unfold Before at before
  omega

/-- Without an explicit file no two items have the same path. -/
theorem Executor.itemPaths_nodup {executor : Executor} (layout : executor.source.file = none) :
    (executor.workItems.map executor.itemPath).Nodup := by
  apply List.pairwise_map.mpr
  apply (executor.registry.workItems_ascending executor.selection).imp
  intro item later before shared
  exact before.day_ne ((InputSource.path_inj layout).mp shared)

namespace Registry

variable {registry : Registry} {part : Option Nat}

theorem day_of_mem_workItems {year day : Nat} {item : WorkItem}
    (member : item ∈ registry.workItems ⟨some year, some day, part⟩) :
    item.year = year ∧ item.day = day := by
  obtain ⟨info, _, ⟨years, days⟩, taken⟩ := (registry.mem_workItems_iff _ item).mp member
  obtain ⟨same_year, same_day⟩ := WorkItem.ofInfo?_day taken
  exact ⟨same_year.trans (years year rfl), same_day.trans (days day rfl)⟩

/-- A filter by year and day leaves one item at most. -/
theorem length_workItems_of_day (registry : Registry) (year day : Nat) (part : Option Nat) :
    (registry.workItems ⟨some year, some day, part⟩).length ≤ 1 := by
  have ascending := registry.workItems_ascending ⟨some year, some day, part⟩
  have own {item : WorkItem} (member : item ∈ registry.workItems ⟨some year, some day, part⟩) :=
    day_of_mem_workItems member
  -- Two items would be of the same day, but their days ascend.
  match listed : registry.workItems ⟨some year, some day, part⟩ with
  | [] | [_] => simp
  | first :: second :: rest =>
    rw [listed] at ascending own
    have before : first.Before second := List.rel_of_pairwise_cons ascending List.mem_cons_self
    obtain ⟨first_year, first_day⟩ := own List.mem_cons_self
    obtain ⟨second_year, second_day⟩ := own (List.mem_cons_of_mem first List.mem_cons_self)
    exact absurd ⟨first_year.trans second_year.symm, first_day.trans second_day.symm⟩ before.day_ne

/-- The filters by its year and day leave an item alone. -/
theorem workItems_of_item {item : WorkItem}
    (listed : item ∈ registry.workItems ⟨none, none, part⟩) :
    registry.workItems ⟨some item.year, some item.day, part⟩ = [item] := by
  have kept : item ∈ registry.workItems ⟨some item.year, some item.day, part⟩ := by
    obtain ⟨info, known, _, taken⟩ := (registry.mem_workItems_iff _ item).mp listed
    obtain ⟨year, day⟩ := WorkItem.ofInfo?_day taken
    apply (registry.mem_workItems_iff _ item).mpr
    exact ⟨info, known, by simp [year, day], taken⟩
  have single := registry.length_workItems_of_day item.year item.day part
  match registry.workItems ⟨some item.year, some item.day, part⟩, single, kept with
  | [other], _, kept => rw [List.mem_singleton.mp kept]

end Registry

/-! ### Accepted arguments -/

namespace Config

variable {home : Option String} {cores : Nat} {arguments : Arguments} {config : Config}
  (accepted : ofArguments home cores arguments = .ok config)

include accepted

/-- An accepted configuration has the filters of its arguments, and an explicit file has a day. -/
theorem of_accepted :
    (arguments.input.isSome → arguments.year.isSome ∧ arguments.day.isSome) ∧
      config.selection = ⟨arguments.year, arguments.day, arguments.part⟩ ∧
      config.source.file = arguments.input.map (expandHome home) := by
  unfold ofArguments at accepted
  split at accepted
  · cases accepted
  next complete =>
    split at accepted
    · cases accepted
    · cases accepted
      refine ⟨fun given => ?_, rfl, rfl⟩
      simpa [given, Option.isSome_iff_ne_none] using complete

theorem file_of_no_input (not_given : arguments.input = none) : config.source.file = none := by
  obtain ⟨_, _, source⟩ := of_accepted accepted
  rw [source, not_given]
  rfl

theorem day_of_input {file : String} (given : arguments.input = some file) :
    ∃ year day, arguments.year = some year ∧ arguments.day = some day ∧
      config.selection = ⟨some year, some day, arguments.part⟩ ∧
      config.source.file = some (expandHome home file) := by
  obtain ⟨complete, selection, source⟩ := of_accepted accepted
  rw [given] at complete source
  obtain ⟨year_given, day_given⟩ := complete rfl
  obtain ⟨year, year_eq⟩ := Option.isSome_iff_exists.mp year_given
  obtain ⟨day, day_eq⟩ := Option.isSome_iff_exists.mp day_given
  rw [year_eq, day_eq] at selection
  exact ⟨year, day, year_eq, day_eq, selection, source⟩

/-- An explicit file is the path of one item at most, which is of the day that is given. -/
theorem workItems_of_input (registry : Registry) {file : String}
    (given : arguments.input = some file) :
    let executor := config.executor registry
    executor.workItems.length ≤ 1 ∧ ∀ item ∈ executor.workItems,
      arguments.year = some item.year ∧ arguments.day = some item.day ∧
        executor.itemPath item = expandHome home file := by
  intro executor
  obtain ⟨year, day, year_eq, day_eq, selection, source⟩ := day_of_input accepted given
  have items : executor.workItems = registry.workItems ⟨some year, some day, arguments.part⟩ :=
    congrArg registry.workItems selection
  rw [items]
  refine ⟨registry.length_workItems_of_day year day arguments.part, fun item member => ?_⟩
  obtain ⟨rfl, rfl⟩ := Registry.day_of_mem_workItems member
  refine ⟨year_eq, day_eq, ?_⟩
  change config.source.path item.year item.day = _
  rw [InputSource.path, source]

end Config

/-- Under accepted arguments no run reads a path twice: an explicit file is read for the day that
the arguments give or for none, and without one no two items share a path. -/
theorem explicit_input_read_for_one_day {home : Option String} {cores : Nat}
    {arguments : Arguments} {config : Config}
    (accepted : Config.ofArguments home cores arguments = .ok config) (registry : Registry) :
    let executor := config.executor registry
    (∀ file, arguments.input = some file → executor.workItems.length ≤ 1 ∧
      ∀ item ∈ executor.workItems, arguments.year = some item.year ∧
        arguments.day = some item.day ∧ executor.itemPath item = expandHome home file) ∧
    (arguments.input = none → ∀ item ∈ executor.workItems, ∀ item' ∈ executor.workItems,
      executor.itemPath item = executor.itemPath item' → item = item') ∧
    ∀ times files accepts,
      executor.readPaths times files accepts = executor.workItems.map executor.itemPath ∧
        (executor.readPaths times files accepts).Nodup := by
  intro executor
  have distinct (not_given : arguments.input = none) :
      (executor.workItems.map executor.itemPath).Nodup :=
    Executor.itemPaths_nodup (Config.file_of_no_input accepted not_given)
  refine ⟨fun file given => Config.workItems_of_input accepted registry given, ?_, ?_⟩
  · intro not_given item member item' member' shared
    exact List.inj_on_of_nodup_map (distinct not_given) member member' shared
  · intro times files accepts
    rw [executor.readPaths_eq]
    refine ⟨rfl, ?_⟩
    cases given : arguments.input with
    | none => exact distinct given
    | some file =>
      -- A run with one item at most has nothing to read twice.
      obtain ⟨single, _⟩ := Config.workItems_of_input accepted registry given
      match executor.workItems, single with
      | [], _ => exact List.nodup_nil
      | [item], _ => exact List.nodup_singleton _

/-- An explicit file for day 3, and no file for days 3 and 6. -/
theorem one_of_two_days_reads_explicit_input :
    ∃ registry, Registry.ofPlugins Calendar.plugins ["grid"] = .ok registry ∧
      (∃ config, Config.ofArguments (some "/home/elf") 4
          { year := some 2015, day := some 3, input := some "~/my.txt" } = .ok config ∧
        ∀ times files accepts,
          (config.executor registry).readPaths times files accepts = ["/home/elf/my.txt"]) ∧
      ∃ config, Config.ofArguments (some "/home/elf") 4 {} = .ok config ∧
        ∀ times files accepts, (config.executor registry).readPaths times files accepts =
          ["inputs/2015_day03.txt", "inputs/2015_day06.txt"] := by
  obtain ⟨registry, built, _⟩ := Calendar.exists_grid_registry
  have both := Calendar.grid_workItems built
  have listed : (⟨2015, 3, 1, 2⟩ : WorkItem) ∈ registry.workItems ⟨none, none, none⟩ := by
    rw [both]
    exact List.mem_cons_self
  have third := Registry.workItems_of_item listed
  have directory : expandHome (some "/home/elf") "inputs" = "inputs" := by decide +kernel
  have file : expandHome (some "/home/elf") "~/my.txt" = "/home/elf/my.txt" := by decide +kernel
  have explicit : Config.ofArguments (some "/home/elf") 4
      { year := some 2015, day := some 3, input := some "~/my.txt" } =
        .ok ⟨⟨some 2015, some 3, none⟩, [], ⟨"inputs", some "/home/elf/my.txt"⟩, 4, .day, false,
          false⟩ := by
    simp [Config.ofArguments, directory, file]
  have layout : Config.ofArguments (some "/home/elf") 4 {} =
      .ok ⟨⟨none, none, none⟩, [], ⟨"inputs", none⟩, 4, .day, false, false⟩ := by
    simp [Config.ofArguments, directory]
  refine ⟨registry, built, ⟨_, explicit, fun times files accepts => ?_⟩,
    ⟨_, layout, fun times files accepts => ?_⟩⟩
  · obtain ⟨_, _, reads⟩ := explicit_input_read_for_one_day explicit registry
    rw [(reads times files accepts).1]
    exact congrArg (List.map _) third
  · obtain ⟨_, _, reads⟩ := explicit_input_read_for_one_day layout registry
    rw [(reads times files accepts).1]
    refine (congrArg (List.map _) both).trans ?_
    change [InputSource.path ⟨"inputs", none⟩ 2015 3, InputSource.path ⟨"inputs", none⟩ 2015 6] = _
    decide +kernel

end Advent
