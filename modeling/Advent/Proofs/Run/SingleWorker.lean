import Advent.Run.Executor

/-!
# One worker without a clock

A worker that reads given times only computes, in whatever monad a run takes place. So a run reads
the path of each of its items and does nothing else. On files that do not change its deliveries are
values, which are the same wherever it runs.
-/
namespace Advent

/-! ### One item -/

section Items

variable {m : Type → Type} [Monad m] [LawfulMonad m] (times : Phase → Duration)

/-- A worker without a clock only computes, in whatever monad the inputs are read. -/
theorem solveParts_single (factory : Factory) (state : factory.solver.State)
    (parseTime : Option Duration) (parts : List Nat) :
    solveParts (m := m) (.single times) factory state parseTime parts =
      pure (Id.run (solveParts (.single times) factory state parseTime parts)) := by
  induction parts generalizing state parseTime with
  | nil => rfl
  | cons part rest ih =>
    simp only [solveParts, solvePart, Workers.single, pure_bind] at ih ⊢
    rw [ih, pure_bind]
    rfl

theorem runShared_single (registry : Registry) (item : WorkItem) (input : String) :
    runShared (m := m) (.single times) registry item input =
      pure (Id.run (runShared (.single times) registry item input)) := by
  unfold runShared
  cases registry.factory item.year item.day with
  | error cause => rfl
  | ok factory =>
    simp only [Workers.single, pure_bind]
    cases factory.solver.parse input with
    | error cause => rfl
    | ok state =>
      have solved := solveParts_single (m := m) times factory state
        (some (times (.parsing item.year item.day none))) item.parts
      simp only [Workers.single] at solved
      simp only [solved, pure_bind]
      rfl

theorem runAlone_single (registry : Registry) (item : WorkItem) (input : String) (part : Nat) :
    runAlone (m := m) (.single times) registry item input part =
      pure (Id.run (runAlone (.single times) registry item input part)) := by
  unfold runAlone
  cases registry.factory item.year item.day with
  | error cause => rfl
  | ok factory =>
    simp only [Workers.single, pure_bind]
    cases factory.solver.parse input with
    | error cause => rfl
    | ok state =>
      simp only [solvePart, pure_bind]
      rfl

theorem runSplit_single (registry : Registry) (item : WorkItem) (input : String) :
    runSplit (m := m) (.single times) registry item input =
      pure (Id.run (runSplit (.single times) registry item input)) := by
  have alone : runAlone (m := m) (.single times) registry item input = fun part =>
      pure (Id.run (runAlone (.single times) registry item input part)) :=
    funext (runAlone_single times registry item input)
  simp only [runSplit, alone]
  simp [Workers.single, List.mapM_map]

/-- An item reads the path of its day and nothing else. -/
theorem runItem_single (registry : Registry) (source : InputSource) (parallelism : Parallelism)
    (read : String → m (Except ReadFault String)) (item : WorkItem) :
    runItem (.single times) registry source parallelism read item =
      (fun content => Id.run (runItem (.single times) registry source parallelism
        (fun _ => pure content) item)) <$> read (source.path item.year item.day) := by
  unfold runItem
  rw [map_eq_pure_bind]
  refine bind_congr fun content => ?_
  simp only [pure_bind]
  cases InputSource.ofRead (source.path item.year item.day) content with
  | error cause => rfl
  | ok input =>
    by_cases apart : parallelism = .part
    · simp only [if_pos apart, runSplit_single (m := m), pure_bind]
      rfl
    · simp only [if_neg apart, runShared_single (m := m), pure_bind]
      rfl

end Items

/-! ### Whole runs -/

namespace Executor

section Groups

variable {m : Type → Type} [Monad m] [LawfulMonad m] (executor : Executor)
  (times : Phase → Duration) (read : String → m (Except ReadFault String))
  (accepts : PartResult → Bool)

/-- The groups are run one after the other. -/
theorem execute_single :
    executor.execute (.single times) read accepts =
      Delivery.ofGroup <$>
        executor.groups.mapM (executor.runGroup (.single times) read accepts) := by
  simp [execute, start, Workers.single, List.mapM_map]

end Groups

variable (executor : Executor) (times : Phase → Duration)
  (files : String → Except ReadFault String)

/-- The run of an item on files that do not change. -/
def itemRun (item : WorkItem) : ItemRun :=
  Id.run <| runItem (.single times) executor.registry executor.source executor.parallelism
    (fun path => pure (files path)) item

/-- What is sent of a group to a receiver that may treat each item in another way. -/
def groupDelivery (accepts : WorkItem → PartResult → Bool) (items : List WorkItem) : Delivery :=
  .ofGroup (items.map fun item => .ofItem (accepts item) (executor.itemRun times files item))

/-- A whole run on files that do not change, with given times. -/
def deliver (accepts : PartResult → Bool) : Delivery :=
  Id.run <| executor.execute (.single times) (fun path => pure (files path)) accepts

theorem runGroup_single {m : Type → Type} [Monad m] [LawfulMonad m] (accepts : PartResult → Bool)
    (items : List WorkItem) :
    executor.runGroup (m := m) (.single times) (fun path => pure (files path)) accepts items =
      pure (executor.groupDelivery times files (fun _ => accepts) items) := by
  have each : runItem (m := m) (.single times) executor.registry executor.source
      executor.parallelism (fun path => pure (files path)) =
        fun item => pure (executor.itemRun times files item) := by
    funext item
    rw [itemRun, runItem_single, runItem_single, map_pure]
    rfl
  rw [runGroup, each, List.mapM_pure, pure_bind, List.map_map]
  rfl

theorem start_single {m : Type → Type} [Monad m] [LawfulMonad m] (accepts : PartResult → Bool) :
    executor.start (m := m) (.single times) (fun path => pure (files path)) accepts =
      pure (executor.groups.map fun items =>
        pure (executor.groupDelivery times files (fun _ => accepts) items)) :=
  congrArg (fun run => pure (executor.groups.map run))
    (funext (executor.runGroup_single times files accepts))

theorem deliver_eq (accepts : PartResult → Bool) :
    executor.deliver times files accepts =
      .ofGroup (executor.groups.map (executor.groupDelivery times files fun _ => accepts)) := by
  rw [deliver, execute, start_single, pure_bind, List.mapM_map, Function.id_comp,
    List.mapM_pure]
  rfl

end Executor

end Advent
