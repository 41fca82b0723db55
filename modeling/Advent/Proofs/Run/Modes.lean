import Advent.Proofs.Puzzle.FreshAnswers
import Advent.Proofs.Run.Outcomes

/-!
# Modes agree

Runs differ in what works side by side and in whether the parts of an item share an instance. With
solvers whose answers do not depend on earlier calls, neither shows in the outcomes: each run sends,
in some order, the outcomes that a new instance for each part would give. Inputs that cannot be
loaded and solvers that cannot be set up fail all parts of their item in every mode.
-/
namespace Advent

namespace Registry

/-- No solver of the registry answers differently because of earlier calls. -/
def Independent (registry : Registry) : Prop :=
  ∀ year day factory, registry.factory year day = .ok factory → factory.solver.Independent

theorem outcomes_of_independent {registry : Registry} (independent : registry.Independent)
    (mode : Parallelism) (item : WorkItem) (loaded : Except InputError String) :
    registry.outcomes mode.respond item loaded =
      registry.outcomes Instance.freshAnswers item loaded := by
  cases loaded with
  | error cause => rfl
  | ok input =>
    cases created : registry.create item.year item.day input with
    | error cause => rw [outcomes_of_refused created, outcomes_of_refused created]
    | ok running =>
      obtain ⟨found, read⟩ := (create_eq_ok_iff ..).mp created
      have same := running.answers_eq_freshAnswers read (independent _ _ _ found) item.parts
      rw [outcomes_of_created created, outcomes_of_created created]
      cases mode with
      | part => rfl
      | sequential | year | day => rw [Parallelism.respond, same]

theorem independent_of_plugins {tags : List String} {registry : Registry}
    (built : ofPlugins Calendar.plugins tags = .ok registry) : registry.Independent := by
  intro year day factory found
  obtain ⟨plugin, member, _, _, _, rfl⟩ := factory_of_plugins built found
  exact Calendar.plugins_independent plugin member

end Registry

namespace Executor

/-- The same run with another mode. -/
def inMode (executor : Executor) (mode : Parallelism) : Executor :=
  { executor with parallelism := mode }

theorem deliver_outcomes_of_independent {executor : Executor}
    (independent : executor.registry.Independent) (mode : Parallelism) (times : Phase → Duration)
    (files : String → Except ReadFault String) :
    ((executor.inMode mode).deliver times files fun _ => true).sent.map PartResult.outcome =
      executor.workItems.flatMap fun item =>
        executor.registry.outcomes Instance.freshAnswers item
          (executor.source.load files item) := by
  refine ((executor.inMode mode).deliver_all_outcomes times files).trans ?_
  exact List.flatMap_congr fun item _ =>
    Registry.outcomes_of_independent independent mode item _

/-- What every part of an item reports, any run that takes every result reports. -/
theorem mem_outcomes_of_failures {executor : Executor} {item : WorkItem}
    (listed : item ∈ executor.workItems) {files : String → Except ReadFault String}
    {error : PartError}
    (fails : ∀ respond, executor.registry.outcomes respond item (executor.source.load files item) =
      item.failures error)
    (mode : Parallelism) (times : Phase → Duration) {part : Nat} (asked : part ∈ item.parts) :
    (⟨item.year, item.day, part⟩, .error error) ∈
      ((executor.inMode mode).deliver times files fun _ => true).sent.map PartResult.outcome := by
  rw [deliver_all_outcomes]
  refine List.mem_flatMap.mpr ⟨item, listed, ?_⟩
  refine (fails mode.respond).symm ▸ ?_
  exact List.mem_map.mpr ⟨_, List.mem_map.mpr ⟨part, asked, rfl⟩, rfl⟩

end Executor

/-- Runs in any two modes, with results that arrive in any order, have the same outcomes. -/
theorem outcomes_same_in_every_mode {executor : Executor}
    (independent : executor.registry.Independent) (files : String → Except ReadFault String) :
    (∀ mode mode' times times' (arrival arrival' : List PartResult),
      arrival.Perm ((executor.inMode mode).deliver times files fun _ => true).sent →
      arrival'.Perm ((executor.inMode mode').deliver times' files fun _ => true).sent →
        (arrival.map PartResult.outcome).Perm (arrival'.map PartResult.outcome)) ∧
    ∀ mode times, ∀ item ∈ executor.workItems, ∀ part ∈ item.parts,
      (∀ cause, executor.source.load files item = .error cause →
        (⟨item.year, item.day, part⟩, .error (.input cause)) ∈
          ((executor.inMode mode).deliver times files fun _ => true).sent.map
            PartResult.outcome) ∧
      ∀ input cause, executor.source.load files item = .ok input →
        executor.registry.create item.year item.day input = .error cause →
          (⟨item.year, item.day, part⟩, .error (.setup cause)) ∈
            ((executor.inMode mode).deliver times files fun _ => true).sent.map
              PartResult.outcome := by
  refine ⟨?_, ?_⟩
  · intro mode mode' times times' arrival arrival' arrives arrives'
    have first := arrives.map PartResult.outcome
    have second := arrives'.map PartResult.outcome
    rw [Executor.deliver_outcomes_of_independent independent] at first second
    exact first.trans second.symm
  · intro mode times item listed part asked
    refine ⟨fun cause missing => ?_, fun input cause loaded refused => ?_⟩
    · exact Executor.mem_outcomes_of_failures listed (fun respond => by rw [missing]; rfl)
        mode times asked
    · exact Executor.mem_outcomes_of_failures listed
        (fun respond => by rw [loaded, Registry.outcomes_of_refused refused]) mode times asked

/-- Days 3 and 6 with one input file missing. -/
theorem grid_outcomes_same_in_every_mode :
    ∃ executor : Executor,
      Registry.ofPlugins Calendar.plugins ["grid"] = .ok executor.registry ∧
      executor.registry.size = 2 ∧ executor.registry.Independent ∧
      let files path := if path = "2015_day03.txt" then .ok "^>v<" else .error .notFound
      ∀ mode mode' times times' (arrival arrival' : List PartResult),
        arrival.Perm ((executor.inMode mode).deliver times files fun _ => true).sent →
        arrival'.Perm ((executor.inMode mode').deliver times' files fun _ => true).sent →
          (arrival.map PartResult.outcome).Perm (arrival'.map PartResult.outcome) := by
  obtain ⟨registry, built, two⟩ := Calendar.exists_grid_registry
  have independent := Registry.independent_of_plugins built
  exact ⟨⟨registry, ⟨"", none⟩, .sequential, ⟨none, none, none⟩⟩, built, two, independent,
    (outcomes_same_in_every_mode independent _).1⟩

end Advent
