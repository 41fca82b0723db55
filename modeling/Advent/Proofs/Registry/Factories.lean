import Advent.Calendar
import Mathlib.Data.List.Basic

/-!
# Where factories come from

A registry answers for a day with the factory that was registered for that very day. Whatever
installing plugins adds belongs to one of the plugins, so the instances of a registry of plugins
report the year and day under which they are found.
-/
namespace Advent

theorem Factory.create_eq_ok_iff (factory : Factory) (input : String) (running : Instance) :
    factory.create input = .ok running ↔
      factory = running.factory ∧ running.factory.solver.parse input = .ok running.state := by
  obtain ⟨known, state⟩ := running
  unfold create
  cases read : factory.solver.parse input with
  | error cause =>
    simp only [Except.map, reduceCtorEq, false_iff, not_and]
    rintro rfl
    simp [read]
  | ok start =>
    simp only [Except.map, Except.ok.injEq, Instance.mk.injEq]
    constructor
    · rintro ⟨rfl, same⟩
      exact ⟨rfl, eq_of_heq same ▸ read⟩
    · rintro ⟨rfl, again⟩
      exact ⟨rfl, heq_of_eq (Except.ok.inj (read.symm.trans again))⟩

namespace Registry

/-- The instances found for a day report that year and day. -/
def ReportsOwnDays (registry : Registry) : Prop :=
  ∀ year day factory, registry.factory year day = .ok factory →
    factory.year = year ∧ factory.day = day

/-! ### Lookups -/

theorem factory_eq_ok_iff (registry : Registry) (year day : Nat) (factory : Factory) :
    registry.factory year day = .ok factory ↔
      ∃ entry, registry.entry? year day = some entry ∧ entry.factory = factory := by
  unfold Registry.factory entry?
  cases place : slot? year day with
  | none => simp
  | some slot =>
    cases held : registry.entries[slot] with
    | none => simp_all
    | some entry => simp_all

theorem entry?_empty (year day : Nat) : empty.entry? year day = none := by
  unfold entry?
  cases slot? year day with
  | none => rfl
  | some slot => simp [empty]

/-- Registering answers for one day and leaves the others as they were. -/
theorem entry?_of_register {registry next : Registry} {year day : Nat} {entry : Entry}
    (registered : registry.register year day entry = .ok next) (year' day' : Nat) :
    next.entry? year' day' =
      if year = year' ∧ day = day' then some entry else registry.entry? year' day' := by
  unfold register at registered
  cases place : slot? year day with
  | none => simp [place] at registered
  | some slot =>
    cases held : registry.entries[slot] with
    | some other => simp_all
    | none =>
      have set : next = ⟨registry.entries.set slot (some entry)⟩ := by simp_all
      subst set
      by_cases same : year = year' ∧ day = day'
      · obtain ⟨rfl, rfl⟩ := same
        simp [place, entry?]
      · rw [if_neg same]
        cases place' : slot? year' day' with
        | none => simp [place', entry?]
        | some slot' =>
          have elsewhere : slot.val ≠ slot'.val := fun equal => by
            obtain ⟨rfl, rfl⟩ := year_day_of_slot? _ _ _ place
            obtain ⟨rfl, rfl⟩ := year_day_of_slot? _ _ _ place'
            exact same ⟨by rw [Fin.ext equal], by rw [Fin.ext equal]⟩
          simp [place', entry?, Vector.getElem_set, elsewhere]

/-! ### Instances -/

theorem create_eq_ok_iff (registry : Registry) (year day : Nat) (input : String)
    (running : Instance) :
    registry.create year day input = .ok running ↔
      registry.factory year day = .ok running.factory ∧
        running.factory.solver.parse input = .ok running.state := by
  unfold create
  cases found : registry.factory year day with
  | error cause => simp
  | ok factory =>
    have parsed : (factory.create input).mapError SolverError.parse = .ok running ↔
        factory.create input = .ok running := by
      cases factory.create input <;> simp [Except.mapError]
    simp only [parsed, Factory.create_eq_ok_iff, Except.ok.injEq]

theorem year_day_of_create {registry : Registry} (own : registry.ReportsOwnDays)
    {year day : Nat} {input : String} {running : Instance}
    (created : registry.create year day input = .ok running) :
    running.year = year ∧ running.day = day :=
  own year day running.factory ((create_eq_ok_iff ..).mp created).1

/-! ### Plugins -/

theorem entry?_of_install {registry built : Registry} {plugins : List Plugin}
    (installed : registry.install plugins = .ok built) {year day : Nat} {entry : Entry}
    (found : built.entry? year day = some entry) :
    registry.entry? year day = some entry ∨
      ∃ plugin ∈ plugins, plugin.year = year ∧ plugin.day = day ∧ plugin.entry = entry := by
  induction plugins generalizing registry with
  | nil =>
    cases installed
    exact Or.inl found
  | cons plugin rest ih =>
    rw [install, List.foldlM_cons] at installed
    cases step : registry.register plugin.year plugin.day plugin.entry with
    | error refused => simp [step, bind, Except.bind] at installed
    | ok next =>
      simp only [step, bind, Except.bind] at installed
      rcases ih installed with earlier | ⟨other, member, facts⟩
      · rw [entry?_of_register step] at earlier
        split at earlier
        next here => exact Or.inr ⟨plugin, by simp, here.1, here.2, Option.some.inj earlier⟩
        next => exact Or.inl earlier
      · exact Or.inr ⟨other, by simp [member], facts⟩

theorem factory_of_plugins {plugins : List Plugin} {tags : List String} {built : Registry}
    (installed : ofPlugins plugins tags = .ok built) {year day : Nat} {factory : Factory}
    (found : built.factory year day = .ok factory) :
    ∃ plugin ∈ plugins, plugin.carries tags = true ∧ plugin.year = year ∧ plugin.day = day ∧
      plugin.entry.factory = factory := by
  obtain ⟨entry, held, rfl⟩ := (factory_eq_ok_iff ..).mp found
  rcases entry?_of_install installed held with earlier | ⟨plugin, member, here, there, rfl⟩
  · rw [entry?_empty] at earlier
    cases earlier
  · obtain ⟨listed, carried⟩ := List.mem_filter.mp member
    exact ⟨plugin, listed, carried, here, there, rfl⟩

theorem reportsOwnDays_of_plugins {plugins : List Plugin} {tags : List String} {built : Registry}
    (installed : ofPlugins plugins tags = .ok built) : built.ReportsOwnDays := by
  intro year day factory found
  obtain ⟨plugin, _, _, rfl, rfl, rfl⟩ := factory_of_plugins installed found
  exact ⟨rfl, rfl⟩

end Registry

theorem Calendar.exists_grid_registry :
    ∃ registry, Registry.ofPlugins plugins ["grid"] = .ok registry ∧ registry.size = 2 := by
  have two : ((Registry.ofPlugins plugins ["grid"]).map Registry.size).toOption = some 2 := by
    decide +kernel
  cases built : Registry.ofPlugins plugins ["grid"] with
  | error cause => simp [built, Except.map, Except.toOption] at two
  | ok registry =>
    rw [built] at two
    exact ⟨registry, rfl, Option.some.inj two⟩

end Advent
