import Advent.Proofs.Derive.Arguments
import Advent.Proofs.Derive.Expansions
import Advent.Proofs.Registry.Installation

/-!
# Years and days of accepted items

Every day among the arguments of an accepted item is one of the calendar, but a year is only bound
by its word. So an item is accepted with every year of sixteen bits, and registering it is refused
for its range if and only if the year is outside the calendar.
-/
namespace Advent

/-- Registering into an empty registry is refused for the range of the day or not at all. -/
theorem Registry.register_empty_cases (year day : Nat) (entry : Entry) :
    (¬ InRange year day ∧ empty.register year day entry = .error (.invalidYearDay year day)) ∨
      InRange year day ∧ ∃ next, empty.register year day entry = .ok next := by
  rcases empty.register_cases year day entry with
    ⟨outside, refused⟩ | ⟨_, ⟨held, known⟩, _⟩ | ⟨within, _, done⟩
  · exact Or.inl ⟨outside, refused⟩
  · rw [entry?_empty] at known
    cases known
  · exact Or.inr ⟨within, done⟩

namespace Derive

/-- The arguments in which an item tells its day. -/
def dayArguments (item : Item) : Except DeriveError (List Token) :=
  argumentsOf item "aoc" "AutoRegisterSolver" "#[aoc(year = ..., day = ...)]"

theorem registrationOf_eq_ok_iff {item : Item} {registration : Registration} :
    registrationOf item = .ok registration ↔
      ∃ tokens arguments, dayArguments item = .ok tokens ∧
        Lists Argument.Written arguments tokens ∧ registration.GivenBy arguments := by
  have steps : registrationOf item = dayArguments item >>= registrationOfArguments := rfl
  rw [steps, bind_eq_ok_iff]
  simp only [registrationOfArguments_eq_ok_iff]
  constructor
  · rintro ⟨tokens, found, arguments, facts⟩
    exact ⟨tokens, arguments, found, facts⟩
  · rintro ⟨tokens, arguments, found, facts⟩
    exact ⟨tokens, found, arguments, facts⟩

/-- What is given was written in one of the arguments, within the range for its key. -/
theorem Registration.GivenBy.within {registration : Registration} {arguments : List Argument}
    (given : registration.GivenBy arguments) {tokens : List Token}
    (lists : Lists Argument.Written arguments tokens) :
    registration.year ≤ yearLimit ∧ 1 ≤ registration.day ∧ registration.day ≤ 25 := by
  obtain ⟨argument, member, year⟩ := List.mem_filterMap.mp (List.mem_of_getLast? given.year)
  obtain ⟨argument', member', day⟩ := List.mem_filterMap.mp (List.mem_of_getLast? given.day)
  obtain ⟨_, written⟩ := lists.of_mem argument member
  obtain ⟨_, written'⟩ := lists.of_mem argument' member'
  constructor
  · cases written with
    | year _ within =>
      cases year
      exact within
    | day => cases year
    | tags => cases year
  · cases written' with
    | year => cases day
    | day _ within =>
      cases day
      exact within
    | tags => cases day

/-- An item with one argument for the year and one for the day. -/
def dayItem (name : String) (year day : Nat) : Item :=
  let number (value : Nat) : Token := .literal (.integer value false) (toString value)
  ⟨name, [⟨some "aoc", .list [
    .ident "year", .punct '=' false, number year, .punct ',' false,
    .ident "day", .punct '=' false, number day]⟩]⟩

theorem registrationOf_dayItem (name : String) {year day : Nat} (narrow : year ≤ yearLimit)
    (within : 1 ≤ day ∧ day ≤ 25) :
    registrationOf (dayItem name year day) = .ok ⟨year, day, []⟩ := by
  refine registrationOf_eq_ok_iff.mpr
    ⟨_, [Argument.year year, Argument.day day], rfl, ?_, rfl, rfl, rfl⟩
  have year_written := Argument.Written.year (.intro false false (toString year)) narrow
  have day_written := Argument.Written.day (.intro false false (toString day)) within
  exact Lists.cons year_written (.last day_written)

end Derive

/-- The plugin is for the year and day that an accepted item tells. -/
def Plugin.IsOf (plugin : Plugin) (item : Derive.Item) : Prop :=
  ∃ registration, Derive.registrationOf item = .ok registration ∧
    plugin.year = registration.year ∧ plugin.day = registration.day

theorem Plugin.IsOf.inRange_iff {plugin : Plugin} {item : Derive.Item} (is_of : plugin.IsOf item) :
    InRange plugin.year plugin.day ↔ 2015 ≤ plugin.year ∧ plugin.year ≤ 2034 := by
  obtain ⟨registration, read, year, day⟩ := is_of
  obtain ⟨tokens, arguments, _, lists, given⟩ := Derive.registrationOf_eq_ok_iff.mp read
  have within := (given.within lists).2
  rw [Advent.inRange_iff, year, day]
  simp [within]

namespace Registry

section Plugins

variable {plugins : List Plugin} (all_of : ∀ plugin ∈ plugins, ∃ item, plugin.IsOf item)
  (tags : List String)

include all_of

theorem year_of_ofPlugins_error {year day : Nat}
    (refused : ofPlugins plugins tags = .error (.invalidYearDay year day)) :
    ∃ plugin ∈ plugins, plugin.Selected tags ∧ plugin.year = year ∧ plugin.day = day ∧
      ¬ (2015 ≤ year ∧ year ≤ 2034) := by
  rw [ofPlugins_eq_registerAll] at refused
  obtain ⟨call, member, reason⟩ := registerAll_error_cases refused
  obtain ⟨plugin, listed, selected, rfl⟩ := mem_registrations.mp member
  obtain ⟨item, is_of⟩ := all_of plugin listed
  rcases reason with other | ⟨same, outside⟩
  · cases other
  · cases same
    -- The day is one of the calendar, so it is the year that is out of range.
    exact ⟨plugin, listed, selected, rfl, rfl, fun within => outside (is_of.inRange_iff.mpr within)⟩

theorem year_of_ofPlugins_ok {registry : Registry} (built : ofPlugins plugins tags = .ok registry) :
    ∀ plugin ∈ plugins, plugin.Selected tags → 2015 ≤ plugin.year ∧ plugin.year ≤ 2034 := by
  intro plugin listed selected
  obtain ⟨item, is_of⟩ := all_of plugin listed
  rw [ofPlugins_eq_registerAll] at built
  have acceptable := (registerAll_empty_ok_iff _).mp ⟨registry, built⟩
  have in_range := ((registrations_acceptable_iff plugins tags).mp acceptable).1
  exact is_of.inRange_iff.mp (in_range plugin listed selected)

end Plugins

end Registry

namespace Derive

/-- An accepted item tells the last year and the last day of its arguments, with the day in the
calendar and the year in sixteen bits, and its code submits a record of them. Registering it is
refused for its range if and only if the year is outside the calendar. So plugins of accepted items
are refused for their range only if the year of one of them is, and then they are not all
registered. -/
theorem accepted_item_out_of_range_by_year {item : Item} {code : List Token}
    (accepted : expandRegistration item = .ok code) : ∃ registration,
      registrationOf item = .ok registration ∧ code = registrationTokens item.name registration ∧
      Submission.ofTokens? code =
        some ⟨item.name, registration.year, registration.day, item.name, registration.tags⟩ ∧
      (∃ tokens arguments, dayArguments item = .ok tokens ∧
        Lists Argument.Written arguments tokens ∧ registration.GivenBy arguments) ∧
      registration.year ≤ 65535 ∧ 1 ≤ registration.day ∧ registration.day ≤ 25 ∧
      (∀ entry,
        (Registry.empty.register registration.year registration.day entry =
            .error (.invalidYearDay registration.year registration.day) ↔
          ¬ (2015 ≤ registration.year ∧ registration.year ≤ 2034)) ∧
        ((∃ next, Registry.empty.register registration.year registration.day entry = .ok next) ↔
          2015 ≤ registration.year ∧ registration.year ≤ 2034)) ∧
      ∀ plugins : List Plugin, (∀ plugin ∈ plugins, ∃ item, plugin.IsOf item) → ∀ tags,
        (∀ year day, Registry.ofPlugins plugins tags = .error (.invalidYearDay year day) →
          ∃ plugin ∈ plugins, plugin.Selected tags ∧ plugin.year = year ∧ plugin.day = day ∧
            ¬ (2015 ≤ year ∧ year ≤ 2034)) ∧
        ∀ registry, Registry.ofPlugins plugins tags = .ok registry →
          ∀ plugin ∈ plugins, plugin.Selected tags → 2015 ≤ plugin.year ∧ plugin.year ≤ 2034 := by
  obtain ⟨registration, read, rfl⟩ := map_eq_ok_iff.mp accepted
  obtain ⟨tokens, arguments, found, lists, given⟩ := registrationOf_eq_ok_iff.mp read
  obtain ⟨narrow, first, last⟩ := given.within lists
  have in_range : InRange registration.year registration.day ↔
      2015 ≤ registration.year ∧ registration.year ≤ 2034 := by
    rw [inRange_iff]
    simp [first, last]
  refine ⟨registration, read, rfl, Submission.ofTokens?_registrationTokens item.name registration,
    ⟨tokens, arguments, found, lists, given⟩, narrow, first, last, fun entry => ?_,
    fun plugins all_of tags => ?_⟩
  · rw [← in_range]
    rcases Registry.register_empty_cases registration.year registration.day entry with
      ⟨outside, refused⟩ | ⟨inside, next, done⟩
    · simp [refused, outside]
    · simp [done, inside]
  · exact ⟨fun _ _ => Registry.year_of_ofPlugins_error all_of tags,
      fun _ => Registry.year_of_ofPlugins_ok all_of tags⟩

/-- Of two years the last is told, and of two plugins the one with a year out of range is refused. -/
theorem last_year_told_and_plugin_refused :
    ∃ item, Item.ofText?
        "#[aoc(day = 3, year = 1, tags = [\"a\"], year = 2_034u16,)] struct Elf;".toList =
          some item ∧
      expandRegistration item = .ok (registrationTokens item.name ⟨2034, 3, ["\"a\""]⟩) ∧
      (∀ entry, ∃ next, Registry.empty.register 2034 3 entry = .ok next) ∧
      let plugins : List Plugin := [⟨2014, 1, Coins.solver, []⟩, ⟨2034, 3, Floors.solver, ["a"]⟩]
      (∀ plugin ∈ plugins, ∃ item, plugin.IsOf item) ∧
      Registry.ofPlugins plugins [] = .error (.invalidYearDay 2014 1) ∧
      ∃ plugin ∈ plugins, plugin.Selected [] ∧ plugin.year = 2014 ∧ plugin.day = 1 ∧
        ¬ (2015 ≤ 2014 ∧ 2014 ≤ 2034) := by
  have read : (Item.ofText?
      "#[aoc(day = 3, year = 1, tags = [\"a\"], year = 2_034u16,)] struct Elf;".toList).bind
        (fun item => (registrationOf item).toOption) = some ⟨2034, 3, ["\"a\""]⟩ := by
    decide +kernel
  obtain ⟨item, item_read, found⟩ := Option.bind_eq_some_iff.mp read
  have told : registrationOf item = .ok ⟨2034, 3, ["\"a\""]⟩ := eq_ok_of_toOption found
  have accepted : expandRegistration item =
      .ok (registrationTokens item.name ⟨2034, 3, ["\"a\""]⟩) :=
    map_eq_ok_iff.mpr ⟨_, told, rfl⟩
  obtain ⟨registration, same, _, _, _, _, _, _, answers, many⟩ :=
    accepted_item_out_of_range_by_year accepted
  obtain rfl := Except.ok.inj (told.symm.trans same)
  refine ⟨item, item_read, accepted, fun entry => (answers entry).2.mpr (by decide), ?_⟩
  intro plugins
  have all_of : ∀ plugin ∈ plugins, ∃ item, plugin.IsOf item := by
    have other := registrationOf_dayItem "Elf" (show 2014 ≤ yearLimit by decide)
      (show 1 ≤ 1 ∧ 1 ≤ 25 by decide)
    refine List.forall_mem_cons.mpr ⟨⟨_, _, other, rfl, rfl⟩, ?_⟩
    exact List.forall_mem_singleton.mpr ⟨item, _, told, rfl, rfl⟩
  have refused : Registry.ofPlugins plugins [] = .error (.invalidYearDay 2014 1) := rfl
  exact ⟨all_of, refused, (many plugins all_of []).1 2014 1 refused⟩

/-- An item with a year before the calendar is accepted, and can never be registered. -/
theorem year_before_calendar_accepted :
    ∃ item, Item.ofText? "#[aoc(year = 2014, day = 1)] struct Elf;".toList = some item ∧
      registrationOf item = .ok ⟨2014, 1, []⟩ ∧
      expandRegistration item = .ok (registrationTokens item.name ⟨2014, 1, []⟩) ∧
      ∀ entry, Registry.empty.register 2014 1 entry = .error (.invalidYearDay 2014 1) := by
  have read : (Item.ofText? "#[aoc(year = 2014, day = 1)] struct Elf;".toList).bind
      (fun item => (registrationOf item).toOption) = some ⟨2014, 1, []⟩ := by
    decide +kernel
  obtain ⟨item, item_read, found⟩ := Option.bind_eq_some_iff.mp read
  have told : registrationOf item = .ok ⟨2014, 1, []⟩ := eq_ok_of_toOption found
  exact ⟨item, item_read, told, map_eq_ok_iff.mpr ⟨_, told, rfl⟩, fun _ => rfl⟩

end Derive

end Advent
