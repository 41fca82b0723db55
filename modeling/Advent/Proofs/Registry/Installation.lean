import Advent.Proofs.Run.WorkItems
import Advent.Proofs.Run.Writing

/-!
# Installing plugins in any order

The plugins that carry all tags asked for are registered one after the other, so a registry is built
if and only if their days are in the calendar and distinct. The order in which plugins are found
decides nothing but which of several defects is reported: the registry is the same for all orders,
and a listing shows for each day the tags of the very plugin whose solver is registered for it.
-/
namespace Advent

namespace Plugin

/-- The plugin has every tag asked for. -/
def Selected (plugin : Plugin) (tags : List String) : Prop :=
  ∀ tag ∈ tags, tag ∈ plugin.tags

theorem carries_iff (plugin : Plugin) (tags : List String) :
    plugin.carries tags = true ↔ plugin.Selected tags := by
  simp [carries, Selected]

theorem isFor_iff (plugin : Plugin) (year day : Nat) :
    plugin.isFor year day = true ↔ plugin.year = year ∧ plugin.day = day := by
  simp [isFor]

def registration (plugin : Plugin) : Registration :=
  ⟨plugin.year, plugin.day, plugin.entry⟩

/-- No two plugins that are selected are for one day. -/
def DistinctDays (plugins : List Plugin) (tags : List String) : Prop :=
  plugins.Pairwise fun first second => first.Selected tags → second.Selected tags →
    ¬ (first.year = second.year ∧ first.day = second.day)

end Plugin

namespace Registry

/-- The registrations of the plugins that are selected. -/
def registrations (plugins : List Plugin) (tags : List String) : List Registration :=
  (plugins.filter fun plugin => plugin.carries tags).map Plugin.registration

theorem ofPlugins_eq_registerAll (plugins : List Plugin) (tags : List String) :
    ofPlugins plugins tags = empty.registerAll (registrations plugins tags) := by
  rw [registerAll, registrations, List.foldlM_map]
  rfl

theorem mem_registrations {plugins : List Plugin} {tags : List String} {call : Registration} :
    call ∈ registrations plugins tags ↔
      ∃ plugin ∈ plugins, plugin.Selected tags ∧ plugin.registration = call := by
  simp [registrations, Plugin.carries_iff, and_assoc]

theorem registrations_acceptable_iff (plugins : List Plugin) (tags : List String) :
    Registration.Acceptable (registrations plugins tags) ↔
      (∀ plugin ∈ plugins, plugin.Selected tags → InRange plugin.year plugin.day) ∧
        Plugin.DistinctDays plugins tags := by
  -- To filter the plugins first is to ask only of the selected ones.
  have apart : (registrations plugins tags).Pairwise
      (fun first second => ¬ first.IsFor second.year second.day) ↔
        Plugin.DistinctDays plugins tags := by
    rw [registrations, List.pairwise_map, List.pairwise_filter]
    simp only [Plugin.carries_iff]
    rfl
  have within : (∀ call ∈ registrations plugins tags, InRange call.year call.day) ↔
      ∀ plugin ∈ plugins, plugin.Selected tags → InRange plugin.year plugin.day := by
    simp only [mem_registrations]
    constructor
    · exact fun all plugin member selected => all _ ⟨plugin, member, selected, rfl⟩
    · rintro all _ ⟨plugin, member, selected, rfl⟩
      exact all plugin member selected
  rw [← apart, ← within]
  constructor
  · exact fun acceptable => ⟨acceptable.in_range, acceptable.distinct⟩
  · exact fun facts => ⟨facts.1, facts.2⟩

/-- Among the selected plugins the first for a day is the only one for it. -/
theorem find?_isFor_of_distinct {plugins : List Plugin} {tags : List String}
    (distinct : Plugin.DistinctDays plugins tags) {plugin : Plugin} (member : plugin ∈ plugins)
    (selected : plugin.Selected tags) :
    (plugins.filter fun plugin => plugin.carries tags).find?
      (fun other => other.isFor plugin.year plugin.day) = some plugin := by
  rw [List.find?_filter]
  induction plugins with
  | nil => cases member
  | cons first rest ih =>
    obtain ⟨apart, tail⟩ := List.pairwise_cons.mp distinct
    rcases List.mem_cons.mp member with rfl | later
    · exact List.find?_cons_of_pos (by simp [Plugin.carries_iff, selected, Plugin.isFor])
    -- A plugin before it is not selected or for another day, so the search passes it.
    · have passed : ¬ (first.carries tags = true ∧ first.isFor plugin.year plugin.day = true) := by
        rw [Plugin.carries_iff, Plugin.isFor_iff]
        exact fun both => apart plugin later both.1 selected both.2
      rw [List.find?_cons_of_neg (by simpa using passed)]
      exact ih tail later

/-! ### Listings -/

/-- The line shows the item with the tags of the plugin that is selected for its day. -/
structure ListedAs (plugins : List Plugin) (tags : List String) (item : WorkItem) (line : Output) :
    Prop where
  selected : ∃ plugin ∈ plugins, plugin.Selected tags ∧ plugin.year = item.year ∧
    plugin.day = item.day
  line_eq : ∀ plugin ∈ plugins, plugin.Selected tags → plugin.year = item.year →
    plugin.day = item.day →
      let shownTags := ", ".intercalate plugin.tags
      let day := Decimal.twoDigits item.day
      line = .out s!"{item.year}/{day} parts {item.firstPart}-{item.lastPart} [{shownTags}]"

theorem listedAs_listingLine {plugins : List Plugin} {tags : List String}
    (distinct : Plugin.DistinctDays plugins tags) {item : WorkItem}
    (selected : ∃ plugin ∈ plugins, plugin.Selected tags ∧ plugin.year = item.year ∧
      plugin.day = item.day) :
    ListedAs plugins tags item
      (.out (listingLine (plugins.filter fun plugin => plugin.carries tags) item)) := by
  refine ⟨selected, fun plugin member chosen year day => ?_⟩
  have first_found := find?_isFor_of_distinct distinct member chosen
  rw [listingLine, ← year, ← day, first_found]
  rfl

section Recorder

variable (files : String → Except ReadFault String) (times : Phase → Duration)
  (elapsed : Elapsed)

/-- A listing has one line for each item and nothing else. -/
theorem shows_listItems (plugins : List Plugin) (tags : List String) (items : List WorkItem) :
    Shows (listItems (.recorder files times elapsed) plugins tags items)
      (items.map fun item =>
        .out (listingLine (plugins.filter fun plugin => plugin.carries tags) item)) [] () := by
  refine shows_lines files times elapsed fun output member => ?_
  obtain ⟨item, _, rfl⟩ := List.mem_map.mp member
  rfl

/-- A session that lists shows the listing and nothing else. -/
theorem shows_runConfig_of_list (filter : Log.Filter) {plugins : List Plugin} {config : Config}
    {registry : Registry} (built : ofPlugins plugins config.tags = .ok registry)
    (list : config.list = true) (some_left : (config.executor registry).workItems ≠ []) :
    ∃ records, Shows (runConfig (.recorder files times elapsed) filter plugins config)
      ((config.executor registry).workItems.map fun item => .out (listingLine
        (plugins.filter fun plugin => plugin.carries config.tags) item)) records (.ok ()) := by
  have resolved := shows_logAll files times elapsed filter [configRecord config]
  have chosen := shows_logAll files times elapsed filter
    ((plugins.filter fun plugin => plugin.carries config.tags).map Plugin.record)
  have registered :=
    shows_logAll files times elapsed filter [builtRecord registry config.tags]
  have listed := shows_listItems files times elapsed plugins config.tags
    (config.executor registry).workItems
  have quit := Shows.pure (Except.ok () : Except SessionError Unit)
  have all := resolved.andThen (chosen.andThen (registered.andThen (listed.andThen quit)))
  -- The registry is there, some items are left, and they are to be listed.
  simp only [runConfig, built, List.isEmpty_eq_false_iff.mpr some_left, list, Bool.false_eq_true,
    if_false, if_true]
  simp only [List.nil_append, List.append_nil] at all
  exact ⟨_, all⟩

end Recorder

/-! ### Registries of selected plugins -/

/-- The registry has the solvers of the selected plugins under their days, and listings show the
tags of these plugins: for any items of registered days, and where a session lists its items. -/
structure BuiltFrom (registry : Registry) (plugins : List Plugin) (tags : List String) : Prop where
  contains_iff : ∀ year day, registry.contains year day = true ↔
    ∃ plugin ∈ plugins, plugin.Selected tags ∧ plugin.year = year ∧ plugin.day = day
  info? : ∀ plugin ∈ plugins, plugin.Selected tags →
    registry.info? plugin.year plugin.day = some ⟨plugin.year, plugin.day, plugin.solver.parts⟩
  factory : ∀ plugin ∈ plugins, plugin.Selected tags →
    registry.factory plugin.year plugin.day = .ok ⟨plugin.solver, plugin.year, plugin.day⟩
  listed : ∀ items : List WorkItem,
    (∀ item ∈ items, registry.contains item.year item.day = true) →
      ∃ lines, List.Forall₂ (ListedAs plugins tags) items lines ∧
        ∀ files times elapsed,
          Shows (listItems (.recorder files times elapsed) plugins tags items) lines [] ()
  session : ∀ config : Config, config.tags = tags → config.list = true →
    (config.executor registry).workItems ≠ [] →
      ∃ lines, List.Forall₂ (ListedAs plugins tags) (config.executor registry).workItems lines ∧
        ∀ files times elapsed filter, ∃ records,
          Shows (runConfig (.recorder files times elapsed) filter plugins config) lines records
            (.ok ())

theorem builtFrom_of_ofPlugins {registry : Registry} {plugins : List Plugin} {tags : List String}
    (built : ofPlugins plugins tags = .ok registry) : registry.BuiltFrom plugins tags := by
  have registered := (ofPlugins_eq_registerAll plugins tags).symm.trans built
  have acceptable := (registerAll_empty_ok_iff _).mp ⟨registry, registered⟩
  have distinct := ((registrations_acceptable_iff plugins tags).mp acceptable).2
  -- Every selected plugin made a call, so its own entry is found under its day.
  have held : ∀ plugin ∈ plugins, plugin.Selected tags →
      registry.entry? plugin.year plugin.day = some plugin.entry := fun plugin member selected =>
    (entry?_of_chain registered ..).mpr
      ⟨plugin.registration, mem_registrations.mpr ⟨plugin, member, selected, rfl⟩, ⟨rfl, rfl⟩, rfl⟩
  have contains_iff (year day : Nat) : registry.contains year day = true ↔
      ∃ plugin ∈ plugins, plugin.Selected tags ∧ plugin.year = year ∧ plugin.day = day := by
    rw [contains, Option.isSome_iff_exists]
    simp only [entry?_of_chain registered, mem_registrations]
    constructor
    · rintro ⟨_, _, ⟨plugin, member, selected, rfl⟩, here, rfl⟩
      exact ⟨plugin, member, selected, here⟩
    · rintro ⟨plugin, member, selected, here⟩
      exact ⟨_, _, ⟨plugin, member, selected, rfl⟩, here, rfl⟩
  -- An item of a registered day finds the plugin that registered it.
  have lines (items : List WorkItem)
      (known : ∀ item ∈ items, registry.contains item.year item.day = true) :
      List.Forall₂ (ListedAs plugins tags) items (items.map fun item =>
        .out (listingLine (plugins.filter fun plugin => plugin.carries tags) item)) := by
    refine List.forall₂_map_right_iff.mpr (List.forall₂_same.mpr fun item present => ?_)
    exact listedAs_listingLine distinct ((contains_iff _ _).mp (known item present))
  refine ⟨contains_iff, fun plugin member selected => ?_, fun plugin member selected => ?_,
    fun items known => ?_, ?_⟩
  · rw [Registry.info?, held plugin member selected]
    rfl
  · exact (factory_eq_ok_iff ..).mpr ⟨plugin.entry, held plugin member selected, rfl⟩
  · exact ⟨_, lines items known,
      fun files times elapsed => shows_listItems files times elapsed plugins tags items⟩
  · rintro config rfl list some_left
    exact ⟨_, lines _ fun item present => contains_of_mem_workItems present,
      fun files times elapsed filter =>
        shows_runConfig_of_list files times elapsed filter built list some_left⟩

theorem ofPlugins_of_perm {registry : Registry} {plugins order : List Plugin} {tags : List String}
    (built : ofPlugins plugins tags = .ok registry) (reordered : order.Perm plugins) :
    ofPlugins order tags = .ok registry := by
  rw [ofPlugins_eq_registerAll] at built ⊢
  exact registerAll_of_perm built ((reordered.filter _).map _)

/-- Whether a registry is built depends on the days of the selected plugins only, and whatever order
the plugins are found in, the same registry is built of them. -/
theorem built_registry_same_in_every_order (plugins : List Plugin) (tags : List String) :
    ((∃ registry, ofPlugins plugins tags = .ok registry) ↔
      (∀ plugin ∈ plugins, plugin.Selected tags →
        2015 ≤ plugin.year ∧ plugin.year ≤ 2034 ∧ 1 ≤ plugin.day ∧ plugin.day ≤ 25) ∧
      Plugin.DistinctDays plugins tags) ∧
    ∀ order, order.Perm plugins →
      ((∃ registry, ofPlugins order tags = .ok registry) ↔
        ∃ registry, ofPlugins plugins tags = .ok registry) ∧
      ∀ registry, ofPlugins plugins tags = .ok registry →
        ofPlugins order tags = .ok registry ∧ registry.BuiltFrom order tags := by
  refine ⟨?_, fun order reordered => ⟨⟨?_, ?_⟩, fun registry built => ?_⟩⟩
  · simp only [← inRange_iff, ofPlugins_eq_registerAll, registerAll_empty_ok_iff,
      registrations_acceptable_iff]
  · rintro ⟨registry, built⟩
    exact ⟨registry, ofPlugins_of_perm built reordered.symm⟩
  · rintro ⟨registry, built⟩
    exact ⟨registry, ofPlugins_of_perm built reordered⟩
  · have again := ofPlugins_of_perm built reordered
    exact ⟨again, builtFrom_of_ofPlugins again⟩

/-- Two plugins are for one day, but only the second of them has the tag. -/
theorem same_registry_for_tagged_plugins :
    let plugins : List Plugin :=
      [⟨2015, 1, Floors.solver, ["easy"]⟩, ⟨2015, 1, Coins.solver, ["easy", "slow"]⟩,
        ⟨2034, 25, Houses.solver, ["slow"]⟩]
    plugins.reverse.Perm plugins ∧
      ∃ registry, ofPlugins plugins ["slow"] = .ok registry ∧
        ofPlugins plugins.reverse ["slow"] = .ok registry ∧
        registry.BuiltFrom plugins.reverse ["slow"] := by
  intro plugins
  have reordered : plugins.reverse.Perm plugins := List.reverse_perm plugins
  obtain ⟨built_iff, in_order⟩ := built_registry_same_in_every_order plugins ["slow"]
  have selected : (∀ plugin ∈ plugins, plugin.Selected ["slow"] →
      2015 ≤ plugin.year ∧ plugin.year ≤ 2034 ∧ 1 ≤ plugin.day ∧ plugin.day ≤ 25) ∧
      Plugin.DistinctDays plugins ["slow"] := by
    simp [plugins, Plugin.DistinctDays, Plugin.Selected]
  obtain ⟨registry, built⟩ := built_iff.mpr selected
  exact ⟨reordered, registry, built, (in_order _ reordered).2 registry built⟩

end Registry

end Advent
