import Advent.Proofs.Registry.Factories
import Mathlib.Data.List.FinRange
import Mathlib.Data.List.Perm.Basic

/-!
# Chains of registrations

A call of `register` in a chain from the empty registry is refused if its day is outside the
calendar or was registered by an earlier call, and for no other reason. So a chain goes through if
and only if its days are in the calendar and distinct, and then the registry holds exactly what was
registered. All observers read the same entries through the slot of a day, whatever the order of
the calls.
-/
namespace Advent

/-- A day with what is registered for it. -/
structure Registration where
  year : Nat
  day : Nat
  entry : Entry

namespace Registration

def IsFor (call : Registration) (year day : Nat) : Prop :=
  call.year = year ∧ call.day = day

instance (call : Registration) (year day : Nat) : Decidable (call.IsFor year day) :=
  inferInstanceAs (Decidable (call.year = year ∧ call.day = day))

/-- All days are in the calendar, and no day is named twice. -/
structure Acceptable (calls : List Registration) : Prop where
  in_range : ∀ call ∈ calls, InRange call.year call.day
  distinct : calls.Pairwise fun first second => ¬ first.IsFor second.year second.day

theorem Acceptable.of_perm {calls order : List Registration} (acceptable : Acceptable calls)
    (reordered : order.Perm calls) : Acceptable order where
  in_range call member := acceptable.in_range call (reordered.mem_iff.mp member)
  distinct := by
    refine (reordered.pairwise_iff fun different same => ?_).mpr acceptable.distinct
    exact different ⟨same.1.symm, same.2.symm⟩

end Registration

theorem inRange_iff (year day : Nat) :
    InRange year day ↔ 2015 ≤ year ∧ year ≤ 2034 ∧ 1 ≤ day ∧ day ≤ 25 := by
  simp only [InRange, firstYear, yearCount, daysPerYear]
  omega

def SolverInfo.Before (first second : SolverInfo) : Prop :=
  first.year < second.year ∨ first.year = second.year ∧ first.day < second.day

theorem yearOf_dayOf_ascending {first second : Fin slotCount} (before : first < second) :
    yearOf first < yearOf second ∨ yearOf first = yearOf second ∧ dayOf first < dayOf second := by
  have less : first.val < second.val := before
  simp only [yearOf, dayOf, firstYear, daysPerYear]
  omega

namespace Registry

/-- Registers one day after the other, up to the first that is refused. -/
def registerAll (registry : Registry) (calls : List Registration) :
    Except RegistrationError Registry :=
  calls.foldlM (fun registry call => registry.register call.year call.day call.entry) registry

/-! ### One call -/

theorem inRange_of_held {registry : Registry} {year day : Nat} {entry : Entry}
    (held : registry.entry? year day = some entry) : InRange year day := by
  obtain ⟨slot, place, _⟩ := Option.bind_eq_some_iff.mp held
  exact (slot?_isSome_iff year day).mp (by simp [place])

/-- The three answers to a call, by what the registry holds for the day. -/
theorem register_cases (registry : Registry) (year day : Nat) (entry : Entry) :
    (¬ InRange year day ∧
      registry.register year day entry = .error (.invalidYearDay year day)) ∨
    (InRange year day ∧ (∃ held, registry.entry? year day = some held) ∧
      registry.register year day entry = .error (.duplicateSolver year day)) ∨
    (InRange year day ∧ registry.entry? year day = none ∧
      ∃ next, registry.register year day entry = .ok next) := by
  unfold register entry?
  cases place : slot? year day with
  | none =>
    -- Only days outside the calendar have no slot.
    have outside : ¬ InRange year day := fun within => by
      simpa [place] using (slot?_isSome_iff year day).mpr within
    exact Or.inl ⟨outside, rfl⟩
  | some slot =>
    have within := (slot?_isSome_iff year day).mp (by simp [place])
    cases held : registry.entries[slot] with
    | none =>
      simp only [held]
      exact Or.inr (Or.inr ⟨within, held, _, rfl⟩)
    | some other =>
      simp only [held]
      exact Or.inr (Or.inl ⟨within, ⟨other, held⟩, trivial⟩)

theorem register_ok_iff (registry : Registry) (year day : Nat) (entry : Entry) :
    (∃ next, registry.register year day entry = .ok next) ↔
      InRange year day ∧ registry.entry? year day = none := by
  rcases registry.register_cases year day entry with
    ⟨outside, refused⟩ | ⟨_, ⟨held, known⟩, refused⟩ | ⟨within, free, done⟩
  · simp [refused, outside]
  · simp [refused, known]
  · simp [within, free, done]

/-! ### Chains -/

theorem registerAll_cons (registry : Registry) (call : Registration) (rest : List Registration) :
    registry.registerAll (call :: rest) =
      (registry.register call.year call.day call.entry).bind fun next => next.registerAll rest :=
  List.foldlM_cons ..

theorem registerAll_cons_eq_ok_iff {registry built : Registry} {call : Registration}
    {rest : List Registration} :
    registry.registerAll (call :: rest) = .ok built ↔
      ∃ next, registry.register call.year call.day call.entry = .ok next ∧
        next.registerAll rest = .ok built := by
  rw [registerAll_cons]
  cases registry.register call.year call.day call.entry with
  | error cause => simp [Except.bind]
  | ok next => simp [Except.bind]

/-- After a chain a day is found as before it or as one of the calls registered it. -/
theorem entry?_of_registerAll {registry built : Registry} {calls : List Registration}
    (registered : registry.registerAll calls = .ok built) (year day : Nat) (entry : Entry) :
    built.entry? year day = some entry ↔
      registry.entry? year day = some entry ∨
        ∃ call ∈ calls, call.IsFor year day ∧ call.entry = entry := by
  induction calls generalizing registry with
  | nil =>
    cases registered
    simp
  | cons call rest ih =>
    obtain ⟨next, first, later⟩ := registerAll_cons_eq_ok_iff.mp registered
    have free := ((registry.register_ok_iff ..).mp ⟨next, first⟩).2
    rw [ih later, entry?_of_register first]
    simp only [List.mem_cons, exists_eq_or_imp]
    by_cases here : call.year = year ∧ call.day = day
    · obtain ⟨rfl, rfl⟩ := here
      simp [free, Registration.IsFor]
    · simp [Registration.IsFor, here]

/-- A chain goes through if its days are acceptable and were free before it. -/
theorem registerAll_ok_iff (registry : Registry) (calls : List Registration) :
    (∃ built, registry.registerAll calls = .ok built) ↔
      Registration.Acceptable calls ∧
        ∀ call ∈ calls, registry.entry? call.year call.day = none := by
  induction calls generalizing registry with
  | nil =>
    have acceptable : Registration.Acceptable [] := ⟨by simp, List.Pairwise.nil⟩
    exact iff_of_true ⟨registry, rfl⟩ ⟨acceptable, by simp⟩
  | cons call rest ih =>
    constructor
    · rintro ⟨built, registered⟩
      obtain ⟨next, first, later⟩ := registerAll_cons_eq_ok_iff.mp registered
      obtain ⟨within, free⟩ := (registry.register_ok_iff ..).mp ⟨next, first⟩
      obtain ⟨acceptable, absent⟩ := (ih next).mp ⟨built, later⟩
      -- The first call took its day, so the later ones, which went through, are for others.
      have others : ∀ other ∈ rest, ¬ call.IsFor other.year other.day ∧
          registry.entry? other.year other.day = none := by
        intro other member
        have missing := absent other member
        rw [entry?_of_register first] at missing
        split at missing
        · cases missing
        next elsewhere => exact ⟨elsewhere, missing⟩
      refine ⟨⟨List.forall_mem_cons.mpr ⟨within, acceptable.in_range⟩, ?_⟩, ?_⟩
      · exact List.pairwise_cons.mpr ⟨fun other member => (others other member).1,
          acceptable.distinct⟩
      · exact List.forall_mem_cons.mpr ⟨free, fun other member => (others other member).2⟩
    · rintro ⟨acceptable, absent⟩
      obtain ⟨within, in_range⟩ := List.forall_mem_cons.mp acceptable.in_range
      obtain ⟨apart, distinct⟩ := List.pairwise_cons.mp acceptable.distinct
      obtain ⟨free, absent⟩ := List.forall_mem_cons.mp absent
      obtain ⟨next, first⟩ := (registry.register_ok_iff _ _ call.entry).mpr ⟨within, free⟩
      -- Registering one day leaves all others as they are.
      have still_absent : ∀ other ∈ rest, next.entry? other.year other.day = none := by
        intro other member
        have elsewhere : ¬ (call.year = other.year ∧ call.day = other.day) := apart other member
        rw [entry?_of_register first, if_neg elsewhere]
        exact absent other member
      obtain ⟨built, later⟩ := (ih next).mpr ⟨⟨in_range, distinct⟩, still_absent⟩
      exact ⟨built, registerAll_cons_eq_ok_iff.mpr ⟨next, first, later⟩⟩

theorem registerAll_empty_ok_iff (calls : List Registration) :
    (∃ built, empty.registerAll calls = .ok built) ↔ Registration.Acceptable calls := by
  simp [registerAll_ok_iff, entry?_empty]

/-- A chain is refused for one of its calls, and for its range only if that call is out of range. -/
theorem registerAll_error_cases {registry : Registry} {calls : List Registration}
    {cause : RegistrationError} (refused : registry.registerAll calls = .error cause) :
    ∃ call ∈ calls, cause = .duplicateSolver call.year call.day ∨
      cause = .invalidYearDay call.year call.day ∧ ¬ InRange call.year call.day := by
  induction calls generalizing registry with
  | nil => cases refused
  | cons call rest ih =>
    rw [registerAll_cons] at refused
    rcases registry.register_cases call.year call.day call.entry with
      ⟨outside, first⟩ | ⟨_, _, first⟩ | ⟨_, _, next, first⟩
    · rw [first] at refused
      cases refused
      exact ⟨call, List.mem_cons_self, Or.inr ⟨rfl, outside⟩⟩
    · rw [first] at refused
      cases refused
      exact ⟨call, List.mem_cons_self, Or.inl rfl⟩
    · rw [first] at refused
      obtain ⟨other, member, reason⟩ := ih refused
      exact ⟨other, List.mem_cons_of_mem _ member, reason⟩

/-- A registry is known by its lookups. -/
theorem ext_of_entry? {registry other : Registry}
    (same : ∀ year day, registry.entry? year day = other.entry? year day) : registry = other := by
  have slots (slot : Fin slotCount) : registry.entries[slot] = other.entries[slot] := by
    rw [← entry?_of_slot, ← entry?_of_slot, same]
  obtain ⟨entries⟩ := registry
  obtain ⟨others⟩ := other
  exact congrArg Registry.mk (Vector.ext fun index below => slots ⟨index, below⟩)

theorem registerAll_of_perm {registry : Registry} {calls order : List Registration}
    (registered : empty.registerAll calls = .ok registry) (reordered : order.Perm calls) :
    empty.registerAll order = .ok registry := by
  have acceptable := (registerAll_empty_ok_iff calls).mp ⟨registry, registered⟩
  obtain ⟨built, again⟩ := (registerAll_empty_ok_iff order).mpr (acceptable.of_perm reordered)
  have same : built = registry := by
    -- Lookups only ask whether a call is among those made, not when it was made.
    refine ext_of_entry? fun year day => Option.ext fun entry => ?_
    rw [entry?_of_registerAll again, entry?_of_registerAll registered]
    simp only [reordered.mem_iff]
  exact same ▸ again

/-! ### Observers -/

theorem infos_ascending (registry : Registry) : registry.infos.Pairwise SolverInfo.Before := by
  refine List.Pairwise.filterMap _ ?_ (List.pairwise_lt_finRange slotCount)
  -- Infos keep the order of their slots, which are numbered by year, then by day.
  intro first second before info taken info' taken'
  obtain ⟨entry, _, rfl⟩ := Option.map_eq_some_iff.mp taken
  obtain ⟨entry', _, rfl⟩ := Option.map_eq_some_iff.mp taken'
  exact yearOf_dayOf_ascending before

/-- A registry lists its infos in the only order that ascends. -/
theorem infos_eq_of_mem_iff (registry : Registry) {listed : List SolverInfo}
    (ascending : listed.Pairwise SolverInfo.Before)
    (same : ∀ info, info ∈ registry.infos ↔ info ∈ listed) : registry.infos = listed := by
  have distinct {infos : List SolverInfo} (rising : infos.Pairwise SolverInfo.Before) :
      infos.Nodup := by
    refine rising.imp fun {first second} before equal => ?_
    simp only [SolverInfo.Before, equal] at before
    omega
  have members := (List.perm_ext_iff_of_nodup (distinct registry.infos_ascending)
    (distinct ascending)).mpr same
  refine members.eq_of_pairwise (fun first second _ _ before after => ?_)
    registry.infos_ascending ascending
  simp only [SolverInfo.Before] at before after
  omega

theorem info?_eq_some_iff (registry : Registry) (year day : Nat) (info : SolverInfo) :
    registry.info? year day = some info ↔
      info ∈ registry.infos ∧ info.year = year ∧ info.day = day := by
  have listed : info ∈ registry.infos ↔ ∃ slot entry, registry.entries[slot] = some entry ∧
      (⟨yearOf slot, dayOf slot, entry.parts⟩ : SolverInfo) = info := by
    simp [infos, Option.map_eq_some_iff]
  rw [listed]
  constructor
  · intro found
    obtain ⟨entry, held, rfl⟩ := Option.map_eq_some_iff.mp found
    obtain ⟨slot, place, here⟩ := Option.bind_eq_some_iff.mp held
    obtain ⟨rfl, rfl⟩ := year_day_of_slot? year day slot place
    exact ⟨⟨slot, entry, here, rfl⟩, rfl, rfl⟩
  · rintro ⟨⟨slot, entry, here, rfl⟩, rfl, rfl⟩
    simp [info?, entry?_of_slot, here]

theorem contains_iff (registry : Registry) (year day : Nat) :
    registry.contains year day = true ↔
      ∃ info ∈ registry.infos, info.year = year ∧ info.day = day := by
  have known : registry.contains year day = (registry.info? year day).isSome := by
    simp [contains, info?]
  rw [known, Option.isSome_iff_exists]
  simp only [info?_eq_some_iff]

theorem size_eq_length_infos (registry : Registry) : registry.size = registry.infos.length := by
  -- Both count the slots that hold an entry.
  rw [size, toList_entries, List.countP_map, infos, List.length_filterMap_eq_countP]
  refine List.countP_congr fun slot _ => ?_
  simp

theorem isEmpty_iff (registry : Registry) : registry.isEmpty = true ↔ registry.infos = [] := by
  rw [isEmpty, toList_entries, infos, List.filterMap_eq_nil_iff, List.all_map, List.all_eq_true]
  simp

private theorem mapError_parse_ne (error : SolverError) (other : ∀ cause, error ≠ .parse cause)
    (outcome : Except ParseError Instance) : outcome.mapError .parse ≠ .error error := by
  cases outcome with
  | ok running => simp [Except.mapError]
  | error cause => simpa [Except.mapError] using (other cause).symm

/-- The three outcomes of creating an instance, by what the registry holds for the day. -/
theorem create_cases (registry : Registry) (year day : Nat) (input : String) :
    (¬ InRange year day ∧ registry.create year day input = .error (.invalidYearDay year day)) ∨
    (InRange year day ∧ registry.entry? year day = none ∧
      registry.create year day input = .error (.notFound year day)) ∨
    ∃ entry, registry.entry? year day = some entry ∧
      registry.create year day input = (entry.factory.create input).mapError .parse := by
  unfold create factory entry?
  cases place : slot? year day with
  | none =>
    have outside : ¬ InRange year day := fun within => by
      simpa [place] using (slot?_isSome_iff year day).mpr within
    exact Or.inl ⟨outside, rfl⟩
  | some slot =>
    have within := (slot?_isSome_iff year day).mp (by simp [place])
    cases held : registry.entries[slot] with
    | none =>
      simp only [held]
      exact Or.inr (Or.inl ⟨within, held, trivial⟩)
    | some entry =>
      simp only [held]
      exact Or.inr (Or.inr ⟨entry, held, rfl⟩)

/-! ### What a chain leads to -/

/-- How a further call is answered after the calls that made the registry. -/
structure AnswersCall (registry : Registry) (calls : List Registration) (year day : Nat)
    (entry : Entry) : Prop where
  invalid_iff : registry.register year day entry = .error (.invalidYearDay year day) ↔
    ¬ (2015 ≤ year ∧ year ≤ 2034 ∧ 1 ≤ day ∧ day ≤ 25)
  duplicate_iff : registry.register year day entry = .error (.duplicateSolver year day) ↔
    (2015 ≤ year ∧ year ≤ 2034 ∧ 1 ≤ day ∧ day ≤ 25) ∧ ∃ call ∈ calls, call.IsFor year day
  ok_iff : (∃ next, registry.register year day entry = .ok next) ↔
    (2015 ≤ year ∧ year ≤ 2034 ∧ 1 ≤ day ∧ day ≤ 25) ∧ ∀ call ∈ calls, ¬ call.IsFor year day

/-- The listing tells of the registered days, and all other observers agree with it. -/
structure Represents (registry : Registry) (calls : List Registration) : Prop where
  mem_infos : ∀ info, info ∈ registry.infos ↔
    ∃ call ∈ calls, info = ⟨call.year, call.day, call.entry.parts⟩
  ascending : registry.infos.Pairwise SolverInfo.Before
  contains : ∀ year day, registry.contains year day = true ↔
    ∃ info ∈ registry.infos, info.year = year ∧ info.day = day
  info? : ∀ year day info, registry.info? year day = some info ↔
    info ∈ registry.infos ∧ info.year = year ∧ info.day = day
  create_invalid : ∀ year day input,
    registry.create year day input = .error (.invalidYearDay year day) ↔
      ¬ (2015 ≤ year ∧ year ≤ 2034 ∧ 1 ≤ day ∧ day ≤ 25)
  create_notFound : ∀ year day input,
    registry.create year day input = .error (.notFound year day) ↔
      (2015 ≤ year ∧ year ≤ 2034 ∧ 1 ≤ day ∧ day ≤ 25) ∧
        ∀ info ∈ registry.infos, ¬ (info.year = year ∧ info.day = day)
  create_registered : ∀ call ∈ calls, ∀ input,
    registry.create call.year call.day input = (call.entry.factory.create input).mapError .parse
  size : registry.size = registry.infos.length
  isEmpty : registry.isEmpty = true ↔ registry.infos = []

section Chain

variable {registry : Registry} {calls : List Registration}
  (registered : empty.registerAll calls = .ok registry)

include registered

theorem entry?_of_chain (year day : Nat) (entry : Entry) :
    registry.entry? year day = some entry ↔
      ∃ call ∈ calls, call.IsFor year day ∧ call.entry = entry := by
  simp [entry?_of_registerAll registered, entry?_empty]

theorem answersCall_of_chain (year day : Nat) (entry : Entry) :
    registry.AnswersCall calls year day entry := by
  -- A day is taken by the calls of the chain and by nothing else.
  have taken_iff : (∃ held, registry.entry? year day = some held) ↔
      ∃ call ∈ calls, call.IsFor year day := by
    simp [entry?_of_chain registered]
  have free_iff : registry.entry? year day = none ↔ ∀ call ∈ calls, ¬ call.IsFor year day := by
    simpa [Option.eq_none_iff_forall_ne_some] using not_congr taken_iff
  refine ⟨?_, ?_, ?_⟩ <;> rw [← inRange_iff]
  · rcases registry.register_cases year day entry with
      ⟨outside, refused⟩ | ⟨within, _, refused⟩ | ⟨within, _, _, done⟩
    · simp [refused, outside]
    · simp [refused, within]
    · simp [done, within]
  · rw [← taken_iff]
    rcases registry.register_cases year day entry with
      ⟨outside, refused⟩ | ⟨within, taken, refused⟩ | ⟨within, free, _, done⟩
    · simp [refused, outside]
    · simp [refused, within, taken]
    · simp [done, free]
  · rw [← free_iff]
    exact registry.register_ok_iff year day entry

theorem mem_infos_of_chain (info : SolverInfo) :
    info ∈ registry.infos ↔ ∃ call ∈ calls, info = ⟨call.year, call.day, call.entry.parts⟩ := by
  have found : registry.info? info.year info.day = some info ↔ info ∈ registry.infos := by
    simp [info?_eq_some_iff]
  rw [← found, Registry.info?, Option.map_eq_some_iff]
  simp only [entry?_of_chain registered]
  constructor
  · rintro ⟨_, ⟨call, member, here, rfl⟩, same⟩
    exact ⟨call, member, by rw [← same, here.1, here.2]⟩
  · rintro ⟨call, member, rfl⟩
    exact ⟨call.entry, ⟨call, member, ⟨rfl, rfl⟩, rfl⟩, rfl⟩

theorem represents_of_chain : registry.Represents calls where
  mem_infos := mem_infos_of_chain registered
  ascending := registry.infos_ascending
  contains := registry.contains_iff
  info? := registry.info?_eq_some_iff
  size := registry.size_eq_length_infos
  isEmpty := registry.isEmpty_iff
  create_invalid year day input := by
    rw [← inRange_iff]
    rcases registry.create_cases year day input with
      ⟨outside, refused⟩ | ⟨within, _, refused⟩ | ⟨entry, held, created⟩
    · simp [refused, outside]
    · simp [refused, within]
    · have inner := mapError_parse_ne (.invalidYearDay year day) (by simp)
        (entry.factory.create input)
      simp [created, inner, inRange_of_held held]
  create_notFound year day input := by
    rw [← inRange_iff]
    -- The listing shows exactly the days under which an entry is held.
    have unlisted : registry.entry? year day = none ↔
        ∀ info ∈ registry.infos, ¬ (info.year = year ∧ info.day = day) := by
      simpa [Registry.contains] using not_congr (registry.contains_iff year day)
    rw [← unlisted]
    rcases registry.create_cases year day input with
      ⟨outside, refused⟩ | ⟨within, free, refused⟩ | ⟨entry, held, created⟩
    · simp [refused, outside]
    · simp [refused, within, free]
    · have inner := mapError_parse_ne (.notFound year day) (by simp)
        (entry.factory.create input)
      simp [created, inner, held]
  create_registered call member input := by
    have held := (entry?_of_chain registered call.year call.day call.entry).mpr
      ⟨call, member, ⟨rfl, rfl⟩, rfl⟩
    rcases registry.create_cases call.year call.day input with
      ⟨outside, _⟩ | ⟨_, free, _⟩ | ⟨entry, found, created⟩
    · exact (outside (inRange_of_held held)).elim
    · cases held.symm.trans free
    · cases held.symm.trans found
      exact created

end Chain

/-- A chain goes through if its days are in the calendar and distinct, and then the registry answers
further calls and all observers by exactly the registered days, in whatever order they came. -/
theorem registered_days_represented (calls : List Registration) :
    ((∃ registry, empty.registerAll calls = .ok registry) ↔ Registration.Acceptable calls) ∧
      ∀ registry, empty.registerAll calls = .ok registry →
        (∀ year day entry, registry.AnswersCall calls year day entry) ∧
          registry.Represents calls ∧
          ∀ order, order.Perm calls → empty.registerAll order = .ok registry := by
  refine ⟨registerAll_empty_ok_iff calls, fun registry registered => ⟨?_, ?_, ?_⟩⟩
  · exact answersCall_of_chain registered
  · exact represents_of_chain registered
  · exact fun order reordered => registerAll_of_perm registered reordered

/-- Two days out of order, the later one announced with more parts than its solver has. -/
theorem two_registered_days_represented :
    let calls : List Registration :=
      [⟨2034, 25, ⟨⟨Floors.solver, 2034, 25⟩, 5⟩⟩, ⟨2015, 1, ⟨⟨Coins.solver, 2015, 1⟩, 2⟩⟩]
    ∃ registry, empty.registerAll calls = .ok registry ∧
      (∀ year day entry, registry.AnswersCall calls year day entry) ∧
      registry.Represents calls ∧
      ∀ order, order.Perm calls → empty.registerAll order = .ok registry := by
  intro calls
  obtain ⟨through, represented⟩ := registered_days_represented calls
  obtain ⟨registry, registered⟩ := through.mpr ⟨by decide, by decide⟩
  exact ⟨registry, registered, represented registry registered⟩

end Registry

end Advent
