import Advent.Proofs.Run.Ordering
import Mathlib.Data.List.Induction

/-!
# Draining on the way

An aggregator may be drained at any time, and take results in afterwards. Whatever the order of
these requests, each result is given once or still held. But draining leaves the expected keys as
they are: a key whose result was drained is still waited for, and so are all keys after it. That
happens exactly if some draining found the result of an expected key while an expected key before it
was missing. So completion stands for the arrival of all expected keys only as long as no draining
came that early.
-/
namespace Advent.Aggregator

open scoped List

variable {α : Type}

/-- What can be asked of an aggregator. -/
inductive Request (α : Type) where
  | add (key : Key) (value : α)
  | drain
  deriving Repr, DecidableEq

def Request.arrival? : Request α → Option (Key × α)
  | .add key value => some (key, value)
  | .drain => none

def arrivals (requests : List (Request α)) : List (Key × α) :=
  requests.filterMap Request.arrival?

/-- What came of some requests. -/
structure Course (α : Type) where
  /-- Given in answer to results that were added. -/
  released : List (Key × α)
  /-- Given by draining. -/
  drained : List (Key × α)
  left : Aggregator α

namespace Course

def next (course : Course α) : Request α → Course α
  | .add key value =>
    let (ready, left) := course.left.add key value
    { course with released := course.released ++ ready, left }
  | .drain =>
    let (held, left) := course.left.drain
    { course with drained := course.drained ++ held, left }

/-- The course of requests to an aggregator that expects the keys. -/
def ofRequests (keys : List Key) (requests : List (Request α)) : Course α :=
  requests.foldl next ⟨[], [], ofKeys keys⟩

@[simp] theorem ofRequests_concat (keys : List Key) (requests : List (Request α))
    (request : Request α) :
    ofRequests keys (requests ++ [request]) = (ofRequests keys requests).next request := by
  simp [ofRequests]

end Course

@[simp] theorem arrivals_concat_add (requests : List (Request α)) (key : Key) (value : α) :
    arrivals (requests ++ [.add key value]) = arrivals requests ++ [(key, value)] := by
  simp [arrivals, Request.arrival?]

@[simp] theorem arrivals_concat_drain (requests : List (Request α)) :
    arrivals (requests ++ [.drain]) = arrivals requests := by
  simp [arrivals, Request.arrival?]

/-! ### What was kept and what was drained -/

/-- The arrivals that were not drained are those that the aggregator accounts for. -/
structure Course.Keeps (keys : List Key) (arrived kept : List (Key × α)) (course : Course α) :
    Prop where
  accounts : Accounts (sortKeys keys) kept course.released course.left
  split : (kept ++ course.drained).Perm arrived

namespace Course.Keeps

variable {keys : List Key} {arrived kept : List (Key × α)} {course : Course α}
  (keeps : course.Keeps keys arrived kept)

include keeps

theorem add (key : Key) (value : α) (fresh : key ∉ arrived.map Prod.fst) :
    (course.next (.add key value)).Keeps keys (arrived ++ [(key, value)])
      (kept ++ [(key, value)]) := by
  have unkept : key ∉ kept.map Prod.fst := fun member =>
    fresh ((keeps.split.map Prod.fst).mem_iff.mp (by simp [member]))
  refine ⟨keeps.accounts.add key value unkept, ?_⟩
  calc kept ++ [(key, value)] ++ course.drained
    _ ~ kept ++ course.drained ++ [(key, value)] := by
      rw [List.append_assoc, List.append_assoc]
      exact List.perm_append_comm.append_left kept
    _ ~ arrived ++ [(key, value)] := keeps.split.append_right _

theorem given_once :
    (course.released ++ course.drained ++ course.left.pending).Perm arrived :=
  calc course.released ++ course.drained ++ course.left.pending
    _ ~ course.released ++ course.left.pending ++ course.drained := by
      rw [List.append_assoc, List.append_assoc]
      exact List.perm_append_comm.append_left _
    _ ~ kept ++ course.drained := keeps.accounts.arrived_perm.append_right _
    _ ~ arrived := keeps.split

/-- After draining only what was released before is kept. -/
theorem drain : (course.next .drain).Keeps keys arrived course.released := by
  refine ⟨⟨keeps.accounts.expected_eq, ?_, List.Pairwise.nil, ?_⟩, ?_⟩
  · simp [next, Aggregator.drain]
  · simp [next, Aggregator.drain]
  · simpa [next, Aggregator.drain] using keeps.given_once

theorem arrived_iff (key : Key) : key ∈ arrived.map Prod.fst ↔
    key ∈ kept.map Prod.fst ∨ key ∈ course.drained.map Prod.fst := by
  rw [← (keeps.split.map Prod.fst).mem_iff, List.map_append, List.mem_append]

theorem nodup_keys (distinct : (arrived.map Prod.fst).Nodup) :
    (kept.map Prod.fst ++ course.drained.map Prod.fst).Nodup := by
  rw [← List.map_append]
  exact (keeps.split.map Prod.fst).nodup_iff.mpr distinct

theorem isComplete_iff (distinct : (arrived.map Prod.fst).Nodup) :
    course.left.isComplete = true ↔ (∀ key ∈ keys, key ∈ arrived.map Prod.fst) ∧
      ∀ key ∈ keys, key ∉ course.drained.map Prod.fst := by
  have apart := (List.nodup_append.mp (keeps.nodup_keys distinct)).2.2
  rw [keeps.accounts.isComplete_iff, ← forall₂_and]
  refine forall₂_congr fun key _ => ?_
  rw [keeps.arrived_iff key]
  constructor
  · exact fun present => ⟨Or.inl present, fun lost => apart key present key lost rfl⟩
  · exact fun ⟨present, unlost⟩ => present.resolve_right unlost

end Course.Keeps

theorem exists_keeps (keys : List Key) {requests : List (Request α)}
    (distinct : ((arrivals requests).map Prod.fst).Nodup) :
    ∃ kept, (Course.ofRequests keys requests).Keeps keys (arrivals requests) kept := by
  -- From one request to the next: what is added is kept, and draining keeps what was released.
  induction requests using List.reverseRecOn with
  | nil => exact ⟨[], ofKeys_accounts keys, .refl _⟩
  | append_singleton earlier request ih =>
    cases request with
    | add key value =>
      rw [arrivals_concat_add, List.map_append, List.nodup_append] at distinct
      obtain ⟨kept, keeps⟩ := ih distinct.1
      have fresh : key ∉ (arrivals earlier).map Prod.fst := fun member =>
        distinct.2.2 key member key (by simp) rfl
      rw [arrivals_concat_add, Course.ofRequests_concat]
      exact ⟨_, keeps.add key value fresh⟩
    | drain =>
      rw [arrivals_concat_drain] at distinct ⊢
      obtain ⟨kept, keeps⟩ := ih distinct
      rw [Course.ofRequests_concat]
      exact ⟨_, keeps.drain⟩

/-! ### Keys out of turn -/

/-- An expected key has arrived, and an expected key before it has not. -/
def OutOfTurn (keys : List Key) (arrived : List (Key × α)) : Prop :=
  ∃ key ∈ keys, key ∈ arrived.map Prod.fst ∧
    ∃ earlier ∈ keys, earlier.Before key ∧ earlier ∉ arrived.map Prod.fst

section Waiting

variable {expected : List Key} {arrived released : List (Key × α)} {left : Aggregator α}
  (accounts : Accounts expected arrived released left) (ascending : expected.Pairwise Key.Before)

include accounts ascending

/-- A key is released after all expected keys before it. -/
theorem Accounts.released_of_before {key earlier : Key} (given : key ∈ released.map Prod.fst)
    (awaited : earlier ∈ expected) (before : earlier.Before key) :
    earlier ∈ released.map Prod.fst := by
  rw [← accounts.expected_eq] at ascending awaited
  refine (List.mem_append.mp awaited).resolve_right fun later => ?_
  have after := (List.pairwise_append.mp ascending).2.2 key given earlier later
  exact Key.Before.irrefl key (after.trans before)

/-- An expected key is held because one before it has not arrived. -/
theorem Accounts.exists_missing_before (distinct : (arrived.map Prod.fst).Nodup) {key : Key}
    (awaited : key ∈ expected) (held : key ∈ left.pending.map Prod.fst) :
    ∃ next ∈ expected, next.Before key ∧ next ∉ arrived.map Prod.fst := by
  have entries := accounts.arrived_perm.map Prod.fst
  rw [List.map_append] at entries
  have unreleased : key ∉ released.map Prod.fst := fun given =>
    (List.nodup_append.mp (entries.nodup_iff.mpr distinct)).2.2 key given key held rfl
  have missing := accounts.next_not_arrived (nodup_of_ascending ascending)
  rw [← accounts.expected_eq] at ascending awaited
  have rest_ascending := (List.pairwise_append.mp ascending).2.1
  have later := (List.mem_append.mp awaited).resolve_left unreleased
  -- The key that is expected next has not arrived, so it is another one, and it comes first.
  cases waiting : left.expected with
  | nil => simp [waiting] at later
  | cons next rest =>
    have absent := missing next (by simp [waiting])
    rw [waiting] at later rest_ascending
    refine ⟨next, ?_, ?_, absent⟩
    · rw [← accounts.expected_eq, waiting]
      simp
    · rcases List.mem_cons.mp later with rfl | after
      · exact absurd (entries.mem_iff.mp (List.mem_append_right _ held)) absent
      · exact (List.pairwise_cons.mp rest_ascending).1 key after

end Waiting

/-- As long as no expected key was drained, one is held exactly if one came out of turn. -/
theorem Course.Keeps.holds_expected_iff {keys : List Key} {arrived kept : List (Key × α)}
    {course : Course α} (keeps : course.Keeps keys arrived kept)
    (distinct : (arrived.map Prod.fst).Nodup)
    (undrained : ∀ key ∈ keys, key ∉ course.drained.map Prod.fst) :
    (∃ key ∈ keys, key ∈ course.left.pending.map Prod.fst) ↔ OutOfTurn keys arrived := by
  have entries := keeps.accounts.arrived_perm.map Prod.fst
  rw [List.map_append] at entries
  have ascending := sortKeys_ascending keys
  have kept_iff (key : Key) (member : key ∈ keys) :
      key ∈ kept.map Prod.fst ↔ key ∈ arrived.map Prod.fst := by
    rw [keeps.arrived_iff key, or_iff_left (undrained key member)]
  constructor
  · rintro ⟨key, member, held⟩
    have present := entries.mem_iff.mp (List.mem_append_right _ held)
    obtain ⟨next, awaited, before, missing⟩ := keeps.accounts.exists_missing_before ascending
      (List.nodup_append.mp (keeps.nodup_keys distinct)).1 ((mem_sortKeys key keys).mpr member) held
    rw [mem_sortKeys] at awaited
    exact ⟨key, member, (kept_iff key member).mp present, next, awaited, before,
      (kept_iff next awaited).not.mp missing⟩
  · rintro ⟨key, member, present, earlier, awaited, before, missing⟩
    refine ⟨key, member, ?_⟩
    have split := entries.mem_iff.mpr ((kept_iff key member).mpr present)
    refine (List.mem_append.mp split).resolve_left fun given => missing ?_
    have released := keeps.accounts.released_of_before ascending given
      ((mem_sortKeys earlier keys).mpr awaited) before
    exact (kept_iff earlier awaited).mp (entries.mem_iff.mp (List.mem_append_left _ released))

/-- Some draining found a key out of turn. -/
def DrainedEarly (keys : List Key) (requests : List (Request α)) : Prop :=
  ∃ before, before ++ [.drain] <+: requests ∧ OutOfTurn keys (arrivals before)

theorem drainedEarly_concat_iff (keys : List Key) (requests : List (Request α))
    (request : Request α) : DrainedEarly keys (requests ++ [request]) ↔
      DrainedEarly keys requests ∨ request = .drain ∧ OutOfTurn keys (arrivals requests) := by
  unfold DrainedEarly
  simp only [List.prefix_concat_iff]
  constructor
  · rintro ⟨before, last | inner, early⟩
    · obtain ⟨rfl, same⟩ := List.append_inj' last rfl
      exact Or.inr ⟨(List.cons.inj same).1.symm, early⟩
    · exact Or.inl ⟨before, inner, early⟩
  · rintro (⟨before, inner, early⟩ | ⟨rfl, early⟩)
    · exact ⟨before, Or.inr inner, early⟩
    · exact ⟨requests, Or.inl rfl, early⟩

theorem drained_expected_iff (keys : List Key) {requests : List (Request α)}
    (distinct : ((arrivals requests).map Prod.fst).Nodup) :
    (∃ key ∈ keys, key ∈ (Course.ofRequests keys requests).drained.map Prod.fst) ↔
      DrainedEarly keys requests := by
  induction requests using List.reverseRecOn with
  | nil => simp [Course.ofRequests, DrainedEarly]
  | append_singleton earlier request ih =>
    rw [drainedEarly_concat_iff, Course.ofRequests_concat]
    cases request with
    | add key value =>
      rw [arrivals_concat_add, List.map_append, List.nodup_append] at distinct
      simpa [Course.next] using ih distinct.1
    | drain =>
      rw [arrivals_concat_drain] at distinct
      have parts : (∃ key ∈ keys, key ∈ ((Course.ofRequests keys earlier).next .drain).drained.map
          Prod.fst) ↔
          (∃ key ∈ keys, key ∈ (Course.ofRequests keys earlier).drained.map Prod.fst) ∨
            ∃ key ∈ keys, key ∈ (Course.ofRequests keys earlier).left.pending.map Prod.fst := by
        simp only [Course.next, drain, List.map_append, List.mem_append, ← exists_or, and_or_left]
      rw [parts, ih distinct]
      by_cases early : DrainedEarly keys earlier
      · simp [early]
      · -- No expected key was drained before, so those that are held came out of turn.
        obtain ⟨kept, keeps⟩ := exists_keeps keys distinct
        have undrained := (ih distinct).not.mpr early
        rw [keeps.holds_expected_iff distinct fun key member lost => undrained ⟨key, member, lost⟩]
        simp

/-! ### Whole sequences of requests -/

/-- At any time each result is given once or still held, and all expected keys having arrived is
completion, unless some draining came too early. -/
theorem complete_unless_drained_early (keys : List Key) {requests : List (Request α)}
    (distinct : ((arrivals requests).map Prod.fst).Nodup) :
    let course := Course.ofRequests keys requests
    (course.released ++ course.drained ++ course.left.pending).Perm (arrivals requests) ∧
    (course.left.isComplete = true ↔
      (∀ key ∈ keys, key ∈ (arrivals requests).map Prod.fst) ∧ ¬ DrainedEarly keys requests) := by
  intro course
  obtain ⟨kept, keeps⟩ := exists_keeps keys distinct
  refine ⟨keeps.given_once, ?_⟩
  rw [keeps.isComplete_iff distinct, ← drained_expected_iff keys distinct]
  simp only [not_exists, not_and]

/-- A result that nobody expected may be drained while an expected one is missing. -/
theorem complete_after_draining_unexpected :
    let keys : List Key := [⟨2015, 1, 2⟩, ⟨2015, 1, 1⟩]
    let requests : List (Request String) := [.add ⟨2015, 2, 1⟩ "x", .drain,
      .add ⟨2015, 1, 2⟩ "b", .add ⟨2015, 1, 1⟩ "a", .drain]
    ((arrivals requests).map Prod.fst).Nodup ∧
      (Course.ofRequests keys requests).left.isComplete = true ∧
      let course := Course.ofRequests keys requests
      (course.released ++ course.drained ++ course.left.pending).Perm (arrivals requests) ∧
      (course.left.isComplete = true ↔
        (∀ key ∈ keys, key ∈ (arrivals requests).map Prod.fst) ∧ ¬ DrainedEarly keys requests) :=
  ⟨by decide, by decide, complete_unless_drained_early _ (by decide)⟩

/-- Draining takes the second result before the first one comes. Then both have arrived, and the
aggregator still waits for the second one. -/
theorem incomplete_after_early_draining :
    let keys : List Key := [⟨2015, 1, 1⟩, ⟨2015, 1, 2⟩]
    let requests : List (Request String) :=
      [.add ⟨2015, 1, 2⟩ "b", .drain, .add ⟨2015, 1, 1⟩ "a"]
    ¬ ((Course.ofRequests keys requests).left.isComplete = true ↔
      ∀ key ∈ keys, key ∈ (arrivals requests).map Prod.fst) := by
  decide

end Advent.Aggregator
