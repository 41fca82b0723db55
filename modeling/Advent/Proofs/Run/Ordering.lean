import Advent.Run.Aggregator
import Mathlib.Data.List.Perm.Basic

/-!
# Release in key order

What an aggregator has given so far and what it still holds account for everything that it took in.
What it gave stands for a first part of the ascending expected keys, and it stops only before a key
that has not arrived. So once every expected key has arrived nothing is left to release, and a run
in which exactly the expected keys arrive ends with nothing held back.
-/
namespace Advent

/-! ### Ascending keys -/

theorem mem_insertKey (key other : Key) (keys : List Key) :
    other ∈ insertKey key keys ↔ other = key ∨ other ∈ keys := by
  induction keys with
  | nil => simp [insertKey]
  | cons first rest ih =>
    unfold insertKey
    split
    next same => subst same; simp
    next =>
      split
      · simp
      · simp only [List.mem_cons, ih]
        exact or_left_comm

theorem insertKey_ascending (key : Key) (keys : List Key) (ascending : keys.Pairwise Key.Before) :
    (insertKey key keys).Pairwise Key.Before := by
  induction keys with
  | nil => simp [insertKey]
  | cons first rest ih =>
    obtain ⟨least, tail⟩ := List.pairwise_cons.mp ascending
    unfold insertKey
    split
    · exact ascending
    next different =>
      split
      next before =>
        refine List.pairwise_cons.mpr ⟨fun other member => ?_, ascending⟩
        rcases List.mem_cons.mp member with rfl | later
        · exact before
        · exact before.trans (least other later)
      next notBefore =>
        refine List.pairwise_cons.mpr ⟨fun other member => ?_, ih tail⟩
        rcases (mem_insertKey key other rest).mp member with rfl | later
        · -- The key is neither the first one nor before it, so it comes after it.
          exact ((Key.before_or_eq_or_before other first).resolve_left notBefore).resolve_left
            different
        · exact least other later

@[simp] theorem mem_sortKeys (key : Key) (keys : List Key) : key ∈ sortKeys keys ↔ key ∈ keys := by
  induction keys with
  | nil => simp [sortKeys]
  | cons first rest ih =>
    change key ∈ insertKey first (sortKeys rest) ↔ _
    rw [mem_insertKey, ih, List.mem_cons]

theorem sortKeys_ascending (keys : List Key) : (sortKeys keys).Pairwise Key.Before := by
  induction keys with
  | nil => exact List.Pairwise.nil
  | cons first rest ih => exact insertKey_ascending first _ ih

theorem nodup_of_ascending {keys : List Key} (ascending : keys.Pairwise Key.Before) :
    keys.Nodup := by
  refine ascending.imp fun {first second} before same => ?_
  subst same
  exact Key.Before.irrefl first before

theorem sortKeys_of_ascending {keys : List Key} (ascending : keys.Pairwise Key.Before) :
    sortKeys keys = keys := by
  have antisymm (first second : Key) (_ : first ∈ sortKeys keys) (_ : second ∈ keys)
      (before : first.Before second) (after : second.Before first) : first = second :=
    (Key.Before.irrefl first (before.trans after)).elim
  have distinct := nodup_of_ascending ascending
  have same_members : (sortKeys keys).Perm keys :=
    (List.perm_ext_iff_of_nodup (nodup_of_ascending (sortKeys_ascending keys)) distinct).mpr
      fun key => mem_sortKeys key keys
  exact List.Perm.eq_of_pairwise antisymm (sortKeys_ascending keys) ascending same_members

namespace Aggregator

open scoped List

variable {α : Type}

/-! ### Values that wait -/

theorem map_fst_insertPending (key : Key) (value : α) (pending : List (Key × α)) :
    (insertPending key value pending).map Prod.fst = insertKey key (pending.map Prod.fst) := by
  induction pending with
  | nil => rfl
  | cons first rest ih =>
    simp only [insertPending, List.map_cons, insertKey]
    split
    next same => simp [same]
    · split
      · rfl
      · simp [ih]

theorem insertPending_perm (key : Key) (value : α) (pending : List (Key × α))
    (fresh : key ∉ pending.map Prod.fst) :
    (insertPending key value pending).Perm ((key, value) :: pending) := by
  induction pending with
  | nil => exact .refl _
  | cons first rest ih =>
    obtain ⟨different, absent⟩ := not_or.mp (List.mem_cons.not.mp fresh)
    simp only [insertPending, if_neg different]
    split
    · exact .refl _
    · exact ((ih absent).cons first).trans (List.Perm.swap ..)

private theorem extracted_perm (next : Key) (pending : List (Key × α)) (ready : Key × α)
    (distinct : (pending.map Prod.fst).Nodup)
    (found : pending.find? (fun (key, _) => key = next) = some ready) :
    (ready :: pending.filter fun (key, _) => key ≠ next).Perm pending := by
  induction pending with
  | nil => simp at found
  | cons first rest ih =>
    obtain ⟨absent, tail⟩ := List.nodup_cons.mp distinct
    by_cases same : first.1 = next
    · have first_found : first = ready := by simpa [same] using found
      subst first_found same
      have others : rest.filter (fun (key, _) => key ≠ first.1) = rest := by
        refine List.filter_eq_self.mpr fun entry member => decide_eq_true fun equal => absent ?_
        exact equal ▸ List.mem_map_of_mem member
      rw [List.filter_cons_of_neg (by simp), others]
    · rw [List.find?_cons_of_neg (by simpa using same)] at found
      rw [List.filter_cons_of_pos (by simpa using same)]
      exact (List.Perm.swap ..).trans ((ih tail found).cons first)

/-! ### What is released -/

/-- What was released and what is left stand for all expected keys and for all that arrived. -/
structure Accounts (expected : List Key) (arrived released : List (Key × α))
    (left : Aggregator α) : Prop where
  expected_eq : released.map Prod.fst ++ left.expected = expected
  arrived_perm : (released ++ left.pending).Perm arrived
  ascending : (left.pending.map Prod.fst).Pairwise Key.Before
  /-- The next expected key has not arrived. -/
  stalled : ∀ next ∈ left.expected.head?, next ∉ left.pending.map Prod.fst

theorem release_accounts (expected : List Key) (pending : List (Key × α))
    (ascending : (pending.map Prod.fst).Pairwise Key.Before) :
    Accounts expected pending (release expected pending).1 (release expected pending).2 := by
  induction expected generalizing pending with
  | nil => exact ⟨rfl, .refl _, ascending, by simp [release]⟩
  | cons next rest ih =>
    unfold release
    split
    next missing =>
      refine ⟨rfl, .refl _, ascending, fun key head waits => ?_⟩
      obtain rfl : next = key := by simpa using head
      obtain ⟨entry, member, same⟩ := List.mem_map.mp waits
      exact absurd same (by simpa using List.find?_eq_none.mp missing entry member)
    next ready found =>
      -- What was released leaves fewer pending values, for which the rest of the keys accounts.
      have kept : (pending.filter fun (key, _) => key ≠ next).Sublist pending := List.filter_sublist
      have tail := ih _ (ascending.sublist (kept.map Prod.fst))
      have key_found : ready.1 = next := by simpa using List.find?_some found
      refine ⟨?_, ?_, tail.ascending, tail.stalled⟩
      · simp only [List.map_cons, List.cons_append, key_found, tail.expected_eq]
      · exact (tail.arrived_perm.cons ready).trans
          (extracted_perm next pending ready (nodup_of_ascending ascending) found)

theorem ofKeys_accounts (keys : List Key) :
    Accounts (sortKeys keys) [] [] (ofKeys keys : Aggregator α) :=
  ⟨rfl, .refl _, List.Pairwise.nil, by simp [ofKeys]⟩

/-- A new key may arrive at any time. -/
theorem Accounts.add {expected : List Key} {arrived released : List (Key × α)}
    {aggregator : Aggregator α} (accounts : Accounts expected arrived released aggregator)
    (key : Key) (value : α) (fresh : key ∉ arrived.map Prod.fst) :
    Accounts expected (arrived ++ [(key, value)]) (released ++ (aggregator.add key value).1)
      (aggregator.add key value).2 := by
  have absent : key ∉ aggregator.pending.map Prod.fst := fun waits =>
    fresh ((accounts.arrived_perm.map Prod.fst).mem_iff.mp (by simp [waits]))
  have ascending : ((insertPending key value aggregator.pending).map Prod.fst).Pairwise
      Key.Before := by
    rw [map_fst_insertPending]
    exact insertKey_ascending key _ accounts.ascending
  have step := release_accounts aggregator.expected _ ascending
  refine ⟨?_, ?_, step.ascending, step.stalled⟩
  · rw [List.map_append, List.append_assoc]
    exact (congrArg _ step.expected_eq).trans accounts.expected_eq
  · rw [List.append_assoc]
    calc released ++ ((aggregator.add key value).1 ++ (aggregator.add key value).2.pending)
      _ ~ released ++ ((key, value) :: aggregator.pending) :=
        (step.arrived_perm.trans (insertPending_perm key value _ absent)).append_left released
      _ ~ (key, value) :: (released ++ aggregator.pending) := List.perm_middle
      _ ~ (key, value) :: arrived := accounts.arrived_perm.cons _
      _ ~ arrived ++ [(key, value)] := (List.perm_append_singleton _ _).symm

/-- Takes values in, one after the other; gives all that is released on the way. -/
def addAll (aggregator : Aggregator α) : List (Key × α) → List (Key × α) × Aggregator α
  | [] => ([], aggregator)
  | (key, value) :: rest =>
    let (ready, aggregator) := aggregator.add key value
    let (later, aggregator) := addAll aggregator rest
    (ready ++ later, aggregator)

theorem Accounts.addAll {expected : List Key} {arrived released : List (Key × α)}
    {aggregator : Aggregator α} (accounts : Accounts expected arrived released aggregator)
    (arrivals : List (Key × α)) (distinct : ((arrived ++ arrivals).map Prod.fst).Nodup) :
    Accounts expected (arrived ++ arrivals) (released ++ (aggregator.addAll arrivals).1)
      (aggregator.addAll arrivals).2 := by
  induction arrivals generalizing arrived released aggregator with
  | nil => simpa [Aggregator.addAll] using accounts
  | cons arrival rest ih =>
    obtain ⟨key, value⟩ := arrival
    have fresh : key ∉ arrived.map Prod.fst := by
      rw [List.map_append, List.nodup_append] at distinct
      exact fun member => distinct.2.2 key member key (by simp) rfl
    have step := ih (accounts.add key value fresh) (by simpa using distinct)
    rw [List.append_assoc, List.append_assoc] at step
    exact step

/-! ### Completion -/

/-- A key that is still expected was not released before, and if it is the next it is not held. -/
theorem Accounts.next_not_arrived {expected : List Key} {arrived released : List (Key × α)}
    {aggregator : Aggregator α} (accounts : Accounts expected arrived released aggregator)
    (distinct : expected.Nodup) :
    ∀ next ∈ aggregator.expected.head?, next ∉ arrived.map Prod.fst := by
  intro next waiting arrived_next
  have entries := accounts.arrived_perm.map Prod.fst
  have awaited : next ∈ aggregator.expected := List.mem_of_mem_head? waiting
  have unreleased : next ∉ released.map Prod.fst := by
    rw [← accounts.expected_eq, List.nodup_append] at distinct
    exact fun given => distinct.2.2 next given next awaited rfl
  rw [← entries.mem_iff, List.map_append, List.mem_append] at arrived_next
  exact arrived_next.elim unreleased (accounts.stalled next waiting)

theorem Accounts.isComplete_iff {keys : List Key} {arrived released : List (Key × α)}
    {aggregator : Aggregator α} (accounts : Accounts (sortKeys keys) arrived released aggregator) :
    aggregator.isComplete = true ↔ ∀ key ∈ keys, key ∈ arrived.map Prod.fst := by
  have entries := accounts.arrived_perm.map Prod.fst
  rw [isComplete, List.isEmpty_iff]
  constructor
  · intro done key member
    have given : released.map Prod.fst = sortKeys keys := by
      simpa [done] using accounts.expected_eq
    refine entries.mem_iff.mp ?_
    rw [List.map_append, given]
    exact List.mem_append_left _ ((mem_sortKeys key keys).mpr member)
  · intro all
    cases waiting : aggregator.expected with
    | nil => rfl
    | cons next rest =>
      have known : next ∈ sortKeys keys := by
        rw [← accounts.expected_eq, waiting]
        simp
      have distinct := nodup_of_ascending (sortKeys_ascending keys)
      have missing := accounts.next_not_arrived distinct next (by simp [waiting])
      exact (missing (all next ((mem_sortKeys next keys).mp known))).elim

/-- If exactly the expected keys arrive, all of them are released in ascending order. -/
theorem Accounts.of_all_arrived {keys : List Key} {arrived released : List (Key × α)}
    {aggregator : Aggregator α} (accounts : Accounts (sortKeys keys) arrived released aggregator)
    (all : (arrived.map Prod.fst).Perm keys) (distinct : keys.Nodup) :
    aggregator.isComplete = true ∧ aggregator.pending = [] ∧
      released.map Prod.fst = sortKeys keys := by
  have complete := accounts.isComplete_iff.mpr fun key member => all.mem_iff.mpr member
  have given : released.map Prod.fst = sortKeys keys := by
    simpa [List.isEmpty_iff.mp complete] using accounts.expected_eq
  have entries := accounts.arrived_perm.map Prod.fst
  refine ⟨complete, ?_, given⟩
  cases waiting : aggregator.pending with
  | nil => rfl
  | cons first rest =>
    -- A value still held would have a key that was released, and keys arrive once.
    rw [waiting, List.map_append, given] at entries
    have expected : first.1 ∈ keys := (entries.trans all).mem_iff.mp (by simp)
    have once := (entries.trans all).nodup_iff.mpr distinct
    rw [List.nodup_append] at once
    exact (once.2.2 first.1 ((mem_sortKeys first.1 keys).mpr expected) first.1 (by simp) rfl).elim

end Aggregator

end Advent
