import Advent.Proofs.Run.Ordering

/-!
# What is released, and when

Keys may arrive in any order, some expected ones never and some that nobody expected. At any time
the aggregator has released the results for the longest first part of the ascending expected keys
of which every key has arrived. Draining then gives the others, so each result is given once, and
if all keys that arrived were expected, everything comes out in ascending order.
-/
namespace Advent.Aggregator

variable {α : Type}

/-! ### Results for keys -/

/-- What arrived under the keys, in the order of the keys. -/
def resultsFor (arrivals : List (Key × α)) (keys : List Key) : List (Key × α) :=
  keys.filterMap fun key => arrivals.find? fun arrival => arrival.1 = key

theorem find?_of_mem {arrivals : List (Key × α)} (distinct : (arrivals.map Prod.fst).Nodup)
    {entry : Key × α} (member : entry ∈ arrivals) :
    arrivals.find? (fun arrival => arrival.1 = entry.1) = some entry := by
  induction arrivals with
  | nil => cases member
  | cons first rest ih =>
    obtain ⟨absent, tail⟩ := List.nodup_cons.mp distinct
    rcases List.mem_cons.mp member with rfl | later
    · simp
    · have different : first.1 ≠ entry.1 := fun same =>
        absent (same ▸ List.mem_map_of_mem later)
      rw [List.find?_cons_of_neg (by simpa using different)]
      exact ih tail later

theorem eq_resultsFor {arrivals : List (Key × α)} (distinct : (arrivals.map Prod.fst).Nodup)
    (entries : List (Key × α)) (arrived : ∀ entry ∈ entries, entry ∈ arrivals) :
    entries = resultsFor arrivals (entries.map Prod.fst) := by
  induction entries with
  | nil => rfl
  | cons entry rest ih =>
    have found := find?_of_mem distinct (arrived entry List.mem_cons_self)
    have tail := ih fun other member => arrived other (List.mem_cons_of_mem entry member)
    calc entry :: rest
      _ = entry :: resultsFor arrivals (rest.map Prod.fst) := congrArg _ tail
      _ = resultsFor arrivals ((entry :: rest).map Prod.fst) := by simp [resultsFor, found]

/-! ### The longest first part that has arrived -/

section Released

variable {expected : List Key} {arrived released : List (Key × α)} {left : Aggregator α}
  (accounts : Accounts expected arrived released left)

include accounts

theorem Accounts.released_keys (distinct : expected.Nodup) :
    released.map Prod.fst = expected.takeWhile (· ∈ arrived.map Prod.fst) := by
  have given : ∀ key ∈ released.map Prod.fst, decide (key ∈ arrived.map Prod.fst) = true := by
    intro key member
    have entries := accounts.arrived_perm.map Prod.fst
    exact decide_eq_true (entries.mem_iff.mp (by simpa using Or.inl (by simpa using member)))
  rw [← accounts.expected_eq, List.takeWhile_append_of_pos given]
  -- The first part cannot go on: the next expected key would have been released with the others.
  cases waiting : left.expected with
  | nil => simp
  | cons next rest =>
    have missing := accounts.next_not_arrived distinct next (by simp [waiting])
    rw [List.takeWhile_cons_of_neg (by simpa using missing), List.append_nil]

/-- If only expected keys arrived, what is held comes after all that was released. -/
theorem Accounts.ascending_of_expected (ascending : expected.Pairwise Key.Before)
    (distinct : (arrived.map Prod.fst).Nodup)
    (known : ∀ key ∈ arrived.map Prod.fst, key ∈ expected) :
    ((released ++ left.pending).map Prod.fst).Pairwise Key.Before := by
  have entries := accounts.arrived_perm.map Prod.fst
  have once := entries.nodup_iff.mpr distinct
  rw [List.map_append] at entries once ⊢
  rw [← accounts.expected_eq, List.pairwise_append] at ascending
  refine List.pairwise_append.mpr ⟨ascending.1, accounts.ascending, ?_⟩
  intro given was_released held waits
  -- A held key is expected, and as it was not released it is still among those to come.
  have split := known held (entries.mem_iff.mp (List.mem_append_right _ waits))
  rw [← accounts.expected_eq, List.mem_append] at split
  rcases split with early | later
  · exact ((List.nodup_append.mp once).2.2 held early held waits rfl).elim
  · exact ascending.2.2 given was_released held later

end Released

/-! ### Whole sequences of arrivals -/

/-- What some arrivals made the aggregator release, and what it gives when drained after them. -/
structure ReleasesInOrder (keys : List Key) (arrivals : List (Key × α)) : Prop where
  released_eq : ((ofKeys keys).addAll arrivals).1 =
    resultsFor arrivals ((sortKeys keys).takeWhile (· ∈ arrivals.map Prod.fst))
  isComplete_iff : ((ofKeys keys).addAll arrivals).2.isComplete = true ↔
    ∀ key ∈ keys, key ∈ arrivals.map Prod.fst
  drained_ascending :
    (((ofKeys keys).addAll arrivals).2.drain.1.map Prod.fst).Pairwise Key.Before
  given_once : (((ofKeys keys).addAll arrivals).1 ++
    ((ofKeys keys).addAll arrivals).2.drain.1).Perm arrivals
  given_ascending : (∀ key ∈ arrivals.map Prod.fst, key ∈ keys) →
    ((((ofKeys keys).addAll arrivals).1 ++
      ((ofKeys keys).addAll arrivals).2.drain.1).map Prod.fst).Pairwise Key.Before

theorem releasesInOrder_of_distinct (keys : List Key) {arrivals : List (Key × α)}
    (distinct : (arrivals.map Prod.fst).Nodup) : ReleasesInOrder keys arrivals := by
  have accounts := (ofKeys_accounts keys).addAll arrivals distinct
  rw [List.nil_append, List.nil_append] at accounts
  have ascending := sortKeys_ascending keys
  refine ⟨?_, accounts.isComplete_iff, accounts.ascending, accounts.arrived_perm, fun known => ?_⟩
  · rw [← accounts.released_keys (nodup_of_ascending ascending)]
    exact eq_resultsFor distinct _ fun entry member =>
      accounts.arrived_perm.mem_iff.mp (List.mem_append_left _ member)
  · exact accounts.ascending_of_expected ascending distinct fun key member =>
      (mem_sortKeys key keys).mpr (known key member)

/-- After every arrival the results for the longest first part of the ascending expected keys that
has arrived are released, and draining gives the others. -/
theorem longest_arrived_part_released (keys : List Key) {arrivals : List (Key × α)}
    (distinct : (arrivals.map Prod.fst).Nodup) :
    (sortKeys keys).Pairwise Key.Before ∧ (∀ key, key ∈ sortKeys keys ↔ key ∈ keys) ∧
      ∀ earlier, earlier <+: arrivals → ReleasesInOrder keys earlier := by
  refine ⟨sortKeys_ascending keys, fun key => mem_sortKeys key keys, fun earlier part => ?_⟩
  exact releasesInOrder_of_distinct keys (distinct.sublist (part.sublist.map Prod.fst))

/-- One expected key is named twice, one never arrives, and one arrival is not expected. -/
theorem arrived_part_released_of_three :
    let keys : List Key := [⟨2016, 1, 1⟩, ⟨2015, 3, 2⟩, ⟨2015, 3, 1⟩, ⟨2015, 3, 2⟩]
    let arrivals : List (Key × String) :=
      [(⟨2015, 3, 2⟩, "b"), (⟨2015, 4, 1⟩, "x"), (⟨2015, 3, 1⟩, "a")]
    (arrivals.map Prod.fst).Nodup ∧
      ((ofKeys keys).addAll arrivals).1 = [(⟨2015, 3, 1⟩, "a"), (⟨2015, 3, 2⟩, "b")] ∧
      (sortKeys keys).Pairwise Key.Before ∧ (∀ key, key ∈ sortKeys keys ↔ key ∈ keys) ∧
      ∀ earlier, earlier <+: arrivals → ReleasesInOrder keys earlier :=
  ⟨by decide, by decide, longest_arrived_part_released _ (by decide)⟩

end Advent.Aggregator
