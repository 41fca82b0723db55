import Advent.Run.RunError
import Mathlib.Data.List.ReduceOption

/-!
# Merging errors

A bundle is what a list of errors comes to: nothing, the one error itself, or one error that lists
all that they stand for. Merging two bundles gives the bundle of both lists, so neither the tree in
which outcomes are merged nor the steps on the way show in the result: no error is lost, and none is
counted twice.
-/
namespace Advent

namespace RunError

theorem items_combine (first second : RunError) :
    (combine first second).items = first.items ++ second.items := by
  rw [combine_eq, items]

theorem combine_assoc (first second third : RunError) :
    combine (combine first second) third = combine first (combine second third) := by
  rw [combine_eq (combine first second), combine_eq first (combine second third), items_combine,
    items_combine, List.append_assoc]

def bundle : List RunError → Option RunError
  | [] => none
  | [error] => some error
  | errors => some (.multiple (errors.flatMap items))

theorem bundle_of_two_le {errors : List RunError} (several : 2 ≤ errors.length) :
    bundle errors = some (.multiple (errors.flatMap items)) := by
  match errors with
  | [] => simp at several
  | [_] => simp at several
  | _ :: _ :: _ => rfl

/-- A bundle stands for what its errors stand for. -/
theorem exists_bundle {errors : List RunError} (some_error : errors ≠ []) :
    ∃ error, bundle errors = some error ∧ error.items = errors.flatMap items := by
  match errors with
  | [] => exact absurd rfl some_error
  | [error] => exact ⟨error, rfl, (List.flatMap_singleton items error).symm⟩
  | first :: second :: rest => exact ⟨_, rfl, rfl⟩

theorem merge_none (outcome : Option RunError) : merge outcome none = outcome := by
  cases outcome <;> rfl

theorem merge_bundle (first second : List RunError) :
    merge (bundle first) (bundle second) = bundle (first ++ second) := by
  by_cases no_first : first = []
  · subst no_first
    rfl
  · by_cases no_second : second = []
    · subst no_second
      rw [List.append_nil]
      exact merge_none (bundle first)
    · obtain ⟨error, bundled, stands⟩ := exists_bundle no_first
      obtain ⟨error', bundled', stands'⟩ := exists_bundle no_second
      have several : 2 ≤ (first ++ second).length := by
        have one := List.length_pos_iff.mpr no_first
        have other := List.length_pos_iff.mpr no_second
        rw [List.length_append]
        omega
      rw [bundled, bundled', bundle_of_two_le several, List.flatMap_append, ← stands, ← stands']
      exact congrArg some (combine_eq error error')

/-- An outcome is what the error that it has, if any, comes to. -/
theorem bundle_toList (outcome : Option RunError) : bundle outcome.toList = outcome := by
  cases outcome <;> rfl

theorem bundle_eq_none_iff (errors : List RunError) : bundle errors = none ↔ errors = [] := by
  match errors with
  | [] => exact iff_of_true rfl rfl
  | [_] => simp [bundle]
  | _ :: _ :: _ => simp [bundle]

/-! ### One after the other -/

theorem collect_eq_foldl_merge (outcomes : List (Option RunError)) :
    collect outcomes = outcomes.foldl merge none := by
  refine List.foldl_ext _ _ none fun collected outcome _ => ?_
  cases collected <;> cases outcome <;> rfl

theorem collect_bundles (parts : List (List RunError)) :
    collect (parts.map bundle) = bundle parts.flatten := by
  have from_start (start : List RunError) :
      (parts.map bundle).foldl merge (bundle start) = bundle (start ++ parts.flatten) := by
    induction parts generalizing start with
    | nil => simp
    | cons part rest ih =>
      rw [List.map_cons, List.foldl_cons, merge_bundle, ih, List.flatten_cons, List.append_assoc]
  rw [collect_eq_foldl_merge]
  exact from_start []

/-- Outcomes are bundles of the errors that there are, at most one each. -/
theorem map_bundle_toList (outcomes : List (Option RunError)) :
    (outcomes.map Option.toList).map bundle = outcomes := by
  rw [List.map_map]
  exact (List.map_congr_left fun outcome _ => bundle_toList outcome).trans (List.map_id _)

theorem flatten_map_toList (outcomes : List (Option RunError)) :
    (outcomes.map Option.toList).flatten = outcomes.reduceOption := by
  rw [List.reduceOption, List.filterMap_eq_flatMap_toList, List.flatMap_def]
  rfl

theorem collect_eq_bundle (outcomes : List (Option RunError)) :
    collect outcomes = bundle outcomes.reduceOption := by
  rw [← flatten_map_toList, ← collect_bundles, map_bundle_toList]

end RunError

/-! ### In a tree -/

theorem MergeTree.merged_bundles (tree : MergeTree (Option RunError))
    {parts : List (List RunError)} (leaves : tree.leaves = parts.map RunError.bundle) :
    tree.merged = RunError.bundle parts.flatten := by
  induction tree generalizing parts with
  | leaf outcome =>
    obtain ⟨part, rfl, bundled⟩ := List.map_eq_singleton_iff.mp leaves.symm
    simpa [MergeTree.merged] using bundled.symm
  | node left right ih_left ih_right =>
    -- The leaves of the left tree are a first part of the list, those of the right tree the rest.
    obtain ⟨first, second, rfl, left_leaves, right_leaves⟩ :=
      List.map_eq_append_iff.mp leaves.symm
    rw [MergeTree.merged, ih_left left_leaves.symm, ih_right right_leaves.symm,
      RunError.merge_bundle, List.flatten_append]

/-- A tree merges outcomes as they are collected one after the other. -/
theorem MergeTree.merged_eq_collect (tree : MergeTree (Option RunError)) :
    tree.merged = RunError.collect tree.leaves := by
  rw [tree.merged_bundles (RunError.map_bundle_toList tree.leaves).symm,
    RunError.flatten_map_toList, RunError.collect_eq_bundle]

/-! ### The outcome -/

/-- Combining puts the errors of one after those of the other, however it is nested. So outcomes that
are merged in any tree or collected in their order come to the same: nothing if there is no error,
the error itself if there is one, and otherwise one list of all that they stand for. -/
theorem errors_merged_in_order :
    (∀ first second : RunError,
      (RunError.combine first second).items = first.items ++ second.items) ∧
    (∀ first second third : RunError,
      RunError.combine (RunError.combine first second) third =
        RunError.combine first (RunError.combine second third)) ∧
    ∀ outcomes : List (Option RunError),
      (RunError.collect outcomes = none ↔ ∀ outcome ∈ outcomes, outcome = none) ∧
      (∀ error, outcomes.reduceOption = [error] → RunError.collect outcomes = some error) ∧
      (2 ≤ outcomes.reduceOption.length → RunError.collect outcomes =
        some (.multiple (outcomes.reduceOption.flatMap RunError.items))) ∧
      ∀ tree : MergeTree (Option RunError), tree.leaves = outcomes →
        tree.merged = RunError.collect outcomes := by
  refine ⟨RunError.items_combine, RunError.combine_assoc, fun outcomes => ?_⟩
  rw [RunError.collect_eq_bundle]
  refine ⟨?_, ?_, RunError.bundle_of_two_le, ?_⟩
  · rw [RunError.bundle_eq_none_iff, List.reduceOption_eq_nil_iff]
    simp only [List.eq_replicate_iff, exists_eq_left']
  · intro error single
    rw [single]
    rfl
  · rintro tree rfl
    rw [tree.merged_eq_collect, RunError.collect_eq_bundle]

/-- Errors that are absent leave no trace, and a list among the errors of a list stays one error. -/
theorem nested_errors_merged_in_two_trees :
    let nested : RunError := .multiple [.undelivered, .multiple []]
    let outcomes := [none, some nested, none, some (.noWorkers "a"), some .undelivered]
    let left : MergeTree (Option RunError) :=
      .node (.node (.node (.leaf none) (.leaf (some nested))) (.leaf none))
        (.node (.leaf (some (.noWorkers "a"))) (.leaf (some .undelivered)))
    let right : MergeTree (Option RunError) :=
      .node (.leaf none) (.node (.leaf (some nested)) (.node (.leaf none)
        (.node (.leaf (some (.noWorkers "a"))) (.leaf (some .undelivered)))))
    left.leaves = outcomes ∧ right.leaves = outcomes ∧
      left.merged = some (.multiple [.undelivered, .multiple [], .noWorkers "a", .undelivered]) ∧
      right.merged = left.merged ∧ RunError.collect [none, some nested] = some nested := by
  intro nested outcomes left right
  obtain ⟨_, _, merged⟩ := errors_merged_in_order
  obtain ⟨_, _, several, in_tree⟩ := merged outcomes
  have collected := several (by decide)
  refine ⟨rfl, rfl, (in_tree left rfl).trans collected, ?_, (merged _).2.1 nested rfl⟩
  exact (in_tree right rfl).trans (in_tree left rfl).symm

end Advent
