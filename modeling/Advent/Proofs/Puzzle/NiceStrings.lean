import Advent.Proofs.Solver.Faults
import Advent.Puzzle.NiceStrings
import Mathlib.Data.List.Range

/-!
# Searching for pairs

The search that judges by pairs asks at each index for the two bytes there and for what follows
them. Both slices are in the text at every index that it looks at, so the search comes to the second
rule for every text.
-/
namespace Advent.NiceStrings

theorem anyM_of_ok {α ε : Type} {test : α → Except ε Bool} {holds : α → Bool} {items : List α}
    (each : ∀ item ∈ items, test item = .ok (holds item)) :
    items.anyM test = .ok (items.any holds) := by
  induction items with
  | nil => rfl
  | cons item rest ih =>
    obtain ⟨first, others⟩ := List.forall_mem_cons.mp each
    rw [List.anyM, first, List.any_cons]
    cases holds item with
    | true => rfl
    | false => exact ih others

/-- Whether the first two bytes occur again after themselves. -/
def startRecurs (text : List UInt8) : Bool :=
  (neighbours (text.drop 2)).any fun (first, second) => [first, second] = text.take 2

theorem recursAt_of_within {text : List UInt8} {index : Nat} (within : index + 2 ≤ text.length) :
    recursAt text index = .ok (startRecurs (text.drop index)) := by
  simp only [recursAt, Text.slice_of_le (Nat.le_add_right index 2) within,
    Text.sliceFrom_of_le within, bind, Except.bind, pure, Except.pure, startRecurs,
    Nat.add_sub_cancel_left, List.drop_drop]

theorem startRecurs_cons_cons (first second : UInt8) (rest : List UInt8) :
    startRecurs (first :: second :: rest) = (neighbours rest).contains (first, second) := by
  rw [Bool.eq_iff_iff, List.contains_iff_mem, startRecurs, List.any_eq_true]
  simp

/-- The indices from which a pair can start, one after the other, find what the rule asks for. -/
theorem any_startRecurs (text : List UInt8) :
    (List.range (text.length - 1)).any (fun index => startRecurs (text.drop index)) =
      hasRepeatedPair text := by
  fun_induction hasRepeatedPair text with
  | case1 first second rest ih =>
    simp only [List.length_cons, Nat.add_sub_cancel] at ih ⊢
    -- Index zero looks at the whole text, and the others at the text without its first byte.
    rw [List.range_succ_eq_map, List.any_cons, List.any_map, List.drop_zero,
      startRecurs_cons_cons, ← ih]
    rfl
  | case2 text short =>
    match text with
    | [] => rfl
    | [_] => rfl
    | first :: second :: rest => exact absurd rfl (short first second rest)

theorem judgeByPairs_eq (text : List UInt8) : judgeByPairs text = .ok (isNiceByPairs text) := by
  have search : (List.range (text.length - 1)).anyM (recursAt text) =
      .ok (hasRepeatedPair text) := by
    rw [← any_startRecurs]
    -- At every index below the last one there are two bytes to take.
    refine anyM_of_ok fun index member => recursAt_of_within ?_
    have below := List.mem_range.mp member
    omega
  rw [judgeByPairs, search, isNiceByPairs]
  cases hasRepeatedPair text <;> rfl

theorem countNiceByPairs_eq (words : List (List UInt8)) :
    countNiceByPairs words = .ok (words.countP isNiceByPairs) := by
  unfold countNiceByPairs
  rw [← Nat.zero_add (words.countP isNiceByPairs)]
  generalize 0 = count
  induction words generalizing count with
  | nil => rfl
  | cons word rest ih =>
    rw [List.foldlM_cons, judgeByPairs_eq, List.countP_cons]
    cases isNiceByPairs word with
    | true => exact (ih (count + 1)).trans (by simp; omega)
    | false => exact ih count

theorem exists_answer (words : List (List UInt8)) (part : Nat) :
    ∃ text, answer words part = .ok text := by
  unfold answer
  rw [countNiceByPairs_eq]
  split
  · exact ⟨_, rfl⟩
  · exact ⟨_, rfl⟩

/-- Neither part depends on the length of the text. -/
theorem solver_completesOn (input : String) : solver.CompletesOn input :=
  Dispatch.completesOn_of_answers (fun _ _ => rfl) fun words _ => exists_answer words

theorem solver_answersOn (input : String) : solver.AnswersOn input :=
  Dispatch.answersOn_of_stateless (fun _ _ => rfl) fun words _ => exists_answer words

end Advent.NiceStrings
