import Advent.Proofs.Solver.Faults
import Advent.Proofs.Text.Reading
import Advent.Puzzle.Presents

/-!
# Measures within a word

The sides of a present that was read fit in 32 bits, so both measures fit in 128 bits. The total is
then the sum of the measures, unless that sum is too large.
-/
namespace Advent.Presents

namespace Present

/-- A present whose sides all fit in 32 bits. -/
def Bounded (present : Present) : Prop :=
  present.short ≤ longestSide ∧ present.middle ≤ longestSide ∧ present.long ≤ longestSide

theorem bounded_ofSides {length width height : Nat} (length_le : length ≤ longestSide)
    (width_le : width ≤ longestSide) (height_le : height ≤ longestSide) :
    (ofSides length width height).Bounded := by
  refine ⟨?_, ?_, ?_⟩ <;> simp only [ofSides] <;> omega

variable {present : Present}

theorem Bounded.paper_lt (bounded : present.Bounded) : present.paper < Word.size 128 := by
  obtain ⟨short, middle, long⟩ := bounded
  have bottom := Nat.mul_le_mul short middle
  have side := Nat.mul_le_mul middle long
  have front := Nat.mul_le_mul long short
  -- Paper is made of seven faces, and each is at most the square of the longest side.
  have room : 7 * (longestSide * longestSide) < Word.size 128 := by decide
  unfold paper
  omega

theorem Bounded.ribbon_lt (bounded : present.Bounded) : present.ribbon < Word.size 128 := by
  obtain ⟨short, middle, long⟩ := bounded
  have volume := Nat.mul_le_mul (Nat.mul_le_mul short middle) long
  have room : 4 * longestSide + longestSide * longestSide * longestSide < Word.size 128 := by
    decide
  unfold ribbon
  omega

end Present

theorem bounded_of_readPresent {text : List Char} {present : Present}
    (read : readPresent text = .ok present) : present.Bounded := by
  unfold readPresent at read
  cases sides : (text.splitOn 'x').mapM readSide with
  | error cause => simp [sides, bind, Except.bind] at read
  | ok values =>
    have within : ∀ side ∈ values, side ≤ longestSide :=
      Text.forall_of_mapM
        (fun piece side found => Text.readNat_le longestSide _ side (Text.of_mapError_eq_ok found))
        sides
    simp only [sides, bind, Except.bind] at read
    -- Only three sides make a present, and none of them may be zero.
    split at read
    next length width height =>
      split at read
      · cases read
      · cases read
        exact Present.bounded_ofSides (within _ (by simp)) (within _ (by simp))
          (within _ (by simp))
    · cases read

/-- The total of measures that fit is their sum, as long as that fits too. -/
theorem total_eq {measure : Present → Nat} {presents : List Present}
    (fits : ∀ present ∈ presents, measure present < Word.size 128) :
    total measure presents =
      if (presents.map measure).sum < Word.size 128 then .ok (presents.map measure).sum
      else .error .tooLarge := by
  unfold total
  rw [← Nat.zero_add (presents.map measure).sum]
  have small : 0 < Word.size 128 := by decide
  generalize 0 = sum at small ⊢
  induction presents generalizing sum with
  | nil => simp [small, pure, Except.pure]
  | cons present rest ih =>
    obtain ⟨first, others⟩ := List.forall_mem_cons.mp fits
    rw [List.foldlM_cons, Word.unsigned128?_of_lt first, List.map_cons, List.sum_cons,
      ← Nat.add_assoc]
    by_cases next : sum + measure present < Word.size 128
    · simp only [Word.unsigned128?_of_lt next]
      exact ih others _ next
    · -- The sum only grows, so what comes later cannot bring it back into the word.
      simp only [if_neg (show ¬ sum + measure present + (rest.map measure).sum < Word.size 128
        by omega), Word.unsigned128?, if_neg next]
      rfl

/-- The measure that a part adds up. -/
def measureOf (part : Nat) : Present → Nat :=
  if part = 1 then Present.paper else Present.ribbon

theorem measureOf_lt {present : Present} (bounded : present.Bounded) (part : Nat) :
    measureOf part present < Word.size 128 := by
  unfold measureOf
  split
  · exact bounded.paper_lt
  · exact bounded.ribbon_lt

section Answers

variable {presents : List Present} (bounded : ∀ present ∈ presents, present.Bounded) (part : Nat)

include bounded

theorem answer_eq :
    answer presents part =
      if (presents.map (measureOf part)).sum < Word.size 128
      then .ok (toString (presents.map (measureOf part)).sum)
      else .error (.failed "total does not fit in 128 bits") := by
  have added := total_eq fun present member => measureOf_lt (bounded present member) part
  change ((total (measureOf part) presents).mapError TotalError.toSolveError).map toString = _
  rw [added]
  split <;> rfl

theorem answer_of_bounded : (Step.ofAnswer presents (answer presents part)).Completes := by
  intro cause
  rw [Step.ofAnswer, answer_eq bounded part]
  split <;> simp

end Answers

theorem bounded_of_parse {input : String} {presents : List Present}
    (read : parse input = .ok presents) : ∀ present ∈ presents, present.Bounded :=
  Text.forall_of_readLines (fun _ _ => bounded_of_readPresent) (Text.of_mapError_eq_ok read)

/-- The measures fit whatever the length of the text. -/
theorem solver_completesOn (input : String) : solver.CompletesOn input :=
  Dispatch.completesOn_of_stateless (fun _ _ => rfl) fun _ read =>
    answer_of_bounded (bounded_of_parse read)

end Advent.Presents
