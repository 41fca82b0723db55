import Advent.Proofs.Puzzle.Lines
import Advent.Proofs.Puzzle.Presents
import Advent.Proofs.Solver.Calls
import Mathlib.Algebra.BigOperators.Group.List.Basic
import Mathlib.Algebra.Ring.Nat

/-!
# Measures and their sums

A present does not depend on the order of its sides, so a law about its measures need only be shown
for sides in ascending order. Paper is the surface with the smallest of the three faces once more, and
ribbon the smallest of the three perimeters with the volume. Each part answers the sum of its measure
over all presents if that sum fits in 128 bits, and otherwise fails, in whatever order they come.
-/
namespace Advent.Presents

namespace Present

variable (length width height : Nat)

/-! ### Sides in any order -/

theorem ofSides_swap_first : ofSides width length height = ofSides length width height := by
  simp only [ofSides, mk.injEq]
  omega

theorem ofSides_swap_last : ofSides length height width = ofSides length width height := by
  simp only [ofSides, mk.injEq]
  omega

theorem ofSides_of_ascending {length width height : Nat} (first : length ≤ width)
    (last : width ≤ height) : ofSides length width height = ⟨length, width, height⟩ := by
  simp only [ofSides, mk.injEq]
  omega

/-- What does not change when neighbouring sides are swapped holds of all sides if it holds of
ascending ones. -/
theorem sides_induction {Holds : Nat → Nat → Nat → Prop}
    (swap_first : ∀ a b c, Holds a b c → Holds b a c)
    (swap_last : ∀ a b c, Holds a b c → Holds a c b)
    (ascending : ∀ a b c, a ≤ b → b ≤ c → Holds a b c) : Holds length width height := by
  -- The shorter of the first two sides goes first, and then the height is moved to its place.
  have ordered (a b c : Nat) (first : a ≤ b) : Holds a b c := by
    by_cases last : b ≤ c
    · exact ascending a b c first last
    · apply swap_last
      by_cases middle : a ≤ c
      · exact ascending a c b middle (by omega)
      · apply swap_first
        exact ascending c a b (by omega) first
  by_cases first : length ≤ width
  · exact ordered length width height first
  · apply swap_first
    exact ordered width length height (by omega)

theorem paper_ofSides :
    (ofSides length width height).paper =
      2 * (length * width + width * height + height * length) +
        min (min (length * width) (width * height)) (height * length) := by
  induction length, width, height using sides_induction with
  | swap_first a b c ih =>
    rw [ofSides_swap_first, ih, Nat.mul_comm b a, Nat.mul_comm a c, Nat.mul_comm c b]
    omega
  | swap_last a b c ih =>
    rw [ofSides_swap_last, ih, Nat.mul_comm a c, Nat.mul_comm c b, Nat.mul_comm b a]
    omega
  | ascending a b c first last =>
    -- The face of the two shorter sides is the smallest.
    have side : a * b ≤ b * c := Nat.mul_comm a b ▸ Nat.mul_le_mul_left b (by omega)
    have front : a * b ≤ c * a := Nat.mul_comm a c ▸ Nat.mul_le_mul_left a last
    rw [ofSides_of_ascending first last, paper, min_eq_left side, min_eq_left front]

theorem ribbon_ofSides :
    (ofSides length width height).ribbon =
      2 * min (min (length + width) (width + height)) (height + length) +
        length * width * height := by
  induction length, width, height using sides_induction with
  | swap_first a b c ih =>
    rw [ofSides_swap_first, ih, Nat.mul_comm b a]
    omega
  | swap_last a b c ih =>
    rw [ofSides_swap_last, ih, Nat.mul_right_comm a c b]
    omega
  | ascending a b c first last =>
    rw [ofSides_of_ascending first last]
    simp only [ribbon]
    omega

/-- The three sides, the shortest first. -/
def sides (present : Present) : List Nat :=
  [present.short, present.middle, present.long]

theorem sides_ofSides_perm :
    (ofSides length width height).sides.Perm [length, width, height] := by
  induction length, width, height using sides_induction with
  | swap_first a b c ih =>
    rw [ofSides_swap_first]
    exact ih.trans (.swap b a [c])
  | swap_last a b c ih =>
    rw [ofSides_swap_last]
    exact ih.trans (.cons a (.swap c b []))
  | ascending a b c first last =>
    rw [ofSides_of_ascending first last]
    rfl

theorem sides_ofSides_ascending : (ofSides length width height).sides.Pairwise (· ≤ ·) := by
  simp only [sides, ofSides, List.pairwise_cons, List.forall_mem_cons, List.not_mem_nil,
    false_implies, implies_true, List.Pairwise.nil, and_true]
  omega

theorem ofSides_of_perm {length width height a b c : Nat}
    (perm : [a, b, c].Perm [length, width, height]) :
    ofSides a b c = ofSides length width height := by
  have sorted : (ofSides a b c).sides = (ofSides length width height).sides := by
    apply List.Perm.eq_of_pairwise (fun _ _ _ _ => Nat.le_antisymm)
    · exact sides_ofSides_ascending a b c
    · exact sides_ofSides_ascending length width height
    · exact (sides_ofSides_perm a b c).trans (perm.trans (sides_ofSides_perm ..).symm)
  -- The three sides are all that is known of a present.
  simpa only [sides, List.cons.injEq, and_true, ← mk.injEq] using sorted

end Present

/-! ### Sums -/

theorem toNat_le_longestSide (side : UInt32) : side.toNat ≤ longestSide := by
  have longest : longestSide = 2 ^ 32 - 1 := by decide
  have below := side.toNat_lt
  omega

/-- The present with sides of 32 bits. -/
def ofWords (sides : UInt32 × UInt32 × UInt32) : Present :=
  .ofSides sides.1.toNat sides.2.1.toNat sides.2.2.toNat

theorem bounded_ofWords (sides : UInt32 × UInt32 × UInt32) : (ofWords sides).Bounded :=
  Present.bounded_ofSides (toNat_le_longestSide _) (toNat_le_longestSide _)
    (toNat_le_longestSide _)

theorem solveChecked_of_perm {presents others : List Present}
    (bounded : ∀ present ∈ presents, present.Bounded) (perm : others.Perm presents) (part : Nat) :
    (solver.solveChecked others part).answer = (solver.solveChecked presents part).answer := by
  have bounded' : ∀ present ∈ others, present.Bounded := fun present member =>
    bounded present (perm.mem_iff.mp member)
  have sum_eq : (others.map (measureOf part)).sum = (presents.map (measureOf part)).sum :=
    (perm.map (measureOf part)).sum_eq
  by_cases within : 1 ≤ part ∧ part ≤ 2
  · have solved (state : List Present) :
        (solver.solveChecked state part).answer = answer state part :=
      congrArg Step.answer (Dispatch.solveChecked_of_within parse
        (fun part presents => .ofAnswer presents (answer presents part)) state within)
    rw [solved, solved, answer_eq bounded' part, answer_eq bounded part, sum_eq]
  · rw [Solver.solveChecked_out_of_range solver others part within,
      Solver.solveChecked_out_of_range solver presents part within]
    rfl

/-- A present is the same for all orders of its sides, and both measures have closed forms that fit
in 128 bits. A part answers the sum of its measure or, if that does not fit, fails, and neither the
order of the presents nor that of the lines matters. -/
theorem measures_summed_in_any_order :
    (∀ length width height : UInt32,
      let l := length.toNat
      let w := width.toNat
      let h := height.toNat
      let present := Present.ofSides l w h
      (∀ a b c, [a, b, c].Perm [l, w, h] → Present.ofSides a b c = present) ∧
      present.paper = 2 * (l * w + w * h + h * l) + min (min (l * w) (w * h)) (h * l) ∧
      present.ribbon = 2 * min (min (l + w) (w + h)) (h + l) + l * w * h ∧
      present.paper < 2 ^ 128 ∧ present.ribbon < 2 ^ 128) ∧
    (∀ sides : List (UInt32 × UInt32 × UInt32),
      let presents := sides.map ofWords
      let paper := (presents.map Present.paper).sum
      let ribbon := (presents.map Present.ribbon).sum
      ((solver.solveChecked presents 1).answer =
        if paper < 2 ^ 128 then .ok (toString paper)
        else .error (.failed "total does not fit in 128 bits")) ∧
      ((solver.solveChecked presents 2).answer =
        if ribbon < 2 ^ 128 then .ok (toString ribbon)
        else .error (.failed "total does not fit in 128 bits")) ∧
      ∀ others, others.Perm presents → ∀ part,
        (solver.solveChecked others part).answer = (solver.solveChecked presents part).answer) ∧
    ∀ input reordered presents, parse input = .ok presents →
      (Text.contents (reordered.toList.splitOn '\n')).Perm
        (Text.contents (input.toList.splitOn '\n')) →
      ∃ others, parse reordered = .ok others ∧ ∀ part,
        (solver.solveChecked others part).answer = (solver.solveChecked presents part).answer := by
  refine ⟨?_, ?_, ?_⟩
  · intro length width height l w h present
    have bounded : present.Bounded := bounded_ofWords (length, width, height)
    rw [← Word.size_eq]
    exact ⟨fun a b c perm => Present.ofSides_of_perm perm, Present.paper_ofSides l w h,
      Present.ribbon_ofSides l w h, bounded.paper_lt, bounded.ribbon_lt⟩
  · intro sides presents paper ribbon
    have bounded : ∀ present ∈ presents, present.Bounded :=
      List.forall_mem_map.mpr fun sides _ => bounded_ofWords sides
    rw [← Word.size_eq]
    exact ⟨answer_eq bounded 1, answer_eq bounded 2, fun others perm part =>
      solveChecked_of_perm bounded perm part⟩
  · intro input reordered presents read perm
    -- Lines are read one by one, so the presents change places as their lines do.
    obtain ⟨others, read', same⟩ := parse_readsEachLine.exists_of_perm read perm
    exact ⟨others, read', solveChecked_of_perm (bounded_of_parse read) same⟩

/-- Two lines that change places, with a blank line between them. -/
theorem two_presents_summed_in_any_order :
    [4, 2, 3].Perm [2, 3, 4] ∧ Present.ofSides 4 2 3 = Present.ofSides 2 3 4 ∧
      parse "4x2x3\n1x1x10\n" = .ok [.ofSides 2 3 4, .ofSides 1 1 10] ∧
      (Text.contents ("1x1x10\n\n4x2x3".toList.splitOn '\n')).Perm
        (Text.contents ("4x2x3\n1x1x10\n".toList.splitOn '\n')) ∧
      ∃ others, parse "1x1x10\n\n4x2x3" = .ok others ∧
        (solver.solveChecked others 1).answer = .ok "101" ∧
        (solver.solveChecked others 2).answer = .ok "48" := by
  obtain ⟨each, sums, lines⟩ := measures_summed_in_any_order
  have order : [4, 2, 3].Perm [2, 3, 4] := by decide
  have same : Present.ofSides 4 2 3 = Present.ofSides 2 3 4 := (each 2 3 4).1 4 2 3 order
  have read : parse "4x2x3\n1x1x10\n" = .ok [.ofSides 2 3 4, .ofSides 1 1 10] := by decide
  have perm : (Text.contents ("1x1x10\n\n4x2x3".toList.splitOn '\n')).Perm
      (Text.contents ("4x2x3\n1x1x10\n".toList.splitOn '\n')) := by decide
  obtain ⟨others, read', answers⟩ := lines _ _ _ read perm
  obtain ⟨paper, ribbon, _⟩ := sums [(2, 3, 4), (1, 1, 10)]
  exact ⟨order, same, read, perm, others, read', (answers 1).trans paper,
    (answers 2).trans ribbon⟩

/-- The longest sides leave room in both measures. -/
example : (Present.ofSides longestSide longestSide longestSide).paper = 129127208455837319175 := by
  decide

end Advent.Presents
