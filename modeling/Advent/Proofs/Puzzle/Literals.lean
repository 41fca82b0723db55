import Advent.Proofs.Solver.Faults
import Advent.Proofs.Text.Reading
import Advent.Puzzle.Literals
import Mathlib.Algebra.BigOperators.Ring.List
import Mathlib.Algebra.Ring.Nat

/-!
# Lengths of literals

Each character in memory takes at least one byte of the body, and the body is two bytes shorter
than the literal, so what a literal is longer than in memory is never less than two. Encoded, a
literal is at most three times as long. The literals together are no longer than the text, so
neither sum leaves the word of 64 bits if the text is short enough.
-/
namespace Advent.Literals

theorem countFrom_le (body : List UInt8) (index count : Nat) :
    ∃ characters, countFrom body index count = .ok characters ∧
      characters ≤ count + (body.length - index) := by
  fun_induction countFrom body index count with
  | case1 index count inside rest found ih =>
    obtain ⟨characters, counted, within⟩ := ih
    -- One more character is counted for at least one byte that is passed.
    have taken := characterLength_pos rest
    exact ⟨characters, counted, by omega⟩
  | case2 index count inside fault found =>
    -- The index is in the body, so the slice cannot be refused.
    rw [Text.sliceFrom_of_le (Nat.le_of_lt inside)] at found
    cases found
  | case3 index count outside => exact ⟨count, rfl, Nat.le_add_right _ _⟩

/-- A text that has room for the two quotes. -/
def Quoted (literal : List UInt8) : Prop :=
  2 ≤ literal.length

variable {literal : List UInt8}

theorem Quoted.lengthInMemory_le (quoted : Quoted literal) :
    ∃ characters, lengthInMemory literal = .ok characters ∧ characters + 2 ≤ literal.length := by
  have room : 2 ≤ literal.length := quoted
  have body : Text.slice 1 (literal.length - 1) literal =
      .ok ((literal.drop 1).take (literal.length - 1 - 1)) :=
    Text.slice_of_le (by omega) (Nat.sub_le _ 1)
  obtain ⟨characters, counted, within⟩ :=
    countFrom_le ((literal.drop 1).take (literal.length - 1 - 1)) 0 0
  rw [List.length_take, List.length_drop] at within
  refine ⟨characters, ?_, by omega⟩
  rw [lengthInMemory, body]
  exact counted

theorem Quoted.overhead_le (quoted : Quoted literal) :
    ∃ difference, overhead literal = .ok difference ∧ difference ≤ literal.length := by
  obtain ⟨characters, counted, within⟩ := quoted.lengthInMemory_le
  refine ⟨literal.length - characters, ?_, Nat.sub_le _ _⟩
  rw [overhead, counted]
  exact Word.difference_of_le (by omega)

theorem Quoted.encodedLength_le (quoted : Quoted literal) :
    encodedLength literal ≤ 3 * literal.length := by
  have room : 2 ≤ literal.length := quoted
  have escapes := List.countP_le_length (p := needsEscape) (l := literal)
  unfold encodedLength
  omega

theorem Quoted.growth_le (quoted : Quoted literal) (short : 3 * literal.length < Word.size 64) :
    ∃ difference, growth literal = .ok difference ∧ difference ≤ 3 * literal.length := by
  have encoded := quoted.encodedLength_le
  have longer : literal.length ≤ encodedLength literal := by
    unfold encodedLength
    omega
  refine ⟨encodedLength literal - literal.length, ?_, by omega⟩
  rw [growth, Word.unsigned64?_of_lt (by omega)]
  exact Word.difference_of_le longer

/-- Measures that are at most three times the lengths have a sum if three times the lengths fit. -/
theorem total_of_short {measure : List UInt8 → Except Fault Nat} {literals : List (List UInt8)}
    (measured : ∀ literal ∈ literals, 3 * literal.length < Word.size 64 →
      ∃ value, measure literal = .ok value ∧ value ≤ 3 * literal.length)
    (short : 3 * (literals.map List.length).sum < Word.size 64) :
    ∃ sum, total measure literals = .ok sum ∧ sum ≤ 3 * (literals.map List.length).sum := by
  -- Each literal costs three times its length, and the sum never exceeds what was spent.
  rw [← List.sum_map_mul_left, ← Nat.zero_add (List.sum _)] at short ⊢
  refine foldlM_of_budget (fun spent sum => sum ≤ spent)
    (fun literal : List UInt8 => 3 * literal.length) ?_ (Nat.le_refl 0) (Nat.le_sub_one_of_lt short)
  intro spent sum literal member within covered
  obtain ⟨value, found, bounded⟩ := measured literal member (by omega)
  refine ⟨sum + value, ?_, by omega⟩
  rw [found]
  exact congrArg Word.orFault (Word.unsigned64?_of_lt (by omega))

theorem answer_of_quoted {literals : List (List UInt8)}
    (quoted : ∀ literal ∈ literals, Quoted literal)
    (short : 3 * (literals.map List.length).sum < Word.size 64) (part : Nat) :
    ∃ text, answer literals part = .ok text := by
  have measured : ∀ literal ∈ literals, 3 * literal.length < Word.size 64 →
      ∃ value, (if part = 1 then overhead else growth) literal = .ok value ∧
        value ≤ 3 * literal.length := by
    intro literal member small
    split
    · obtain ⟨value, found, within⟩ := (quoted literal member).overhead_le
      exact ⟨value, found, by omega⟩
    · exact (quoted literal member).growth_le small
  obtain ⟨sum, added, _⟩ := total_of_short measured short
  refine ⟨toString sum, ?_⟩
  rw [answer, added]
  rfl

theorem of_readLiteral {line : List Char} {literal : List UInt8}
    (read : readLiteral line = .ok literal) : literal = Text.bytes line ∧ Quoted literal := by
  simp only [readLiteral] at read
  split at read
  next quotes =>
    cases read
    exact ⟨rfl, quotes.1⟩
  · cases read

theorem quoted_of_parse {input : String} {literals : List (List UInt8)}
    (read : parse input = .ok literals) : ∀ literal ∈ literals, Quoted literal :=
  Text.forall_of_readLines (fun _ _ found => (of_readLiteral found).2)
    (Text.of_mapError_eq_ok read)

theorem sum_length_le_of_parse {input : String} {literals : List (List UInt8)}
    (read : parse input = .ok literals) :
    (literals.map List.length).sum ≤ input.utf8ByteSize := by
  have pairs := Text.forall₂_of_readLines (Text.of_mapError_eq_ok read)
  have lengths : (Text.contentLines input.toList).map (fun line => Text.byteLength line.2) =
      literals.map List.length := by
    rw [← List.forall₂_eq_eq_eq, List.forall₂_map_left_iff, List.forall₂_map_right_iff]
    exact pairs.imp fun line literal found => congrArg List.length (of_readLiteral found).1.symm
  rw [← lengths, ← Text.byteLength_toList]
  exact Text.sum_byteLength_contentLines_le input.toList

section Input

variable {input : String} (short : input.utf8ByteSize < Word.size 31)

include short

theorem answer_of_parse {literals : List (List UInt8)} (read : parse input = .ok literals)
    (part : Nat) : ∃ text, answer literals part = .ok text := by
  have total_le := sum_length_le_of_parse read
  have room : 3 * Word.size 31 < Word.size 64 := by decide
  exact answer_of_quoted (quoted_of_parse read) (by omega) part

theorem solver_completesOn : solver.CompletesOn input :=
  Dispatch.completesOn_of_answers (fun _ _ => rfl) fun _ read => answer_of_parse short read

theorem solver_answersOn : solver.AnswersOn input :=
  Dispatch.answersOn_of_stateless (fun _ _ => rfl) fun _ read => answer_of_parse short read

end Input

end Advent.Literals
