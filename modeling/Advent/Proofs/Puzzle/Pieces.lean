import Advent.Proofs.Puzzle.Encoding
import Advent.Proofs.Puzzle.Lines
import Mathlib.Algebra.Group.Action.Defs
import Mathlib.Algebra.Order.BigOperators.Group.List
import Mathlib.Algebra.Order.Ring.Nat

/-!
# Pieces of literals

A body put together from escapes and from bytes other than the backslash has one character in memory
for each piece: no escape reaches into the next piece, and no two pieces read as one. A literal with
any other backslashes still has at least two bytes more than characters, and its two quotes are
escaped when it is encoded. So a line adds at least two to the first sum and at least four to the
second. The parts answer these sums, as long as the bytes that are counted do not fill the word of
64 bits.
-/
namespace Advent.Literals

/-! ### Pieces -/

/-- The hexadecimal digits in either case. -/
def hexDigits : List UInt8 :=
  Text.bytes "0123456789abcdefABCDEF".toList

/-- A byte that stands for itself, or an escape. -/
inductive Piece
  | plain (byte : UInt8) (not_backslash : byte ≠ 0x5c)
  | backslash
  | quote
  | code (high low : UInt8) (high_mem : high ∈ hexDigits) (low_mem : low ∈ hexDigits)

/-- A piece as it stands in a body. -/
def Piece.bytes : Piece → List UInt8
  | .plain byte _ => [byte]
  | .backslash => [0x5c, 0x5c]
  | .quote => [0x5c, 0x22]
  | .code high low _ _ => [0x5c, 0x78, high, low]

theorem isHexDigit_of_mem {byte : UInt8} (member : byte ∈ hexDigits) : isHexDigit byte = true := by
  have all : ∀ digit ∈ hexDigits, isHexDigit digit = true := by decide +kernel
  exact all byte member

/-- A piece is one character, also before a quote, another escape or hexadecimal digits. -/
theorem Piece.characterLength_bytes (piece : Piece) (rest : List UInt8) :
    characterLength (piece.bytes ++ rest) = piece.bytes.length := by
  cases piece with
  | plain byte not_backslash =>
    simp only [bytes, List.singleton_append, List.length_singleton]
    -- Only a backslash begins a character of more than one byte.
    unfold characterLength
    split <;> simp_all
  | backslash => rfl
  | quote => rfl
  | code high low high_mem low_mem =>
    change (if isHexDigit high && isHexDigit low then 4 else 1) = 4
    rw [isHexDigit_of_mem high_mem, isHexDigit_of_mem low_mem]
    rfl

theorem lengthInMemory_pieces (pieces : List Piece) :
    lengthInMemory (0x22 :: (pieces.flatMap Piece.bytes ++ [0x22])) = .ok pieces.length := by
  have counted := countFrom_flatMap Piece.characterLength_bytes [] pieces 0
  rw [List.nil_append, Nat.zero_add] at counted
  rw [lengthInMemory_quoted]
  exact counted

/-! ### What a literal adds to the sums -/

variable {literal : List UInt8}

/-- What a literal has more than characters in memory. -/
def saved (literal : List UInt8) : Nat :=
  literal.length - (memoryLength literal).getD 0

/-- What a literal grows by. -/
def grown (literal : List UInt8) : Nat :=
  encodedLength literal - literal.length

theorem Quoted.overhead_eq (quoted : Quoted literal) :
    overhead literal = .ok (saved literal) ∧
      2 ≤ saved literal ∧ saved literal ≤ literal.length := by
  obtain ⟨characters, counted, within⟩ := quoted.lengthInMemory_le
  have exact_saved : saved literal = literal.length - characters := by
    rw [saved, memoryLength, counted]
    rfl
  refine ⟨?_, by omega, by omega⟩
  rw [overhead, counted, exact_saved]
  exact Word.difference_of_le (by omega)

/-- A literal has its own two quotes to escape. -/
theorem four_le_grown {line : List Char} (written : WritesLiteral line literal) :
    4 ≤ grown literal := by
  obtain ⟨body, rfl, rfl⟩ := written
  have quotes : Text.bytes ('"' :: (body ++ ['"'])) = 0x22 :: (Text.bytes body ++ [0x22]) := by
    rw [← List.singleton_append, Text.bytes_append, Text.bytes_append]
    rfl
  have escaped : needsEscape 0x22 = true := by decide
  rw [quotes, grown, encodedLength, List.countP_cons, List.countP_append, List.countP_singleton,
    escaped]
  simp only [if_true]
  omega

/-! ### The sums -/

/-- The sum of measures is exact, unless the sizes that bound them fill the word of 64 bits; then it
may be a fault. -/
theorem total_cases {measure : List UInt8 → Except Fault Nat} {value size : List UInt8 → Nat}
    {literals : List (List UInt8)}
    (measured : ∀ literal ∈ literals,
      measure literal = .ok (value literal) ∧ value literal ≤ size literal ∨
        Word.size 64 ≤ size literal ∧ measure literal = .error .overflow) :
    total measure literals = .ok (literals.map value).sum ∨
      Word.size 64 ≤ (literals.map size).sum ∧ total measure literals = .error .overflow := by
  unfold total
  rw [← Nat.zero_add (literals.map value).sum, ← Nat.zero_add (literals.map size).sum]
  generalize 0 = sum
  induction literals generalizing sum with
  | nil => exact Or.inl rfl
  | cons literal rest ih =>
    obtain ⟨first, others⟩ := List.forall_mem_cons.mp measured
    rw [List.foldlM_cons, List.map_cons, List.sum_cons, List.map_cons, List.sum_cons,
      ← Nat.add_assoc]
    rcases first with ⟨found, within⟩ | ⟨large, refused⟩
    · simp only [found, bind, Except.bind]
      by_cases next : sum + value literal < Word.size 64
      · rw [Word.unsigned64?_of_lt next]
        refine (ih others (sum + value literal)).imp_right fun ⟨large, failed⟩ => ⟨?_, failed⟩
        omega
      · rw [Word.unsigned64?, if_neg next]
        exact Or.inr ⟨by omega, rfl⟩
    · simp only [refused, bind, Except.bind]
      exact Or.inr ⟨by omega, trivial⟩

theorem answer_cases {part : Nat} {value size : List UInt8 → Nat} {literals : List (List UInt8)}
    (measured : ∀ literal ∈ literals,
      (if part = 1 then overhead else growth) literal = .ok (value literal) ∧
          value literal ≤ size literal ∨
        Word.size 64 ≤ size literal ∧
          (if part = 1 then overhead else growth) literal = .error .overflow) :
    answer literals part = .ok (toString (literals.map value).sum) ∨
      Word.size 64 ≤ (literals.map size).sum ∧
        answer literals part = .error (.fault .overflow) := by
  unfold answer
  rcases total_cases measured with added | ⟨large, failed⟩
  · exact Or.inl (by rw [added]; rfl)
  · exact Or.inr ⟨large, by rw [failed]; rfl⟩

theorem growth_cases (literal : List UInt8) :
    growth literal = .ok (grown literal) ∧ grown literal ≤ encodedLength literal ∨
      Word.size 64 ≤ encodedLength literal ∧ growth literal = .error .overflow := by
  unfold growth grown
  by_cases short : encodedLength literal < Word.size 64
  · rw [Word.unsigned64?_of_lt short]
    refine Or.inl ⟨Word.difference_of_le ?_, Nat.sub_le _ _⟩
    unfold encodedLength
    omega
  · rw [Word.unsigned64?, if_neg short]
    exact Or.inr ⟨Nat.le_of_not_lt short, rfl⟩

theorem length_mul_le_sum {items : List (List UInt8)} {value : List UInt8 → Nat} {least : Nat}
    (above : ∀ item ∈ items, least ≤ value item) :
    least * items.length ≤ (items.map value).sum := by
  have bounded := List.card_nsmul_le_sum (items.map value) least (by simpa using above)
  rwa [List.length_map, smul_eq_mul, Nat.mul_comm] at bounded

/-! ### Lines -/

/-- The literals are the lines that are not blank. -/
theorem forall₂_of_parse {input : String} {literals : List (List UInt8)}
    (read : parse input = .ok literals) :
    List.Forall₂ WritesLiteral (Text.contents (input.toList.splitOn '\n')) literals :=
  (parse_readsEachLine.values_iff input literals).mp read

/-- A body has one character for each piece. Every accepted line has at least two bytes more than
characters, and the lines add at least two each to the first sum and at least four each to the
second. A part answers its sum, unless the bytes of the literals, for the second part of the encoded
ones, fill the word of 64 bits and the sum leaves it. -/
theorem pieces_and_lines_measured :
    (∀ pieces : List Piece,
      lengthInMemory (0x22 :: (pieces.flatMap Piece.bytes ++ [0x22])) = .ok pieces.length) ∧
    ∀ input literals, parse input = .ok literals →
      let lines := Text.contents (input.toList.splitOn '\n')
      lines.map Text.bytes = literals ∧
      (∀ literal ∈ literals, ∃ characters,
        lengthInMemory literal = .ok characters ∧ characters + 2 ≤ literal.length) ∧
      2 * lines.length ≤ (literals.map saved).sum ∧
      4 * lines.length ≤ (literals.map grown).sum ∧
      ((solver.solveChecked literals 1).answer = .ok (toString (literals.map saved).sum) ∨
        Word.size 64 ≤ (literals.map List.length).sum ∧
          (solver.solveChecked literals 1).answer = .error (.fault .overflow)) ∧
      ((solver.solveChecked literals 2).answer = .ok (toString (literals.map grown).sum) ∨
        Word.size 64 ≤ (literals.map encodedLength).sum ∧
          (solver.solveChecked literals 2).answer = .error (.fault .overflow)) := by
  refine ⟨lengthInMemory_pieces, ?_⟩
  intro input literals read lines
  have pairs := forall₂_of_parse read
  have quoted := quoted_of_parse read
  have written := Text.exists_of_forall₂ pairs
  refine ⟨?_, fun literal member => (quoted literal member).lengthInMemory_le, ?_, ?_, ?_, ?_⟩
  · rw [← List.forall₂_eq_eq_eq, List.forall₂_map_left_iff]
    exact pairs.imp fun line literal ⟨_, _, same⟩ => same.symm
  · rw [pairs.length_eq]
    exact length_mul_le_sum fun literal member => (quoted literal member).overhead_eq.2.1
  · rw [pairs.length_eq]
    refine length_mul_le_sum fun literal member => ?_
    obtain ⟨line, _, writes⟩ := written literal member
    exact four_le_grown writes
  · refine answer_cases fun literal member => Or.inl ?_
    obtain ⟨measured, _, within⟩ := (quoted literal member).overhead_eq
    exact ⟨measured, within⟩
  · exact answer_cases fun literal _ => growth_cases literal

/-- A lone backslash before the closing quote and an escape that is not complete. -/
theorem two_malformed_lines_measured :
    ∃ literals, parse "\"a\\\"\n\"\\x2g\"\n" = .ok literals ∧
      2 * 2 ≤ (literals.map saved).sum ∧ 4 * 2 ≤ (literals.map grown).sum ∧
      (solver.solveChecked literals 1).answer = .ok (toString (literals.map saved).sum) ∧
      (solver.solveChecked literals 2).answer = .ok (toString (literals.map grown).sum) := by
  have read : parse "\"a\\\"\n\"\\x2g\"\n" =
      .ok [[0x22, 0x61, 0x5c, 0x22], [0x22, 0x5c, 0x78, 0x32, 0x67, 0x22]] := by decide
  obtain ⟨_, _, first, second, answered, answered'⟩ := pieces_and_lines_measured.2 _ _ read
  exact ⟨_, read, first, second, answered.resolve_right (by decide),
    answered'.resolve_right (by decide)⟩

end Advent.Literals
