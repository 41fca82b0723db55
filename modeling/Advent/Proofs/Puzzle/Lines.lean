import Advent.Proofs.Text.BadLines
import Advent.Proofs.Text.Numerals
import Advent.Puzzle.Literals
import Advent.Puzzle.NiceStrings
import Advent.Puzzle.Presents

/-!
# Lines of presents, words and literals

A line of presents is three positive sides with `x` between them, a line of strings is made of lower
case letters, and a literal is a text between double quotes. The readers take these lines and no
others.
-/
namespace Advent

/-! ### Presents -/

namespace Presents

/-- A side in decimal, after a plus sign or none, with blanks around it or none. -/
def WritesSide (piece : List Char) (side : Nat) : Prop :=
  ∃ digits, (Text.trim piece = digits ∨ Text.trim piece = '+' :: digits) ∧
    Text.IsDecimal digits side ∧ side ≤ longestSide

theorem readSide_eq_ok_iff (piece : List Char) (side : Nat) :
    readSide piece = .ok side ↔ WritesSide piece side := by
  refine Iff.trans ?_ Text.readNat_eq_ok_iff
  constructor
  · exact Text.of_mapError_eq_ok
  · intro read
    rw [readSide, read]
    rfl

/-- Three positive sides with `x` between them. -/
def WritesPresent (text : List Char) (present : Present) : Prop :=
  ∃ first second third length width height, text.splitOn 'x' = [first, second, third] ∧
    WritesSide first length ∧ WritesSide second width ∧ WritesSide third height ∧
      0 < length ∧ 0 < width ∧ 0 < height ∧ present = .ofSides length width height

theorem readPresent_eq_ok_iff (text : List Char) (present : Present) :
    readPresent text = .ok present ↔ WritesPresent text present := by
  constructor
  · intro read
    unfold readPresent at read
    cases found : (text.splitOn 'x').mapM readSide with
    | error cause => simp [found, bind, Except.bind] at read
    | ok sides =>
      have pairs := (Text.forall₂_of_mapM found).imp fun piece side => (readSide_eq_ok_iff ..).mp
      simp only [found, bind, Except.bind] at read
      split at read
      next length width height =>
        split at read
        · cases read
        next positive =>
          obtain ⟨first, _, writes, more, split⟩ := List.forall₂_cons_right_iff.mp pairs
          obtain ⟨second, _, writes', last, rfl⟩ := List.forall₂_cons_right_iff.mp more
          obtain ⟨third, _, writes'', none, rfl⟩ := List.forall₂_cons_right_iff.mp last
          obtain rfl := List.forall₂_nil_right_iff.mp none
          refine ⟨first, second, third, length, width, height, split, writes, writes', writes'',
            ?_, ?_, ?_, (Except.ok.inj read).symm⟩ <;> omega
      · cases read
  · rintro ⟨first, second, third, length, width, height, split, writes, writes', writes'', long,
      wide, high, rfl⟩
    have positive : ¬ (length = 0 ∨ width = 0 ∨ height = 0) := by omega
    unfold readPresent
    rw [split]
    simp only [List.mapM_cons, List.mapM_nil, (readSide_eq_ok_iff ..).mpr writes,
      (readSide_eq_ok_iff ..).mpr writes', (readSide_eq_ok_iff ..).mpr writes'', bind, Except.bind,
      pure, Except.pure, if_neg positive]

theorem parse_readsEachLine : Text.ReadsEachLine parse WritesPresent :=
  Text.readsEachLine_of_reads readPresent_eq_ok_iff fun _ => rfl

end Presents

/-! ### Words -/

namespace NiceStrings

/-- Lower case letters, known by their bytes. -/
def WritesWord (line : List Char) (word : List UInt8) : Prop :=
  (∀ c ∈ line, 'a' ≤ c ∧ c ≤ 'z') ∧ word = Text.bytes line

theorem readWord_eq_ok_iff (line : List Char) (word : List UInt8) :
    readWord line = .ok word ↔ WritesWord line word := by
  have letters : line.all Char.isLower = true ↔ ∀ c ∈ line, 'a' ≤ c ∧ c ≤ 'z' := by
    simp only [List.all_eq_true, Text.isLower_iff]
  unfold readWord WritesWord
  rw [← letters]
  by_cases lower : line.all Char.isLower = true
  · simp [lower, eq_comm]
  · simp [lower]

theorem parse_readsEachLine : Text.ReadsEachLine parse WritesWord :=
  Text.readsEachLine_of_reads readWord_eq_ok_iff fun _ => rfl

end NiceStrings

/-! ### Literals -/

namespace Literals

/-- A text between double quotes, known by its bytes. -/
def WritesLiteral (line : List Char) (literal : List UInt8) : Prop :=
  ∃ body, line = '"' :: (body ++ ['"']) ∧ literal = Text.bytes line

theorem readLiteral_eq_ok_iff (line : List Char) (literal : List UInt8) :
    readLiteral line = .ok literal ↔ WritesLiteral line literal := by
  have quoted : (2 ≤ (Text.bytes line).length ∧ line.head? = some '"' ∧
      line.getLast? = some '"') ↔ ∃ body, line = '"' :: (body ++ ['"']) := by
    constructor
    · rintro ⟨long, first, last⟩
      obtain ⟨rest, rfl⟩ := List.head?_eq_some_iff.mp first
      rcases List.eq_nil_or_concat rest with rfl | ⟨body, final, rfl⟩
      · -- One quote is not both the first and the last of two bytes.
        exact absurd long (by decide)
      · simp only [List.concat_eq_append, ← List.cons_append, List.getLast?_concat,
          Option.some.injEq] at last
        exact ⟨body, by rw [last, List.concat_eq_append]⟩
    · rintro ⟨body, rfl⟩
      have size : (Text.bytes ('"' :: (body ++ ['"']))).length =
          1 + ((Text.bytes body).length + 1) := by
        change Text.byteLength _ = _
        rw [Text.byteLength_cons, Text.byteLength_append]
        rfl
      exact ⟨by omega, rfl, by rw [← List.cons_append, List.getLast?_concat]⟩
  constructor
  · intro read
    simp only [readLiteral] at read
    split at read
    next quotes =>
      obtain ⟨body, same⟩ := quoted.mp quotes
      exact ⟨body, same, (Except.ok.inj read).symm⟩
    · cases read
  · rintro ⟨body, same, rfl⟩
    exact if_pos (quoted.mpr ⟨body, same⟩)

theorem parse_readsEachLine : Text.ReadsEachLine parse WritesLiteral :=
  Text.readsEachLine_of_reads readLiteral_eq_ok_iff fun _ => rfl

end Literals

end Advent
