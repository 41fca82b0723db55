import Advent.Proofs.Puzzle.Instructions
import Advent.Proofs.Puzzle.Lights

/-!
# Instructions from any corners

An instruction is read from a text if and only if the text is an action and two corners in writing,
and any other text is an error. The rectangle that is read is never empty and lies in the grid. It
does not matter which two opposite corners are named, nor in which order: when columns or rows change
places, the same instruction is read.
-/
namespace Advent.Lights

/-! ### Writing -/

/-- The digits of a number in the grid. -/
structure WritesCoordinate (digits : List Char) (value : Nat) : Prop where
  decimal : Text.IsDecimal digits value
  inside : value < gridSize

/-- The text with an action and two corners. -/
def Action.written (action : Action) (column row column' row' : List Char) : List Char :=
  action.text ++ (column ++ ',' :: row) ++ " through ".toList ++ (column' ++ ',' :: row')

/-- The text is an action and the corners at `x`, `y` and at `x'`, `y'` in writing. -/
def WritesCorners (text : List Char) (action : Action) (x y x' y' : Nat) : Prop :=
  ∃ column row column' row', text = action.written column row column' row' ∧
    (WritesCoordinate column x ∧ WritesCoordinate row y) ∧
      WritesCoordinate column' x' ∧ WritesCoordinate row' y'

theorem writesCorner_iff {text : List Char} {x y : Nat} :
    WritesCorner text x y ↔
      ∃ column row, text = column ++ ',' :: row ∧
        WritesCoordinate column x ∧ WritesCoordinate row y := by
  constructor
  · rintro ⟨column, row, written, decimal, decimal', inside, inside'⟩
    exact ⟨column, row, written, ⟨decimal, inside⟩, decimal', inside'⟩
  · rintro ⟨column, row, written, left, top⟩
    exact ⟨column, row, written, left.decimal, top.decimal, left.inside, top.inside⟩

theorem writesInstruction_iff {text : List Char} {instruction : Instruction} :
    WritesInstruction text instruction ↔
      ∃ x y x' y', WritesCorners text instruction.action x y x' y' ∧
        instruction.area = .between x y x' y' := by
  constructor
  · rintro ⟨_, _, x, y, x', y', written, first, second, area⟩
    obtain ⟨column, row, rfl, corner⟩ := writesCorner_iff.mp first
    obtain ⟨column', row', rfl, corner'⟩ := writesCorner_iff.mp second
    exact ⟨x, y, x', y', ⟨column, row, column', row', written, corner, corner'⟩, area⟩
  · rintro ⟨x, y, x', y', ⟨column, row, column', row', written, corner, corner'⟩, area⟩
    have first := writesCorner_iff.mpr ⟨column, row, rfl, corner⟩
    have second := writesCorner_iff.mpr ⟨column', row', rfl, corner'⟩
    exact ⟨_, _, x, y, x', y', written, first, second, area⟩

theorem readInstruction_of_written {action : Action} {column row column' row' : List Char}
    {x y x' y' : Nat} (left : WritesCoordinate column x) (top : WritesCoordinate row y)
    (right : WritesCoordinate column' x') (bottom : WritesCoordinate row' y') :
    readInstruction (action.written column row column' row') =
      .ok ⟨action, .between x y x' y'⟩ := by
  apply (readInstruction_eq_ok_iff _ _).mpr
  apply writesInstruction_iff.mpr
  exact ⟨x, y, x', y', ⟨column, row, column', row', rfl, ⟨left, top⟩, right, bottom⟩, rfl⟩

theorem exists_error_iff (text : List Char) :
    (∃ error, readInstruction text = .error error) ↔
      ∀ action x y x' y', ¬ WritesCorners text action x y x' y' := by
  constructor
  · rintro ⟨error, refused⟩ action x y x' y' ⟨column, row, column', row', rfl, ⟨left, top⟩, right,
      bottom⟩
    rw [readInstruction_of_written left top right bottom] at refused
    cases refused
  · intro unwritten
    -- What is not refused is read, and then it is written in the text.
    cases read : readInstruction text with
    | error error => exact ⟨error, rfl⟩
    | ok instruction =>
      have writes := (readInstruction_eq_ok_iff text instruction).mp read
      obtain ⟨x, y, x', y', corners, _⟩ := writesInstruction_iff.mp writes
      exact absurd corners (unwritten instruction.action x y x' y')

/-! ### Corners that change places -/

namespace Rectangle

theorem between_swap_columns (x y x' y' : Nat) : between x' y x y' = between x y x' y' := by
  simp only [between, Nat.min_comm x' x, Nat.max_comm x' x]

theorem between_swap_rows (x y x' y' : Nat) : between x y' x' y = between x y x' y' := by
  simp only [between, Nat.min_comm y' y, Nat.max_comm y' y]

end Rectangle

/-- A text is read as an instruction if and only if it is an action and two corners in writing, and
otherwise it is an error. What is read is a rectangle of the grid with at least one light, and when
the columns or the rows of its corners change places, the same instruction is read. -/
theorem instructions_read_from_any_corners :
    (∀ text instruction, readInstruction text = .ok instruction ↔
      ∃ x y x' y', WritesCorners text instruction.action x y x' y' ∧
        instruction.area = .between x y x' y') ∧
    (∀ text, (∃ error, readInstruction text = .error error) ↔
      ∀ action x y x' y', ¬ WritesCorners text action x y x' y') ∧
    (∀ text instruction, readInstruction text = .ok instruction →
      (instruction.area.left ≤ instruction.area.right ∧ instruction.area.right < 1000) ∧
        instruction.area.top ≤ instruction.area.bottom ∧ instruction.area.bottom < 1000) ∧
    ∀ (action : Action) column row column' row' x y x' y',
      WritesCoordinate column x → WritesCoordinate row y → WritesCoordinate column' x' →
      WritesCoordinate row' y' →
      ∃ instruction,
        readInstruction (action.written column row column' row') = .ok instruction ∧
        readInstruction (action.written column' row column row') = .ok instruction ∧
        readInstruction (action.written column row' column' row) = .ok instruction ∧
        readInstruction (action.written column' row' column row) = .ok instruction ∧
        ∀ a b, instruction.area.Covers a b ↔
          (min x x' ≤ a ∧ a ≤ max x x') ∧ min y y' ≤ b ∧ b ≤ max y y' := by
  refine ⟨?_, exists_error_iff, ?_, ?_⟩
  · intro text instruction
    exact (readInstruction_eq_ok_iff text instruction).trans writesInstruction_iff
  · intro text instruction read
    have inGrid := inGrid_of_readInstruction read
    exact ⟨⟨inGrid.left_le, inGrid.right_lt⟩, inGrid.top_le, inGrid.bottom_lt⟩
  · intro action column row column' row' x y x' y' left top right bottom
    refine ⟨⟨action, .between x y x' y'⟩, readInstruction_of_written left top right bottom,
      ?_, ?_, ?_, fun a b => Iff.rfl⟩
    · rw [readInstruction_of_written right top left bottom, Rectangle.between_swap_columns]
    · rw [readInstruction_of_written left bottom right top, Rectangle.between_swap_rows]
    · rw [readInstruction_of_written right bottom left top, Rectangle.between_swap_columns,
        Rectangle.between_swap_rows]

/-- Leading zeroes do not count, and the corners may be the other two of the rectangle. -/
theorem toggle_read_from_any_corners :
    WritesCoordinate "0005".toList 5 ∧ WritesCoordinate "9".toList 9 ∧
      WritesCoordinate "2".toList 2 ∧ WritesCoordinate "3".toList 3 ∧
      ∃ instruction, readInstruction "toggle 0005,9 through 2,3".toList = .ok instruction ∧
        readInstruction "toggle 2,9 through 0005,3".toList = .ok instruction ∧
        readInstruction "toggle 0005,3 through 2,9".toList = .ok instruction ∧
        instruction.area.left ≤ instruction.area.right ∧ instruction.area.Covers 4 8 := by
  have left : WritesCoordinate "0005".toList 5 := ⟨⟨by decide, by simp, by decide⟩, by decide⟩
  have top : WritesCoordinate "9".toList 9 := ⟨⟨by decide, by simp, by decide⟩, by decide⟩
  have right : WritesCoordinate "2".toList 2 := ⟨⟨by decide, by simp, by decide⟩, by decide⟩
  have bottom : WritesCoordinate "3".toList 3 := ⟨⟨by decide, by simp, by decide⟩, by decide⟩
  obtain ⟨_, _, valid, anyCorners⟩ := instructions_read_from_any_corners
  obtain ⟨instruction, read, columns, rows, _, covers⟩ :=
    anyCorners .toggle _ _ _ _ 5 9 2 3 left top right bottom
  exact ⟨left, top, right, bottom, instruction, read, columns, rows, (valid _ _ read).1.1,
    (covers 4 8).mpr (by decide)⟩

/-- A digit of another script is a digit to the reader, but not one of a number. -/
example : readInstruction "toggle \u0665,9 through 2,3".toList =
    .error (.badCoordinate ['\u0665'] .invalidDigit) := by
  decide

end Advent.Lights
