import Advent.Proofs.Solver.Faults
import Advent.Proofs.Text.Reading
import Advent.Puzzle.Lights
import Mathlib.Algebra.Order.BigOperators.Group.List
import Mathlib.Algebra.Order.Ring.Nat

/-!
# What an instruction does to the lights

An instruction whose rectangle lies in the grid changes each light of the rectangle once and keeps
every other light, unless the change faults on a light in it. Rectangles that are read lie in the
grid. A light gets brighter by at most two with each instruction, so neither a light nor the total
leaves its word if the instructions are few enough.
-/
namespace Advent.Lights

variable {α : Type}

/-! ### Changes of an array -/

/-- Touched cells are changed once and the others kept. -/
structure Updates (change : α → Except Fault α) (Touched : Nat → Prop) (cells after : Array α) :
    Prop where
  size_eq : after.size = cells.size
  changed : ∀ {i : Nat} {value : α}, Touched i → cells[i]? = some value →
    ∃ next, change value = .ok next ∧ after[i]? = some next
  kept : ∀ {i : Nat}, ¬ Touched i → after[i]? = cells[i]?

/-- The change is defined on every touched cell. -/
def Accepts (change : α → Except Fault α) (Touched : Nat → Prop) (cells : Array α) : Prop :=
  ∀ i value, Touched i → cells[i]? = some value → ∃ next, change value = .ok next

namespace Updates

variable {change : α → Except Fault α} {Touched Early Late : Nat → Prop} {cells mid after : Array α}

theorem nothing (untouched : ∀ i, ¬ Touched i) : Updates change Touched cells cells where
  size_eq := rfl
  changed touched := absurd touched (untouched _)
  kept _ := rfl

theorem single {index : Nat} (inside : index < cells.size) {next : α}
    (changed : change cells[index] = .ok next) :
    Updates change (· = index) cells (cells.set index next) where
  size_eq := Array.size_set inside
  changed := by
    rintro i value rfl here
    obtain ⟨_, rfl⟩ := Array.getElem?_eq_some_iff.mp here
    exact ⟨next, changed, Array.getElem?_set_self inside⟩
  kept other := Array.getElem?_set_ne inside (Ne.symm other)

/-- Updates of cells that lie apart are one update. -/
theorem append (first : Updates change Early cells mid) (second : Updates change Late mid after)
    (apart : ∀ i, Early i → ¬ Late i) (either : ∀ i, Touched i ↔ Early i ∨ Late i) :
    Updates change Touched cells after where
  size_eq := second.size_eq.trans first.size_eq
  changed := by
    intro i value touched here
    -- An early cell is not touched again, and a late one was not touched before.
    rcases (either i).mp touched with early | late
    · obtain ⟨next, changed, there⟩ := first.changed early here
      exact ⟨next, changed, (second.kept (apart i early)).trans there⟩
    · have unmoved := first.kept fun early => apart i early late
      exact second.changed late (unmoved.trans here)
  kept := by
    intro i untouched
    have outside := not_or.mp fun touched => untouched ((either i).mpr touched)
    exact (second.kept outside.2).trans (first.kept outside.1)

/-- A cell afterwards comes from the cell at its place. -/
theorem origin (updates : Updates change Touched cells after) {i : Nat} {value : α}
    (here : after[i]? = some value) :
    ∃ before, cells[i]? = some before ∧ (change before = .ok value ∨ before = value) := by
  by_cases touched : Touched i
  · have inside : i < cells.size := updates.size_eq ▸ (Array.getElem?_eq_some_iff.mp here).1
    have found := Array.getElem?_eq_getElem inside
    obtain ⟨next, changed, there⟩ := updates.changed touched found
    obtain rfl := Option.some.inj (there.symm.trans here)
    exact ⟨_, found, Or.inl changed⟩
  · exact ⟨value, (updates.kept touched).symm.trans here, Or.inr rfl⟩

end Updates

/-- What changing the touched cells comes to: all of them are changed, or the change faults on one. -/
inductive Changes (change : α → Except Fault α) (Touched : Nat → Prop) (cells : Array α) :
    Except Fault (Array α) → Prop
  | done {after : Array α} (updates : Updates change Touched cells after) :
      Changes change Touched cells (.ok after)
  | refused {i : Nat} {value : α} {fault : Fault} (touched : Touched i)
      (here : cells[i]? = some value) (failed : change value = .error fault) :
      Changes change Touched cells (.error fault)

namespace Changes

variable {change : α → Except Fault α} {Touched Early Late : Nat → Prop} {cells mid : Array α}
  {outcome : Except Fault (Array α)}

/-- A cell on which the change faults later is as it was at the start. -/
theorem after (first : Updates change Early cells mid) (later : Changes change Late mid outcome)
    (apart : ∀ i, Early i → ¬ Late i) (either : ∀ i, Touched i ↔ Early i ∨ Late i) :
    Changes change Touched cells outcome := by
  cases later with
  | done second => exact .done (first.append second apart either)
  | refused late here failed =>
    have unmoved := first.kept fun early => apart _ early late
    exact .refused ((either _).mpr (Or.inr late)) (unmoved.symm.trans here) failed

theorem congr {Touched' : Nat → Prop} (changes : Changes change Touched cells outcome)
    (same : ∀ i, Touched i ↔ Touched' i) : Changes change Touched' cells outcome := by
  rwa [← funext fun i => propext (same i)]

end Changes

/-! ### The cells of a rectangle -/

namespace Rectangle

/-- A light is in the rectangle. -/
def Covers (area : Rectangle) (x y : Nat) : Prop :=
  (area.left ≤ x ∧ x ≤ area.right) ∧ area.top ≤ y ∧ y ≤ area.bottom

structure InGrid (area : Rectangle) : Prop where
  left_le : area.left ≤ area.right
  right_lt : area.right < gridSize
  top_le : area.top ≤ area.bottom
  bottom_lt : area.bottom < gridSize

theorem inGrid_between {x y x' y' : Nat} (x_lt : x < gridSize) (y_lt : y < gridSize)
    (x_lt' : x' < gridSize) (y_lt' : y' < gridSize) : (between x y x' y').InGrid := by
  refine ⟨?_, ?_, ?_, ?_⟩ <;> simp only [between] <;> omega

end Rectangle

namespace Grid

variable {change : α → Except Fault α}

theorem updateRun_changes {cells : Array α} {index count : Nat}
    (inside : index + count ≤ cells.size) :
    Changes change (fun i => index ≤ i ∧ i < index + count) cells
      (updateRun change cells index count) := by
  induction count generalizing cells index with
  | zero => exact .done (.nothing fun i => by omega)
  | succ count ih =>
    have start : index < cells.size := by omega
    rw [updateRun, dif_pos start]
    cases changed : change cells[index] with
    | error fault =>
      exact .refused ⟨Nat.le_refl _, by omega⟩ (Array.getElem?_eq_getElem start) changed
    | ok next =>
      have first := Updates.single start changed
      exact .after first (ih (by rw [first.size_eq]; omega)) (fun i => by omega) fun i => by omega

/-- The cells of so many rows from a row on, between two columns. -/
def InRows (left right row count i : Nat) : Prop :=
  (left ≤ i % gridSize ∧ i % gridSize ≤ right) ∧ row ≤ i / gridSize ∧ i / gridSize < row + count

variable {left right : Nat} (ordered : left ≤ right) (within : right < gridSize)

include ordered within

theorem updateRow_changes {cells : Array α} {row : Nat}
    (size_eq : cells.size = gridSize * gridSize) (inside : row < gridSize) :
    Changes change (InRows left right row 1) cells (updateRow change cells row left right) := by
  have room : (row + 1) * gridSize ≤ cells.size :=
    Nat.le_trans (Nat.mul_le_mul_right gridSize inside) (Nat.le_of_eq size_eq.symm)
  -- A column lies within its row, so the run does not reach into the next one.
  have same (i : Nat) : row * gridSize + left ≤ i ∧ i < row * gridSize + left + (right + 1 - left) ↔
      InRows left right row 1 i := by
    simp only [InRows, gridSize] at within ⊢
    omega
  rw [updateRow, if_pos ⟨room, by omega, within⟩]
  exact (updateRun_changes (by rw [Nat.add_mul] at room; omega)).congr same

theorem updateRows_changes {cells : Array α} {row count : Nat}
    (size_eq : cells.size = gridSize * gridSize) (inside : row + count ≤ gridSize) :
    Changes change (InRows left right row count) cells
      (updateRows change left right cells row count) := by
  induction count generalizing cells row with
  | zero => exact .done (.nothing fun i touched => by unfold InRows at touched; omega)
  | succ count ih =>
    -- The first row and the rows after it lie apart.
    have either (i : Nat) : InRows left right row (count + 1) i ↔
        InRows left right row 1 i ∨ InRows left right (row + 1) count i := by
      simp only [InRows]
      omega
    have apart (i : Nat) : InRows left right row 1 i → ¬ InRows left right (row + 1) count i := by
      simp only [InRows]
      omega
    have start : Changes change (InRows left right row 1) cells
        (updateRow change cells row left right) :=
      updateRow_changes ordered within size_eq (by omega)
    rw [updateRows]
    cases changed : updateRow change cells row left right with
    | error fault =>
      rw [changed] at start
      cases start with
      | refused touched here failed => exact .refused ((either _).mpr (Or.inl touched)) here failed
    | ok mid =>
      rw [changed] at start
      cases start with
      | done first =>
        exact .after first (ih (first.size_eq.trans size_eq) (by omega)) apart either

omit ordered within

/-- The light at each place of the grid is changed if the rectangle covers it and kept if not, unless
the change faults on a covered light. -/
theorem apply_cases (change : α → Except Fault α) {grid : Grid α} {area : Rectangle}
    (inGrid : area.InGrid) (size_eq : grid.cells.size = gridSize * gridSize) :
    (∃ after, grid.apply change area = .ok after ∧
      Updates change (fun i => area.Covers (i % gridSize) (i / gridSize)) grid.cells after.cells) ∨
      ∃ i value fault, area.Covers (i % gridSize) (i / gridSize) ∧ grid.cells[i]? = some value ∧
        change value = .error fault ∧ grid.apply change area = .error fault := by
  obtain ⟨left_le, right_lt, top_le, bottom_lt⟩ := inGrid
  have same (i : Nat) : InRows area.left area.right area.top (area.bottom + 1 - area.top) i ↔
      area.Covers (i % gridSize) (i / gridSize) := by
    simp only [InRows, Rectangle.Covers]
    omega
  have changes : Changes change (fun i => area.Covers (i % gridSize) (i / gridSize)) grid.cells
      (updateRows change area.left area.right grid.cells area.top (area.bottom + 1 - area.top)) :=
    (updateRows_changes left_le right_lt size_eq (by omega)).congr same
  unfold apply
  cases run : updateRows change area.left area.right grid.cells area.top
      (area.bottom + 1 - area.top) with
  | ok cells =>
    rw [run] at changes
    cases changes with
    | done updates => exact Or.inl ⟨⟨cells⟩, rfl, updates⟩
  | error fault =>
    rw [run] at changes
    cases changes with
    | refused touched here failed => exact Or.inr ⟨_, _, fault, touched, here, failed, rfl⟩

theorem apply_updates {grid : Grid α} {area : Rectangle} (inGrid : area.InGrid)
    (size_eq : grid.cells.size = gridSize * gridSize)
    (accepts : Accepts change (fun i => area.Covers (i % gridSize) (i / gridSize)) grid.cells) :
    ∃ after, grid.apply change area = .ok after ∧
      Updates change (fun i => area.Covers (i % gridSize) (i / gridSize)) grid.cells
        after.cells := by
  rcases apply_cases change inGrid size_eq with done | ⟨i, value, fault, covered, here, failed, _⟩
  · exact done
  · obtain ⟨next, changed⟩ := accepts i value covered here
    cases failed.symm.trans changed

end Grid

/-! ### Instructions -/

theorem switch_eq (grid : Grid Bool) (instruction : Instruction) :
    switch grid instruction =
      grid.apply (fun lit => .ok (switchLight instruction.action lit)) instruction.area := by
  unfold switch
  cases instruction.action <;> rfl

theorem switch_of_inGrid {grid : Grid Bool} {instruction : Instruction}
    (inGrid : instruction.area.InGrid) (size_eq : grid.cells.size = gridSize * gridSize) :
    ∃ after, switch grid instruction = .ok after ∧
      after.cells.size = gridSize * gridSize := by
  rw [switch_eq]
  obtain ⟨after, run, updates⟩ := Grid.apply_updates inGrid size_eq
    fun _ lit _ _ => ⟨switchLight instruction.action lit, rfl⟩
  exact ⟨after, run, updates.size_eq.trans size_eq⟩

/-- A full grid whose lights are at most so bright. -/
structure Grid.Dimmed (brightest : Nat) (grid : Grid Nat) : Prop where
  size_eq : grid.cells.size = gridSize * gridSize
  le : ∀ {i brightness : Nat}, grid.cells[i]? = some brightness → brightness ≤ brightest

theorem dimLight_le {action : Action} {brightness brightest : Nat} (le : brightness ≤ brightest)
    (room : brightest + 2 < Word.size 32) :
    ∃ next, dimLight action brightness = .ok next ∧ next ≤ brightest + 2 := by
  have steps (count : Nat) (few : count ≤ 2) :
      brightened brightness count = .ok (brightness + count) := by
    rw [brightened, Word.unsigned32?_of_lt (by omega)]
  cases action with
  | turnOn => exact ⟨_, steps 1 (by decide), by omega⟩
  | turnOff => exact ⟨brightness - 1, rfl, by omega⟩
  | toggle => exact ⟨_, steps 2 (by decide), by omega⟩

theorem dim_of_dimmed {grid : Grid Nat} {instruction : Instruction} {brightest : Nat}
    (inGrid : instruction.area.InGrid) (dimmed : grid.Dimmed brightest)
    (room : brightest + 2 < Word.size 32) :
    ∃ after, dim grid instruction = .ok after ∧ after.Dimmed (brightest + 2) := by
  have accepts : Accepts (dimLight instruction.action)
      (fun i => instruction.area.Covers (i % gridSize) (i / gridSize)) grid.cells := by
    intro i brightness _ here
    obtain ⟨next, changed, _⟩ := dimLight_le (dimmed.le here) room
    exact ⟨next, changed⟩
  obtain ⟨after, run, updates⟩ := Grid.apply_updates inGrid dimmed.size_eq accepts
  refine ⟨after, run, updates.size_eq.trans dimmed.size_eq, fun here => ?_⟩
  -- A light comes from the one at its place, changed or not.
  obtain ⟨before, found, changed | rfl⟩ := updates.origin here
  · obtain ⟨next, again, le⟩ := dimLight_le (dimmed.le found) room
    obtain rfl := Except.ok.inj (again.symm.trans changed)
    exact le
  · exact Nat.le_trans (dimmed.le found) (Nat.le_add_right _ 2)

theorem totalBrightness_le {grid : Grid Nat} {brightest : Nat} (dimmed : grid.Dimmed brightest) :
    totalBrightness grid ≤ gridSize * gridSize * brightest := by
  have each : ∀ brightness ∈ grid.cells.toList, brightness ≤ brightest := by
    intro brightness member
    obtain ⟨i, here⟩ := List.mem_iff_getElem?.mp member
    exact dimmed.le (by simpa using here)
  calc totalBrightness grid
    _ = grid.cells.toList.sum := by rw [Array.sum_toList, Array.sum_eq_foldl_nat]; rfl
    _ ≤ grid.cells.toList.length • brightest := List.sum_le_card_nsmul _ _ each
    _ = gridSize * gridSize * brightest := by
      rw [Array.length_toList, dimmed.size_eq, Nat.nsmul_eq_mul]

/-- The total of dials that stay in their words does not leave its word. -/
theorem brightnessSum_of_dimmed {grid : Grid Nat} {brightest : Nat}
    (dimmed : grid.Dimmed brightest) (within : brightest ≤ Word.size 32) :
    brightnessSum grid = .ok (totalBrightness grid) := by
  have room : gridSize * gridSize * Word.size 32 < Word.size 64 := by decide
  have total : totalBrightness grid < Word.size 64 := by
    calc totalBrightness grid
      _ ≤ gridSize * gridSize * brightest := totalBrightness_le dimmed
      _ ≤ gridSize * gridSize * Word.size 32 := Nat.mul_le_mul_left _ within
      _ < Word.size 64 := room
  rw [brightnessSum, Word.unsigned64?_of_lt total]
  rfl

/-! ### Reading -/

theorem lt_of_readCoordinate {digits : List Char} {coordinate : Nat}
    (read : readCoordinate digits = .ok coordinate) : coordinate < gridSize := by
  unfold readCoordinate at read
  cases found : Text.readNat greatestNumeral digits with
  | error cause => simp [found, Except.mapError, bind, Except.bind] at read
  | ok value =>
    simp only [found, Except.mapError, bind, Except.bind] at read
    split at read
    next below =>
      cases read
      exact below
    · cases read

theorem inGrid_of_readInstruction {text : List Char} {instruction : Instruction}
    (read : readInstruction text = .ok instruction) : instruction.area.InGrid := by
  unfold readInstruction at read
  cases split : splitInstruction? text with
  | none => simp [split] at read
  | some parts =>
    cases found : parts.2.mapM readCoordinate with
    | error cause => simp [split, found, bind, Except.bind] at read
    | ok corners =>
      have within : ∀ coordinate ∈ corners, coordinate < gridSize :=
        Text.forall_of_mapM (fun _ _ => lt_of_readCoordinate) found
      simp only [split, found, bind, Except.bind] at read
      split at read
      -- The corners may come in any order, but all four coordinates were checked.
      next x y x' y' =>
        cases read
        exact Rectangle.inGrid_between (within _ (by simp)) (within _ (by simp))
          (within _ (by simp)) (within _ (by simp))
      · cases read

theorem inGrid_of_parse {input : String} {instructions : List Instruction}
    (read : parse input = .ok instructions) :
    ∀ instruction ∈ instructions, instruction.area.InGrid :=
  Text.forall_of_readLines (fun _ _ => inGrid_of_readInstruction) (Text.of_mapError_eq_ok read)

theorem length_le_of_parse {input : String} {instructions : List Instruction}
    (read : parse input = .ok instructions) : instructions.length ≤ input.utf8ByteSize := by
  rw [← (Text.forall₂_of_readLines (Text.of_mapError_eq_ok read)).length_eq,
    ← Text.byteLength_toList]
  exact Text.length_contentLines_le input.toList

/-! ### Answers -/

theorem switch_run {instructions : List Instruction}
    (inGrid : ∀ instruction ∈ instructions, instruction.area.InGrid) :
    ∃ grid, instructions.foldlM switch (Grid.new false) = .ok grid ∧
      grid.cells.size = gridSize * gridSize :=
  foldlM_of_steps (fun _ (grid : Grid Bool) => grid.cells.size = gridSize * gridSize)
    (fun _ _ instruction member size_eq _ => switch_of_inGrid (inGrid instruction member) size_eq)
    Array.size_replicate

theorem Grid.dimmed_new (brightness : Nat) : (Grid.new brightness).Dimmed brightness where
  size_eq := Array.size_replicate
  le here := by
    obtain ⟨_, rfl⟩ := Array.getElem?_eq_some_iff.mp here
    exact Nat.le_of_eq (Array.getElem_replicate ..)

theorem dim_run {instructions : List Instruction}
    (inGrid : ∀ instruction ∈ instructions, instruction.area.InGrid)
    (short : instructions.length < Word.size 31) :
    ∃ grid, instructions.foldlM dim (Grid.new 0) = .ok grid ∧
      grid.Dimmed (2 * instructions.length) := by
  -- Two for each instruction: a word of 32 bits has room for as many as fit in 31.
  have double : Word.size 32 = 2 * Word.size 31 := by decide
  refine foldlM_of_steps (fun taken (grid : Grid Nat) => grid.Dimmed (2 * taken)) ?_
    (Grid.dimmed_new 0)
  intro taken grid instruction member dimmed within
  have room : 2 * taken + 2 < Word.size 32 := by omega
  exact dim_of_dimmed (inGrid instruction member) dimmed room

theorem answer_of_inGrid {instructions : List Instruction}
    (inGrid : ∀ instruction ∈ instructions, instruction.area.InGrid)
    (short : instructions.length < Word.size 31) (part : Nat) :
    ∃ text, answer instructions part = .ok text := by
  unfold answer
  split
  · obtain ⟨grid, run, _⟩ := switch_run inGrid
    exact ⟨toString (litCount grid), by rw [run]; rfl⟩
  · have double : Word.size 32 = 2 * Word.size 31 := by decide
    obtain ⟨grid, run, dimmed⟩ := dim_run inGrid short
    refine ⟨toString (totalBrightness grid), ?_⟩
    rw [run, Except.bind, brightnessSum_of_dimmed dimmed (by omega)]
    rfl

section Input

variable {input : String} (short : input.utf8ByteSize < Word.size 31)

include short

theorem solver_completesOn : solver.CompletesOn input :=
  Dispatch.completesOn_of_answers (fun _ _ => rfl) fun _ read =>
    answer_of_inGrid (inGrid_of_parse read) (Nat.lt_of_le_of_lt (length_le_of_parse read) short)

theorem solver_answersOn : solver.AnswersOn input :=
  Dispatch.answersOn_of_stateless (fun _ _ => rfl) fun _ read =>
    answer_of_inGrid (inGrid_of_parse read) (Nat.lt_of_le_of_lt (length_le_of_parse read) short)

end Input

end Advent.Lights
