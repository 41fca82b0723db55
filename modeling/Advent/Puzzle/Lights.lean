import Advent.Solver.Dispatch
import Advent.Text.Lines
import Advent.Text.Numeral
import Advent.Text.Quoted
import Advent.Text.Split
import Advent.Word

/-!
# Lights

A square grid of lights follows instructions, each of which acts on the lights of a rectangle, its
corners included. The first part treats a light as a switch and counts the lit ones. The second
treats it as a dial that does not go below zero and adds up the brightness.
-/
namespace Advent.Lights

/-- The lights in a row and the rows in the grid. -/
def gridSize : Nat := 1000

inductive Action
  | turnOn
  | turnOff
  | toggle
  deriving Repr, DecidableEq

/-- The columns from `left` to `right` of the rows from `top` to `bottom`, all included. -/
structure Rectangle where
  left : Nat
  right : Nat
  top : Nat
  bottom : Nat
  deriving Repr, DecidableEq

/-- The rectangle between two opposite corners. -/
def Rectangle.between (x y x' y' : Nat) : Rectangle :=
  ⟨min x x', max x x', min y y', max y y'⟩

structure Instruction where
  action : Action
  area : Rectangle
  deriving Repr, DecidableEq

/-! ### Reading instructions -/

inductive InstructionError
  | unrecognised (text : List Char)
  | badCoordinate (digits : List Char) (cause : Text.NumeralError)
  | outsideGrid (coordinate : Nat)
  deriving Repr, DecidableEq

def InstructionError.message : InstructionError → String
  | .unrecognised text => s!"unrecognised instruction {Text.quote text}"
  | .badCoordinate digits cause => s!"bad coordinate {Text.quote digits}: {cause.message}"
  | .outsideGrid coordinate => s!"coordinate {coordinate} is outside the grid"

/-- Splits a run of decimal digits of any script off a text; the run may not be empty. -/
def takeDigits? (text : List Char) : Option (List Char × List Char) :=
  let digits := text.takeWhile Text.isDecimalDigit
  if digits.isEmpty then none else some (digits, text.dropWhile Text.isDecimalDigit)

/-- The texts of two coordinates with a comma between them, and the text after them. -/
def takeCorner? (text : List Char) : Option (List Char × List Char × List Char) := do
  let (x, text) ← takeDigits? text
  let text ← Text.stripStart? [','] text
  let (y, text) ← takeDigits? text
  return (x, y, text)

def takeAction? (text : List Char) : Option (Action × List Char) :=
  ((Text.stripStart? "turn on ".toList text).map (Action.turnOn, ·)).or
    (((Text.stripStart? "turn off ".toList text).map (Action.turnOff, ·)).or
      ((Text.stripStart? "toggle ".toList text).map (Action.toggle, ·)))

/-- The action and the texts of four coordinates in the order in which they are written. -/
def splitInstruction? (text : List Char) : Option (Action × List (List Char)) := do
  let (action, text) ← takeAction? text
  let (x, y, text) ← takeCorner? text
  let text ← Text.stripStart? " through ".toList text
  let (x', y', text) ← takeCorner? text
  guard text.isEmpty
  return (action, [x, y, x', y'])

/-- The greatest number that a coordinate is read up to. -/
def greatestNumeral : Nat := Word.greatest 64

def readCoordinate (digits : List Char) : Except InstructionError Nat := do
  let coordinate ← (Text.readNat greatestNumeral digits).mapError (.badCoordinate digits)
  if coordinate < gridSize then return coordinate else .error (.outsideGrid coordinate)

def readInstruction (text : List Char) : Except InstructionError Instruction :=
  match splitInstruction? text with
  | none => .error (.unrecognised text)
  | some (action, corners) => do
    match ← corners.mapM readCoordinate with
    | [x, y, x', y'] => return ⟨action, .between x y x' y'⟩
    | _ => .error (.unrecognised text)

/-! ### The grid -/

/-- Lights row by row. -/
structure Grid (α : Type) where
  cells : Array α

namespace Grid

variable {α : Type}

def new (initial : α) : Grid α :=
  ⟨Array.replicate (gridSize * gridSize) initial⟩

/-- The light in a column of a row; a column past the row runs on into the next rows. -/
def get? (grid : Grid α) (x y : Nat) : Option α :=
  grid.cells[y * gridSize + x]?

/-- Changes so many lights from an index on. -/
@[specialize]
def updateRun (change : α → Except Fault α) (cells : Array α) (index : Nat) :
    Nat → Except Fault (Array α)
  | 0 => .ok cells
  | count + 1 =>
    if inside : index < cells.size then
      match change cells[index] with
      | .ok value => updateRun change (cells.set index value) (index + 1) count
      | .error fault => .error fault
    else .error .outOfBounds

/-- Changes the columns from `left` to `right` of a row; the row has to be in the grid and the
columns, which may be none, in the row. -/
@[specialize]
def updateRow (change : α → Except Fault α) (cells : Array α) (row left right : Nat) :
    Except Fault (Array α) :=
  if (row + 1) * gridSize ≤ cells.size ∧ left ≤ right + 1 ∧ right < gridSize then
    updateRun change cells (row * gridSize + left) (right + 1 - left)
  else .error .outOfBounds

/-- Changes so many rows from a row on. -/
@[specialize]
def updateRows (change : α → Except Fault α) (left right : Nat) (cells : Array α) (row : Nat) :
    Nat → Except Fault (Array α)
  | 0 => .ok cells
  | count + 1 =>
    match updateRow change cells row left right with
    | .ok cells => updateRows change left right cells (row + 1) count
    | .error fault => .error fault

/-- Changes every light of a rectangle. -/
@[specialize]
def apply (change : α → Except Fault α) (grid : Grid α) (area : Rectangle) :
    Except Fault (Grid α) :=
  match updateRows change area.left area.right grid.cells area.top
      (area.bottom + 1 - area.top) with
  | .ok cells => .ok ⟨cells⟩
  | .error fault => .error fault

end Grid

/-! ### The two readings of an action -/

def switchLight : Action → Bool → Bool
  | .turnOn, _ => true
  | .turnOff, _ => false
  | .toggle, lit => !lit

def brightened (brightness steps : Nat) : Except Fault Nat :=
  match Word.unsigned32? (brightness + steps) with
  | some value => .ok value
  | none => .error .overflow

def dimLight : Action → Nat → Except Fault Nat
  | .turnOn, brightness => brightened brightness 1
  | .turnOff, brightness => .ok (brightness - 1)
  | .toggle, brightness => brightened brightness 2

def switch (grid : Grid Bool) (instruction : Instruction) : Except Fault (Grid Bool) :=
  -- Each action has a loop of its own, which does not ask for the action at every light.
  match instruction.action with
  | .turnOn => grid.apply (fun lit => .ok (switchLight .turnOn lit)) instruction.area
  | .turnOff => grid.apply (fun lit => .ok (switchLight .turnOff lit)) instruction.area
  | .toggle => grid.apply (fun lit => .ok (switchLight .toggle lit)) instruction.area

def dim (grid : Grid Nat) (instruction : Instruction) : Except Fault (Grid Nat) :=
  grid.apply (dimLight instruction.action) instruction.area

def litCount (grid : Grid Bool) : Nat :=
  grid.cells.foldl (fun count lit => if lit then count + 1 else count) 0

def totalBrightness (grid : Grid Nat) : Nat :=
  grid.cells.foldl (· + ·) 0

/-- The total brightness, which is added up in 64 bits. -/
def brightnessSum (grid : Grid Nat) : Except Fault Nat :=
  Word.orFault (Word.unsigned64? (totalBrightness grid))

/-! ### The solver -/

def parse (input : String) : Except ParseError (List Instruction) :=
  (Text.readLines readInstruction input.toList).mapError fun error =>
    .invalidFormat (error.message InstructionError.message)

def answer (instructions : List Instruction) (part : Nat) : Except SolveError String :=
  if part = 1 then
    (((instructions.foldlM switch (Grid.new false)).map litCount).mapError .fault).map toString
  else
    (((instructions.foldlM dim (Grid.new 0)).bind brightnessSum).mapError .fault).map toString

def solver : Solver :=
  (Dispatch.upTo 2).solver parse fun part instructions =>
    .ofAnswer instructions (answer instructions part)

end Advent.Lights
