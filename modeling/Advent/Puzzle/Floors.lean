import Advent.Solver.Dispatch
import Advent.Text.Blank
import Advent.Text.Bytes
import Advent.Text.Quoted
import Advent.Word

/-!
# Floors

Moves take a visitor one floor up or down from floor zero. The first part asks for the last floor and
the second for the position, counted from one, of the first move that enters the basement.
-/
namespace Advent.Floors

inductive Move
  | up
  | down
  deriving Repr, DecidableEq

/-- An opening bracket goes up and a closing one goes down. -/
def Move.ofByte? (byte : UInt8) : Option Move :=
  if byte = '('.toUInt8 then some .up
  else if byte = ')'.toUInt8 then some .down
  else none

def Move.delta : Move → Int
  | .up => 1
  | .down => -1

def Move.apply (floor : Int) (move : Move) : Option Int :=
  Word.signed32? (floor + move.delta)

def readMoves (text : List Char) : Except Text.StrayByte (List Move) :=
  Text.readBytes Move.ofByte? (Text.bytes (Text.trim text))

def lastFloor (moves : List Move) : Option Int :=
  moves.foldlM Move.apply 0

inductive BasementError
  | neverEntered
  | overflow
  deriving Repr, DecidableEq

def BasementError.toSolveError : BasementError → SolveError
  | .neverEntered => .failed "Santa never enters the basement"
  | .overflow => .fault .overflow

/-- The count of moves up to the first that leads to floor minus one. -/
def entryFrom (floor : Int) (taken : Nat) : List Move → Except BasementError Nat
  | [] => .error .neverEntered
  | move :: rest =>
    match move.apply floor with
    | none => .error .overflow
    | some next => if next = -1 then .ok (taken + 1) else entryFrom next (taken + 1) rest

def basementEntry (moves : List Move) : Except BasementError Nat :=
  entryFrom 0 0 moves

def parse (input : String) : Except ParseError (List Move) :=
  (readMoves input.toList).mapError fun stray =>
    .invalidFormat
      s!"unexpected character {Text.quoteChar stray.shown} at position {stray.position}"

def answer (moves : List Move) : Nat → Except SolveError String
  | 1 => (Word.orOverflow (lastFloor moves)).map toString
  | _ => ((basementEntry moves).mapError BasementError.toSolveError).map toString

def solver : Solver :=
  (Dispatch.upTo 2).solver parse fun part moves => .ofAnswer moves (answer moves part)

end Advent.Floors
