import Advent.Solver.Dispatch
import Advent.Text.Blank
import Advent.Text.Bytes
import Advent.Text.Quoted
import Advent.Word
import Std.Data.HashSet

/-!
# Houses

Directions lead over an endless grid of houses from the origin. The first part counts the houses on
one walk. In the second part two walkers take turns, and houses on either walk count once.
-/
namespace Advent.Houses

inductive Direction
  | north
  | south
  | east
  | west
  deriving Repr, DecidableEq

def Direction.ofByte? (byte : UInt8) : Option Direction :=
  if byte = '^'.toUInt8 then some .north
  else if byte = 'v'.toUInt8 then some .south
  else if byte = '>'.toUInt8 then some .east
  else if byte = '<'.toUInt8 then some .west
  else none

structure Position where
  x : Int
  y : Int
  deriving Repr, DecidableEq, Hashable

namespace Position

def origin : Position := ⟨0, 0⟩

def step (position : Position) : Direction → Option Position
  | .north => (Word.signed32? (position.y + 1)).map fun y => { position with y }
  | .south => (Word.signed32? (position.y - 1)).map fun y => { position with y }
  | .east => (Word.signed32? (position.x + 1)).map fun x => { position with x }
  | .west => (Word.signed32? (position.x - 1)).map fun x => { position with x }

def shown (position : Position) : String :=
  s!"Pos \x7b x: {position.x}, y: {position.y} \x7d"

end Position

/-- Where a walker stands and has been, the latest first; the place where it stands is among them. -/
structure Walk where
  position : Position
  visited : List Position
  deriving Repr, DecidableEq

namespace Walk

def start : Walk := ⟨.origin, [.origin]⟩

def step (walk : Walk) (direction : Direction) : Option Walk :=
  (walk.position.step direction).map fun next => ⟨next, next :: walk.visited⟩

/-- The walk along all directions, from the origin. -/
def along (directions : List Direction) : Option Walk :=
  directions.foldlM step start

end Walk

def readDirections (text : List Char) : Except Text.StrayByte (List Direction) :=
  Text.readBytes Direction.ofByte? (Text.bytes (Text.trim text))

def distinct (positions : List Position) : Nat :=
  (Std.HashSet.ofList positions).size

/-- The directions whose number, counted from zero, leaves `turn` when halved. -/
def turns (turn : Nat) (directions : List Direction) : List Direction :=
  directions.zipIdx.filterMap fun (direction, index) =>
    if index % 2 = turn then some direction else none

def routeRecord (walk : Walk) (houses : Nat) : Log.Record where
  level := .trace
  target := "aoc_solutions::year_2015::day_3"
  message := "route finished"
  fields := [("pos", walk.position.shown), ("houses", toString houses)]

def parse (input : String) : Except ParseError (List Direction) :=
  (readDirections input.toList).mapError fun stray =>
    .invalidFormat
      s!"unexpected direction {Text.quoteChar stray.shown} at position {stray.position}"

/-- Walks the routes one after the other and counts the houses of all of them. -/
def visit (directions : List Direction) (routes : List (List Direction)) :
    Step (List Direction) :=
  match routes.mapM Walk.along with
  | none => .failed directions (.fault .overflow)
  | some walks =>
    let counts := walks.zipIdx.map fun (walk, index) =>
      (walk, distinct ((walks.take (index + 1)).flatMap Walk.visited))
    { answer := .ok (toString (distinct (walks.flatMap Walk.visited)))
      state := directions
      records := counts.map fun (walk, houses) => routeRecord walk houses }

def solver : Solver :=
  (Dispatch.upTo 2).solver parse fun part directions =>
    if part = 1 then visit directions [directions]
    else visit directions [turns 0 directions, turns 1 directions]

end Advent.Houses
