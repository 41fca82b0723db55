import Advent.Solver.Dispatch
import Advent.Text.Bytes
import Advent.Text.Lines
import Advent.Text.Quoted
import Advent.Text.Slice

/-!
# Nice strings

A string is judged by its bytes. By the first rule it is nice if it has three vowels, a byte right
after an equal one, and none of four forbidden pairs. By the second rule it is nice if some pair of
neighbours occurs twice without overlap and some byte stands two places after an equal one. Each part
counts the nice lines by one of the rules. `isNiceByPairs` is the second rule as a test; the search
that judges by it compares slices of the text.
-/
namespace Advent.NiceStrings

def isVowel (byte : UInt8) : Bool :=
  byte ∈ ['a', 'e', 'i', 'o', 'u'].map Char.toUInt8

def forbiddenPairs : List (UInt8 × UInt8) :=
  [('a', 'b'), ('c', 'd'), ('p', 'q'), ('x', 'y')].map fun (first, second) =>
    (first.toUInt8, second.toUInt8)

/-- Every byte but the last with the byte after it. -/
def neighbours (text : List UInt8) : List (UInt8 × UInt8) :=
  text.zip (text.drop 1)

def isNice (text : List UInt8) : Bool :=
  3 ≤ text.countP isVowel &&
    (neighbours text).any (fun (first, second) => first = second) &&
    !(neighbours text).any (· ∈ forbiddenPairs)

/-- Whether a pair of neighbours occurs again after itself. -/
def hasRepeatedPair : List UInt8 → Bool
  | first :: second :: rest =>
    (neighbours rest).contains (first, second) || hasRepeatedPair (second :: rest)
  | _ => false

def hasSandwich (text : List UInt8) : Bool :=
  (text.zip (text.drop 2)).any fun (first, third) => first = third

def isNiceByPairs (text : List UInt8) : Bool :=
  hasRepeatedPair text && hasSandwich text

/-! ### Searching for a pair -/

/-- Whether the two bytes at an index occur again after themselves. -/
def recursAt (text : List UInt8) (index : Nat) : Except Fault Bool := do
  let pair ← Text.slice index (index + 2) text
  let rest ← Text.sliceFrom (index + 2) text
  return (neighbours rest).any fun (first, second) => [first, second] = pair

/-- Judges a text by the second rule, up to the first index whose pair occurs again. -/
def judgeByPairs (text : List UInt8) : Except Fault Bool := do
  if ← (List.range (text.length - 1)).anyM (recursAt text) then return hasSandwich text
  else return false

def countNiceByPairs (words : List (List UInt8)) : Except Fault Nat :=
  words.foldlM (fun count word => do
    if ← judgeByPairs word then return count + 1 else return count) 0

/-! ### The solver -/

structure LetterError where
  line : List Char
  deriving Repr, DecidableEq

def LetterError.message (error : LetterError) : String :=
  s!"expected lowercase letters, got {Text.quote error.line}"

def readWord (line : List Char) : Except LetterError (List UInt8) :=
  if line.all Char.isLower then .ok (Text.bytes line) else .error ⟨line⟩

def parse (input : String) : Except ParseError (List (List UInt8)) :=
  (Text.readLines readWord input.toList).mapError fun error =>
    .invalidFormat (error.message LetterError.message)

def answer (words : List (List UInt8)) (part : Nat) : Except SolveError String :=
  if part = 1 then .ok (toString (words.countP isNice))
  else ((countNiceByPairs words).mapError .fault).map toString

def solver : Solver :=
  (Dispatch.upTo 2).solver parse fun part words => .ofAnswer words (answer words part)

end Advent.NiceStrings
