import Advent.Text.Blank

/-!
# Content lines

A content line is a line that is not blank, trimmed, with its number among all lines, blank ones
included, counted from one. A reader goes through the content lines in order and stops at the first
one that it refuses; the error carries the number of that line.
-/
namespace Advent.Text

def contentLines (text : List Char) : List (Nat × List Char) :=
  ((text.splitOn '\n').zipIdx 1).filterMap fun (line, number) =>
    if (trim line).isEmpty then none else some (number, trim line)

structure LineError (ε : Type) where
  /-- Counted from one. -/
  line : Nat
  cause : ε
  deriving Repr, DecidableEq

def LineError.message {ε : Type} (describe : ε → String) (error : LineError ε) : String :=
  s!"(line {error.line}) {describe error.cause}"

/-- Reads numbered lines; `read` also sees what the lines before gave, the latest first. -/
def readNumbered {α ε : Type} (read : List α → List Char → Except ε α) (earlier : List α) :
    List (Nat × List Char) → Except (LineError ε) (List α)
  | [] => .ok earlier.reverse
  | (number, line) :: rest =>
    match read earlier line with
    | .ok value => readNumbered read (value :: earlier) rest
    | .error cause => .error ⟨number, cause⟩

def readLinesAfter {α ε : Type} (read : List α → List Char → Except ε α) (text : List Char) :
    Except (LineError ε) (List α) :=
  readNumbered read [] (contentLines text)

/-- Reads every content line by itself. -/
def readLines {α ε : Type} (read : List Char → Except ε α) (text : List Char) :
    Except (LineError ε) (List α) :=
  readLinesAfter (fun _ => read) text

end Advent.Text
