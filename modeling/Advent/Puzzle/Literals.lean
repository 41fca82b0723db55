import Advent.Solver.Dispatch
import Advent.Text.Bytes
import Advent.Text.Lines
import Advent.Text.Quoted
import Advent.Text.Slice
import Advent.Word

/-!
# Literals

A literal is a text between double quotes. In memory its body takes one character for each escape,
`\\`, `\"` or `\x` with two hexadecimal digits, and for each other byte; a backslash that starts no
escape is a byte like any other. Encoding a literal quotes it once more. The first part adds up what
the lines are longer than in memory, the second what they grow by when encoded.
-/
namespace Advent.Literals

def isHexDigit (byte : UInt8) : Bool :=
  ('0'.toUInt8 ≤ byte && byte ≤ '9'.toUInt8) || ('a'.toUInt8 ≤ byte && byte ≤ 'f'.toUInt8) ||
    ('A'.toUInt8 ≤ byte && byte ≤ 'F'.toUInt8)

/-- How many bytes the character at the front of a text takes; `0x5c` is the backslash, `0x22` the
double quote and `0x78` the letter `x`. -/
def characterLength : List UInt8 → Nat
  | 0x5c :: 0x5c :: _ => 2
  | 0x5c :: 0x22 :: _ => 2
  | 0x5c :: 0x78 :: high :: low :: _ => if isHexDigit high && isHexDigit low then 4 else 1
  | _ => 1

theorem characterLength_pos (text : List UInt8) : 0 < characterLength text := by
  unfold characterLength
  split <;> (try split) <;> decide

/-- Counts the characters of a body from an index on. -/
def countFrom (body : List UInt8) (index count : Nat) : Except Fault Nat :=
  if index < body.length then
    match Text.sliceFrom index body with
    | .ok rest => countFrom body (index + characterLength rest) (count + 1)
    | .error fault => .error fault
  else .ok count
termination_by body.length - index
decreasing_by
  have := characterLength_pos rest
  omega

/-- The count of characters in memory; the two quotes have to be there. -/
def lengthInMemory (literal : List UInt8) : Except Fault Nat := do
  let body ← Text.slice 1 (literal.length - 1) literal
  countFrom body 0 0

/-- The count of characters in memory of a text that is a literal. -/
def memoryLength (literal : List UInt8) : Option Nat :=
  (lengthInMemory literal).toOption

def needsEscape (byte : UInt8) : Bool :=
  byte = '\\'.toUInt8 || byte = '"'.toUInt8

def encodedLength (literal : List UInt8) : Nat :=
  literal.length + 2 + literal.countP needsEscape

structure QuoteError where
  line : List Char
  deriving Repr, DecidableEq

def QuoteError.message (error : QuoteError) : String :=
  s!"expected a double-quoted literal, got {Text.quote error.line}"

def readLiteral (line : List Char) : Except QuoteError (List UInt8) :=
  let literal := Text.bytes line
  if 2 ≤ literal.length ∧ line.head? = some '"' ∧ line.getLast? = some '"' then .ok literal
  else .error ⟨line⟩

/-- What a literal is longer than in memory. -/
def overhead (literal : List UInt8) : Except Fault Nat := do
  let length ← lengthInMemory literal
  Word.difference literal.length length

/-- What a literal grows by when encoded. -/
def growth (literal : List UInt8) : Except Fault Nat := do
  let encoded ← Word.orFault (Word.unsigned64? (encodedLength literal))
  Word.difference encoded literal.length

/-- The sum of a measure, which is added up in 64 bits. -/
def total (measure : List UInt8 → Except Fault Nat) (literals : List (List UInt8)) :
    Except Fault Nat :=
  literals.foldlM (fun sum literal => do
    let value ← measure literal
    Word.orFault (Word.unsigned64? (sum + value))) 0

def parse (input : String) : Except ParseError (List (List UInt8)) :=
  (Text.readLines readLiteral input.toList).mapError fun error =>
    .invalidFormat (error.message QuoteError.message)

def answer (literals : List (List UInt8)) (part : Nat) : Except SolveError String :=
  ((total (if part = 1 then overhead else growth) literals).mapError .fault).map toString

def solver : Solver :=
  (Dispatch.upTo 2).solver parse fun part literals => .ofAnswer literals (answer literals part)

end Advent.Literals
