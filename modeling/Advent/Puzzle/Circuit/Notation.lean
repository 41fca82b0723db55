import Advent.Puzzle.Circuit.Basic
import Advent.Text.Lines
import Advent.Text.Numeral
import Advent.Text.Quoted
import Advent.Text.Split
import Advent.Word

/-!
# Written circuits

Each content line connects a gate to a wire, as in `x AND 7 -> d`. Wires are written in lower case
letters and signals in decimal. No wire is driven twice. Of several defects in one line the first in
this order is reported: no arrow, the wire, the operands from the left, the operator, a wire that an
earlier line drives.
-/
namespace Advent.Circuits

/-! ### Writing -/

def Operand.written : Operand → List Char
  | .wire name => name.toList
  | .value signal => Nat.toDigits 10 signal.toNat

def binaryWritten (left : Operand) (operator : String) (right : Operand) : List Char :=
  left.written ++ [' '] ++ operator.toList ++ [' '] ++ right.written

def Gate.written : Gate → List Char
  | .assign input => input.written
  | .not input => "NOT ".toList ++ input.written
  | .and left right => binaryWritten left "AND" right
  | .or left right => binaryWritten left "OR" right
  | .leftShift input amount => binaryWritten input "LSHIFT" amount
  | .rightShift input amount => binaryWritten input "RSHIFT" amount

def arrow : List Char := " -> ".toList

def Connection.written (connection : Connection) : List Char :=
  connection.gate.written ++ arrow ++ connection.wire.toList

/-! ### Reading -/

inductive ExpressionError
  | badSignal (token : List Char) (cause : Text.NumeralError)
  | badOperand (token : List Char)
  | unknownGate (operator : List Char)
  | unrecognised (expression : List Char)
  deriving Repr, DecidableEq

def ExpressionError.message : ExpressionError → String
  | .badSignal token cause => s!"bad signal {Text.quote token}: {cause.message}"
  | .badOperand token => s!"bad operand {Text.quote token}"
  | .unknownGate operator => s!"unknown gate {Text.quote operator}"
  | .unrecognised expression => s!"unrecognised expression {Text.quote expression}"

inductive ConnectionError
  | noArrow (line : List Char)
  | badWire (name : List Char)
  | badExpression (cause : ExpressionError)
  | repeatedWire (name : List Char)
  deriving Repr, DecidableEq

def ConnectionError.message : ConnectionError → String
  | .noArrow line => s!"expected `<expr> -> <wire>`, got {Text.quote line}"
  | .badWire name => s!"bad wire name {Text.quote name}"
  | .badExpression cause => cause.message
  | .repeatedWire name => s!"wire {Text.quote name} has more than one source"

/-- A wire name: one lower case letter or more. -/
def isWireName (token : List Char) : Bool :=
  !token.isEmpty && token.all Char.isLower

def readOperand (token : List Char) : Except ExpressionError Operand :=
  if token.all Text.isAsciiDigit then
    match Text.readNat (Word.greatest 16) token with
    | .ok value => .ok (.value (UInt16.ofNat value))
    | .error cause => .error (.badSignal token cause)
  else if token.all Char.isLower then .ok (.wire (String.ofList token))
  else .error (.badOperand token)

def binaryGate? (operator : List Char) (left right : Operand) : Option Gate :=
  if operator = "AND".toList then some (.and left right)
  else if operator = "OR".toList then some (.or left right)
  else if operator = "LSHIFT".toList then some (.leftShift left right)
  else if operator = "RSHIFT".toList then some (.rightShift left right)
  else none

def readGate (expression : List Char) : Except ExpressionError Gate :=
  match Text.words expression with
  | [input] => (readOperand input).map .assign
  | [first, second] =>
    if first = "NOT".toList then (readOperand second).map .not
    else .error (.unrecognised expression)
  | [left, operator, right] => do
    let leftOperand ← readOperand left
    let rightOperand ← readOperand right
    match binaryGate? operator leftOperand rightOperand with
    | some gate => return gate
    | none => .error (.unknownGate operator)
  | _ => .error (.unrecognised expression)

/-- Reads a line after the connections of the lines before it. -/
def readConnection (earlier : List Connection) (line : List Char) :
    Except ConnectionError Connection :=
  match Text.splitOnce arrow line with
  | none => .error (.noArrow line)
  | some (expression, rest) =>
    let name := Text.trim rest
    if isWireName name then
      match readGate expression with
      | .error cause => .error (.badExpression cause)
      | .ok gate =>
        let wire := String.ofList name
        if earlier.any fun connection => connection.wire = wire then .error (.repeatedWire name)
        else .ok ⟨wire, gate⟩
    else .error (.badWire name)

def readCircuit (text : List Char) : Except (Text.LineError ConnectionError) Circuit :=
  Text.readLinesAfter readConnection text

end Advent.Circuits
