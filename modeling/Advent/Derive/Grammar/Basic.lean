import Advent.Derive.Reader

/-!
# Grammars

Types, patterns, expressions, statements and definitions contain each other. A grammar gives a reader
for each of them. The readers of the parts are written over a grammar for what stands inside; the
grammar that reads nothing is the innermost.

A reader gives the form of what it read, as far as that decides what may come next.
-/
namespace Advent.Derive

/-- Whether a path segment has arguments in angles. -/
inductive ArgumentsForm
  | absent
  | empty
  | given
  deriving Repr, DecidableEq

structure PathForm where
  /-- It starts with a type in angles. -/
  isQualified : Bool
  /-- It is one word, without two colons before it. -/
  isSingle : Bool
  /-- No segment has angles. -/
  isPlain : Bool
  /-- The arguments of the last segment. -/
  last : ArgumentsForm
  deriving Repr, DecidableEq

inductive TypeForm
  /-- One word, perhaps with arguments in angles. -/
  | word
  /-- Another path that does not start with a type in angles. -/
  | path
  /-- One bound, which stands for some type within it. -/
  | bound
  | other
  deriving Repr, DecidableEq

inductive BoundForm
  | lifetime
  /-- The parameters that a type may use. -/
  | uses
  | trait
  deriving Repr, DecidableEq

inductive PatternForm
  /-- A range that lacks one of its ends. -/
  | openRange
  | other
  deriving Repr, DecidableEq

inductive ExpressionForm
  | range
  | comparison
  /-- Ends a statement without a semicolon. -/
  | block
  /-- A macro with its arguments in braces. -/
  | invocationInBraces
  | other
  deriving Repr, DecidableEq

/-- How tightly operators bind, from the loosest on. -/
inductive Precedence
  | jump
  | assign
  | range
  | or
  | and
  | compare
  | bitOr
  | bitXor
  | bitAnd
  | shift
  | sum
  | product
  | cast
  deriving Repr, DecidableEq

def Precedence.rank : Precedence → Nat
  | .jump => 0
  | .assign => 1
  | .range => 2
  | .or => 3
  | .and => 4
  | .compare => 5
  | .bitOr => 6
  | .bitXor => 7
  | .bitAnd => 8
  | .shift => 9
  | .sum => 10
  | .product => 11
  | .cast => 12

structure Grammar where
  /-- A type; the flag tells whether a sum of bounds counts as one. -/
  type (allowsSum : Bool) : Reader TypeForm
  /-- A bound of a type; the flags tell whether it may be `use` or have `const` in it. -/
  bound (allowsUse allowsConst : Bool) : Reader BoundForm
  /-- One pattern, without alternatives. -/
  pattern : Reader PatternForm
  /-- An operand with its signs; the flag tells whether a path may have braces with fields. -/
  operand (allowsFields : Bool) : Reader ExpressionForm
  /-- The operators after an operand that bind at least so tightly, with their right sides. -/
  operators (allowsFields : Bool) (least : Precedence) (left : ExpressionForm) :
    Reader ExpressionForm
  /-- An expression that a block ends, as in a statement or an arm; gives `block` for such a block. -/
  openExpression : Reader ExpressionForm
  /-- Fields with names, in braces. -/
  fields : Reader Unit
  /-- Statements up to the end. -/
  statements : Reader Unit
  /-- An item. -/
  definition : Reader Unit
  /-- What a `use` names; the flag tells whether two colons may stand before it. -/
  useTree (allowsRoot : Bool) : Reader Unit

namespace Grammar

/-- The grammar in which nothing can be read. -/
def empty : Grammar where
  type _ := failure
  bound _ _ := failure
  pattern := failure
  operand _ := failure
  operators _ _ _ := failure
  openExpression := failure
  fields := failure
  statements := failure
  definition := failure
  useTree _ := failure

variable (g : Grammar)

/-- An expression; the flag tells whether a path may have braces with fields. -/
def expressionWith (allowsFields : Bool) : Reader ExpressionForm := do
  g.operators allowsFields .jump (← g.operand allowsFields)

def expression : Reader Unit := do
  let _ ← g.expressionWith true

/-- An expression before a group in braces that is not a part of it. -/
def condition : Reader Unit := do
  let _ ← g.expressionWith false

/-- A type, a sum of bounds among them. -/
def anyType : Reader Unit := do
  let _ ← g.type true

/-- A type that is no sum of bounds. -/
def plainType : Reader Unit := do
  let _ ← g.type false

/-- A bound in which `const` may stand. -/
def anyBound : Reader Unit := do
  let _ ← g.bound false true

/-- A block without attributes inside. -/
def block : Reader Unit := Reader.group .brace g.statements

end Grammar

end Advent.Derive
