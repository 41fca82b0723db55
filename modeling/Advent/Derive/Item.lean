import Advent.Derive.Grammar.Statements

/-!
# Items

An item is a structure, an enumeration or a union, with attributes before it. Of an item only its name
and its attributes matter further on.

The parts of an item are read by grammars of growing depth: what stands inside of a part is read by
the grammar one level below. A list of tokens is nested no deeper than its tokens are many.
-/
namespace Advent.Derive

/-- The grammar for parts that are nested so deep. -/
def Grammar.ofDepth : Nat → Grammar
  | 0 => .empty
  | depth + 1 => {
      type := fun allowsSum tokens => readType (ofDepth depth) allowsSum tokens
      bound := fun allowsUse allowsConst tokens =>
        readBound (ofDepth depth) allowsUse allowsConst tokens
      pattern := fun tokens => readPattern (ofDepth depth) tokens
      operand := fun allowsFields tokens => readOperand (ofDepth depth) allowsFields tokens
      operators := fun allowsFields least left tokens =>
        readOperators (ofDepth depth) allowsFields least left tokens
      openExpression := fun tokens => readOpenExpression (ofDepth depth) tokens
      fields := fun tokens => readFields (ofDepth depth) tokens
      statements := fun tokens => readStatements (ofDepth depth) tokens
      definition := fun tokens => readDefinition (ofDepth depth) tokens
      useTree := fun allowsRoot tokens => readUseTree (ofDepth depth) allowsRoot tokens }

/-- Depth enough for a list of tokens: few levels follow each other before one takes a token. -/
def depthFor (tokens : List Token) : Nat :=
  8 * (sizeOfTokens tokens + 1)

structure Item where
  name : String
  attributes : List Attribute
  deriving Repr

/-- An item over a grammar for its parts. -/
def Grammar.item (g : Grammar) : Reader Item := do
  let attributes ← g.attributes
  let _ ← Reader.visibility
  return ⟨← g.dataDefinition, attributes⟩

def Item.ofTokens? (tokens : List Token) : Option Item :=
  match (Grammar.ofDepth (depthFor tokens)).item tokens with
  | some (item, []) => some item
  | _ => none

end Advent.Derive
