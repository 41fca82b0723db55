import Advent.Derive.Grammar.Patterns
import Advent.Text.Numeral

/-!
# Expressions

An expression is a chain of operands with operators between them, which bind by their precedence. An
operand is an atom with signs before it and accesses after it. Where a group in braces follows an
expression, as after `if`, a path in the expression may not have braces with fields.
-/
namespace Advent.Derive.Grammar

open Reader

variable (g : Grammar)

/-! ### Operators -/

/-- The binary operators; where one starts with another, the longer comes first. -/
def operatorTable : List (String × Precedence) := [
  ("+=", .assign), ("-=", .assign), ("*=", .assign), ("/=", .assign), ("%=", .assign),
  ("^=", .assign), ("&=", .assign), ("|=", .assign), ("<<=", .assign), (">>=", .assign),
  ("&&", .and), ("||", .or), ("<<", .shift), (">>", .shift), ("==", .compare), ("<=", .compare),
  ("!=", .compare), (">=", .compare), ("+", .sum), ("-", .sum), ("*", .product), ("/", .product),
  ("%", .product), ("^", .bitXor), ("&", .bitAnd), ("|", .bitOr), ("<", .compare), (">", .compare)]

def operatorAhead? (tokens : List Token) : Option (String × Precedence) :=
  operatorTable.find? fun operator => Ahead.mark operator.1 tokens

/-- A single equals sign, which assigns. -/
def assignSign : Ahead := Ahead.markBut "=" ["=>"]

/-- How tightly what comes next binds. -/
def precedenceAhead (tokens : List Token) : Precedence :=
  match operatorAhead? tokens with
  | some (_, precedence) => precedence
  | none =>
    if assignSign tokens then .assign
    else if Ahead.mark ".." tokens then .range
    else if Ahead.word "as" tokens then .cast
    else .jump

/-- The right side of an operator, with all that binds more tightly. Assignments go on to the right. -/
def rightSide (allowsFields : Bool) (precedence : Precedence) : Reader Unit := do
  let _ ← steps (fun right => do
    let before ← get
    let following := precedenceAhead before
    if precedence.rank < following.rank || precedence = .assign && following = .assign then
      let right ← g.operators allowsFields following right
      return if (← get).length < before.length then some right else none
    else return none) (← g.operand allowsFields)

/-- The dots of a range, and whether its end belongs to it. -/
def rangeDots : Reader Bool := do
  if ← markIf "..=" then return true
  else
    guard !(← sees (Ahead.mark "..."))
    mark ".."
    return false

/-- Where the end of a range is left out. -/
def lacksEnd (allowsFields : Bool) : Ahead := fun tokens =>
  Ahead.oneOf [Ahead.finish, Ahead.mark ",", Ahead.mark ";", Ahead.memberPoint, Ahead.mark "?",
      Ahead.mark "=>", Ahead.mark "=", Ahead.mark "+", Ahead.mark "/", Ahead.mark "%",
      Ahead.mark "^", Ahead.mark ">", Ahead.mark "<=", Ahead.mark "!=", Ahead.mark "-=",
      Ahead.mark "*=", Ahead.mark "&=", Ahead.mark "|=", Ahead.mark "<<=", Ahead.word "as"] tokens ||
    !allowsFields && Ahead.group .brace tokens

/-- A range from its dots on. -/
def rangeFromDots (allowsFields : Bool) : Reader Unit := do
  let isClosed ← rangeDots
  if isClosed || !(← sees (lacksEnd allowsFields)) then g.rightSide allowsFields .range

/-- What may not follow a cast; parentheses around the cast are needed there. -/
def continuesCast : Ahead :=
  Ahead.oneOf [Ahead.memberPoint, Ahead.mark "?", Ahead.group .bracket, Ahead.group .parenthesis]

/-- One operator and its right side. Nothing stands to the right of a range, and comparisons do not
go on. -/
def operatorStep (allowsFields : Bool) (least : Precedence) (left : ExpressionForm) :
    Reader (Option ExpressionForm) := do
  let tokens ← get
  if left = .range then return none
  else
    match operatorAhead? tokens with
    | some (sign, precedence) =>
      if precedence.rank < least.rank then return none
      else
        guard !(precedence = .compare && left = .comparison)
        mark sign
        g.rightSide allowsFields precedence
        return some (if precedence = .compare then .comparison else .other)
    | none =>
      if least.rank ≤ Precedence.assign.rank && assignSign tokens then
        mark "="
        g.rightSide allowsFields .assign
        return some .other
      else if least.rank ≤ Precedence.range.rank && Ahead.mark ".." tokens then
        g.rangeFromDots allowsFields
        return some .range
      else if Ahead.word "as" tokens then
        anyWord
        g.plainType
        guard !(← sees continuesCast)
        return some .other
      else return none

def readOperators (allowsFields : Bool) (least : Precedence) (left : ExpressionForm) :
    Reader ExpressionForm :=
  steps (g.operatorStep allowsFields least) left

/-! ### Accesses -/

def expressionList : Reader Unit := commaList g.expression

/-- An index written in digits, perhaps with lines between them. -/
def isIndexText (text : List Char) : Bool :=
  match text with
  | [] => false
  | first :: _ =>
    Text.isAsciiDigit first &&
      (Text.readNat ((1 <<< 32) - 1) (text.filter (· ≠ '_'))).isOk

/-- The indexes in a number with points, where one index goes on to the next; and whether a point is
the last of it. -/
def indexesOf? (text : String) : Option Bool :=
  let indexes := text.toList.splitOn '.'
  if indexes.getLast? = some [] then
    if indexes.dropLast.all isIndexText then some true else none
  else if indexes.all isIndexText then some false
  else none

/-- Indexes that a number with points stands for. Gives whether a member has to follow. -/
def pointedIndexes : Reader Bool := do
  match ← get with
  | .literal .float text :: _ =>
    literal
    indexesOf? text
  | _ => return true

/-- A member by its name, with a call if angles follow it, or by its index. -/
def member : Reader Unit := do
  if ← readIf startsIndex literal then return
  else
    let _ ← name
    if ← sees (Ahead.mark "::") then
      let _ ← g.arguments
      group .parenthesis g.expressionList
    else if ← sees (Ahead.group .parenthesis) then
      group .parenthesis g.expressionList

/-- One access to the value before it. -/
def accessStep (form : ExpressionForm) : Reader (Option ExpressionForm) := do
  let tokens ← get
  if Ahead.group .parenthesis tokens then
    group .parenthesis g.expressionList
    return some .other
  else if form ≠ .range && Ahead.memberPoint tokens then
    mark "."
    if ← pointedIndexes then
      if !(← wordIf "await") then g.member
    return some .other
  else if Ahead.group .bracket tokens then
    group .bracket g.expression
    return some .other
  else if form ≠ .range && Ahead.mark "?" tokens then
    mark "?"
    return some .other
  else return none

def accesses (form : ExpressionForm) : Reader ExpressionForm :=
  steps g.accessStep form

/-! ### Blocks with a word before them -/

/-- An `if` after its word: the condition, the block, and what else. -/
def branches : Reader Unit := do
  let _ ← steps (fun isOpen => do
    if !isOpen then return none
    word "if"
    g.condition
    g.block
    if !(← wordIf "else") then return some false
    if ← sees (Ahead.word "if") then return some true
    g.block
    return some false) true

def whileLoop : Reader Unit := do
  word "while"
  g.condition
  g.body

def forLoop : Reader Unit := do
  word "for"
  g.anyAlternatives
  word "in"
  g.condition
  g.body

def startsTry : Ahead := Ahead.followed (Ahead.word "try") (Ahead.group .brace)

def tryBlock : Reader Unit := do
  word "try"
  g.block

/-- A name that a loop or a block gets, and the loop or block. -/
def labelled : Reader Unit := do
  lifetime
  mark ":"
  let tokens ← get
  if Ahead.word "while" tokens then g.whileLoop
  else if Ahead.word "for" tokens then g.forLoop
  else if Ahead.word "loop" tokens then
    word "loop"
    g.body
  else g.body

/-- A group of statements behind a word. -/
def wordedBody (before : String) : Reader Unit := do
  word before
  g.body

/-- An arm of a `match`. A comma ends it unless it is a block or the last. -/
def arm : Reader Unit := do
  let _ ← g.skipAttributes
  g.anyAlternatives
  if ← wordIf "if" then g.expression
  mark "=>"
  let form ← g.openExpression
  if form = .block || Ahead.finish (← get) then
    let _ ← markIf ","
  else mark ","

def matching : Reader Unit := do
  word "match"
  g.condition
  group .brace do
    g.skipInnerAttributes
    readWhile (Ahead.noneOf [Ahead.finish]) g.arm

/-- The word `for` before the parameters of a closure, and not of a loop. -/
def startsForParameters : Ahead :=
  Ahead.allOf [Ahead.word "for", Ahead.after 1 (Ahead.mark "<"),
    Ahead.after 2 (Ahead.oneOf [Ahead.lifetime, Ahead.mark ">"])]

def startsConstBlock : Ahead := Ahead.followed (Ahead.word "const") (Ahead.group .brace)

/-- The blocks that end a statement by themselves: how each starts, and its reader. -/
def blocks : List (Ahead × Reader Unit) := [
  (Ahead.word "if", g.branches),
  (Ahead.word "while", g.whileLoop),
  (Ahead.allOf [Ahead.word "for", Ahead.noneOf [startsForParameters]], g.forLoop),
  (Ahead.word "loop", g.wordedBody "loop"),
  (Ahead.word "match", g.matching),
  (startsTry, g.tryBlock),
  (Ahead.word "unsafe", g.wordedBody "unsafe"),
  (startsConstBlock, g.wordedBody "const"),
  (Ahead.group .brace, g.body),
  (Ahead.lifetime, g.labelled)]

def readOpenExpression : Reader ExpressionForm := do
  let _ ← g.skipAttributes
  let tokens ← get
  match g.blocks.find? fun block => block.1 tokens with
  | some (_, block) =>
    block
    if ← sees (Ahead.oneOf [Ahead.memberPoint, Ahead.mark "?"]) then
      g.operators true .jump (← g.accesses .block)
    else return .block
  | none => g.expressionWith true

/-! ### Closures -/

def startsAsyncBlock : Ahead :=
  Ahead.followed (Ahead.word "async") <|
    Ahead.oneOf [Ahead.group .brace, Ahead.followed (Ahead.word "move") (Ahead.group .brace)]

def asyncBlock : Reader Unit := do
  word "async"
  let _ ← wordIf "move"
  g.block

def startsClosure : Ahead :=
  Ahead.oneOf [
    Ahead.mark "|",
    Ahead.word "move",
    startsForParameters,
    Ahead.allOf [Ahead.word "const", Ahead.noneOf [startsConstBlock]],
    Ahead.word "static",
    Ahead.followed (Ahead.word "async") (Ahead.oneOf [Ahead.mark "|", Ahead.word "move"])]

def closureArgument : Reader Unit := do
  let _ ← g.skipAttributes
  let _ ← g.pattern
  if ← markIf ":" then g.anyType

def closure (allowsFields : Bool) : Reader Unit := do
  let _ ← g.forParameters
  let _ ← wordIf "const"
  let _ ← wordIf "static"
  let _ ← wordIf "async"
  let _ ← wordIf "move"
  mark "|"
  listUntil (Ahead.mark "|") (mark ",") g.closureArgument
  mark "|"
  if ← markIf "->" then
    g.anyType
    g.block
  else
    let _ ← g.expressionWith allowsFields

/-! ### Paths, groups and jumps -/

/-- A field of a structure with its value; a name alone stands for both. -/
def fieldValue : Reader Unit := do
  let _ ← g.skipAttributes
  let isNamed ← sees Ahead.name
  token (Ahead.oneOf [Ahead.name, startsIndex])
  if !isNamed || Ahead.mark ":" (← get) then
    mark ":"
    g.expression

/-- The fields of a structure, and perhaps a structure that gives the others. -/
def fieldValues : Reader Unit := do
  let _ ← steps (fun isOpen => do
    if !isOpen || (← sees Ahead.finish) then return none
    if ← markIf ".." then
      if !(← sees Ahead.finish) then g.expression
      return some false
    g.fieldValue
    return some (← markIf ",")) true

/-- A path, or a macro or a structure that starts with one. -/
def pathExpression (allowsFields : Bool) : Reader ExpressionForm := do
  let form ← g.anyPath true
  if ← sees (startsInvocation form) then
    return if (← invocation) = .brace then .invocationInBraces else .other
  else if allowsFields && Ahead.group .brace (← get) then
    group .brace g.fieldValues
    return .other
  else return .other

/-- The elements of an array, or one element and a length. -/
def arrayContent : Reader Unit := do
  if ← sees Ahead.finish then return
  g.expression
  if ← markIf ";" then g.expression
  else if ← markIf "," then g.expressionList

/-- What an expression may start with. -/
def startsExpression : Ahead :=
  Ahead.oneOf [Ahead.anyWord, Ahead.group .parenthesis, Ahead.group .bracket, Ahead.group .brace,
    Ahead.literal, Ahead.markBut "!" ["!="], Ahead.markBut "-" ["-=", "->"],
    Ahead.markBut "*" ["*="], Ahead.markBut "|" ["|="], Ahead.markBut "&" ["&="],
    Ahead.mark "..", Ahead.markBut "<" ["<=", "<<="], Ahead.mark "::", Ahead.lifetime,
    Ahead.mark "#"]

/-- A `break`, perhaps with the name of what it ends, and with a value. -/
def breaking (allowsFields : Bool) : Reader Unit := do
  word "break"
  if ← readIf Ahead.lifetime lifetime then
    guard !(← sees (Ahead.mark ":"))
  if ← sees (Ahead.allOf [startsExpression, fun tokens =>
      allowsFields || !Ahead.group .brace tokens]) then g.expression

/-- A jump that may take a value along. -/
def valuedJump : Reader Unit := do
  anyWord
  if ← sees startsExpression then g.expression

/-- A pattern that is tried against a value. -/
def patternTest (allowsFields : Bool) : Reader Unit := do
  word "let"
  g.anyAlternatives
  mark "="
  let _ ← g.operators allowsFields .compare (← g.operand allowsFields)

/-! ### Operands -/

/-- The words and marks with which a path in an expression may start. -/
def startsPathExpression : Ahead :=
  Ahead.oneOf [startsPath,
    Ahead.followed (Ahead.word "try") (Ahead.oneOf [Ahead.mark "!", Ahead.mark "::"])]

/-- The atoms of which the form does not matter: how each starts, and its reader. -/
def simpleAtoms (allowsFields : Bool) : List (Ahead × Reader Unit) := [
  (Ahead.group .parenthesis, group .parenthesis g.expressionList),
  (Ahead.word "break", g.breaking allowsFields),
  (Ahead.word "continue", do
    anyWord
    let _ ← readIf Ahead.lifetime lifetime),
  (Ahead.wordOf ["return", "yield"], g.valuedJump),
  (Ahead.word "become", do
    anyWord
    g.expression),
  (Ahead.group .bracket, group .bracket g.arrayContent),
  (Ahead.word "let", g.patternTest allowsFields),
  (Ahead.word "_", anyWord)]

/-- An operand without signs and accesses. -/
def atom (allowsFields : Bool) : Reader ExpressionForm := do
  let tokens ← get
  if Ahead.literal tokens then
    literal
    return .other
  else if startsAsyncBlock tokens then
    g.asyncBlock
    return .other
  else if startsTry tokens then
    g.tryBlock
    return .other
  else if startsClosure tokens then
    g.closure allowsFields
    return .other
  else if startsBuiltin tokens then
    builtin
    return .other
  else if startsPathExpression tokens then g.pathExpression allowsFields
  else if Ahead.mark ".." tokens then
    g.rangeFromDots allowsFields
    return .range
  else
    match (g.simpleAtoms allowsFields ++ g.blocks).find? fun atom => atom.1 tokens with
    | some (_, atom) =>
      atom
      return .other
    | none => failure

/-- The address of what follows is taken, perhaps as a raw pointer. -/
def addressSign : Reader Unit := do
  mark "&"
  let isRaw ← readIf (Ahead.followed (Ahead.word "raw") (Ahead.wordOf ["mut", "const"])) (word "raw")
  let isMutable ← wordIf "mut"
  if isRaw && !isMutable then word "const"

def readOperand (allowsFields : Bool) : Reader ExpressionForm := do
  let hasAttributes ← g.skipAttributes
  let tokens ← get
  if Ahead.mark "&" tokens then
    addressSign
    let _ ← g.operand allowsFields
    return .other
  else if Ahead.oneOf [Ahead.mark "*", Ahead.mark "!", Ahead.mark "-"] tokens then
    token fun _ => true
    let _ ← g.operand allowsFields
    return .other
  else
    let form ← g.accesses (← g.atom allowsFields)
    guard !(hasAttributes && form = .range)
    return form

end Advent.Derive.Grammar
