import Advent.Derive.Grammar.Definitions

/-!
# Statements

A statement is a local name with its value, a definition, a macro or an expression. A semicolon ends
an expression unless it is a block or the last statement.
-/
namespace Advent.Derive.Grammar

open Reader

variable (g : Grammar)

/-! ### What a statement starts with -/

/-- The tokens after a path without arguments, if the exclamation mark of a macro comes there. -/
def macroAhead? (tokens : List Token) : Option (List Token) := do
  let (_, rest) ← plainPath tokens
  guard (Ahead.mark "!" rest)
  return rest

/-- A macro with a name behind it, which is a definition. -/
def startsNamedMacro : Ahead := fun tokens =>
  (macroAhead? tokens).any <|
    Ahead.after 1 (Ahead.oneOf [Ahead.name, Ahead.word "try"])

/-- A macro in braces to which no access is made. -/
def startsBracedMacro : Ahead := fun tokens =>
  (macroAhead? tokens).any <|
    Ahead.after 1 <| Ahead.followed (Ahead.group .brace) <|
      Ahead.noneOf [Ahead.memberPoint, Ahead.mark "?"]

/-- A constant, and neither a block nor a closure. -/
def startsConstantDefinition : Ahead :=
  Ahead.followed (Ahead.word "const") <|
    Ahead.noneOf [
      Ahead.group .brace,
      Ahead.wordOf ["static", "move"],
      Ahead.mark "|",
      Ahead.followed (Ahead.word "async") (Ahead.noneOf [Ahead.wordOf ["unsafe", "extern", "fn"]])]

def startsDefinition : Ahead :=
  Ahead.oneOf [
    Ahead.wordOf ["pub", "extern", "use", "fn", "mod", "type", "struct", "enum", "trait", "impl",
      "macro"],
    Ahead.allOf [Ahead.word "crate", Ahead.noneOf [Ahead.after 1 (Ahead.mark "::")]],
    Ahead.followed (Ahead.word "static") (Ahead.oneOf [Ahead.word "mut", Ahead.name]),
    startsConstantDefinition,
    Ahead.allOf [Ahead.word "unsafe", Ahead.noneOf [Ahead.after 1 (Ahead.group .brace)]],
    Ahead.followed (Ahead.word "async") (Ahead.wordOf ["unsafe", "extern", "fn"]),
    Ahead.followed (Ahead.word "union") Ahead.name,
    startsAutoTrait,
    Ahead.followed (Ahead.word "default") (Ahead.wordOf ["unsafe", "impl"]),
    startsNamedMacro]

/-! ### Statements -/

/-- What happens where the pattern of a local name does not match. -/
def otherwise (endsInBraces : Bool) : Reader Unit := do
  if !endsInBraces then
    if ← wordIf "else" then g.block

/-- A local name with its type and its value. -/
def localDefinition : Reader Unit := do
  word "let"
  let _ ← g.pattern
  if ← markIf ":" then g.anyType
  if ← markIf "=" then g.otherwise (← endsInBraces g.expression)
  mark ";"

/-- A statement; gives whether it has to be the last. -/
def statement : Reader Bool := do
  let _ ← g.skipAttributes
  let tokens ← get
  if startsBracedMacro tokens then
    let _ ← plainPath
    let _ ← invocation
    let _ ← markIf ";"
    return false
  else if Ahead.word "let" tokens then
    g.localDefinition
    return false
  else if startsDefinition tokens then
    g.definitionContent
    return false
  else
    let form ← g.openExpression
    let isEnded ← markIf ";"
    return !isEnded && form ≠ .block && form ≠ .invocationInBraces

def readStatements : Reader Unit := do
  let _ ← steps (fun isLast => do
    if ← sees Ahead.finish then return none
    guard !isLast
    if ← markIf ";" then return some false
    return some (← g.statement)) false

end Advent.Derive.Grammar
