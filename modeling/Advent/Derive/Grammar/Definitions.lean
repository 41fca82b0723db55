import Advent.Derive.Grammar.Data
import Advent.Derive.Grammar.Expressions

/-!
# Definitions

What may be defined within a block or a module: functions, data, constants, modules, traits and their
implementations, macros, and names that are brought in from elsewhere.
-/
namespace Advent.Derive.Grammar

open Reader

variable (g : Grammar)

/-! ### Functions -/

/-- The tokens after a word, if it comes next. -/
def dropWord (word : String) (tokens : List Token) : List Token :=
  if Ahead.word word tokens then tokens.drop 1 else tokens

/-- The tokens after a linkage, if one comes next. -/
def dropLinkage (tokens : List Token) : List Token :=
  if Ahead.followed (Ahead.word "extern") Ahead.stringLiteral tokens then tokens.drop 2
  else dropWord "extern" tokens

/-- A function with the words before it; `safe` is one of them where it is allowed. -/
def startsFunction (allowsSafe : Bool) : Ahead := fun tokens =>
  let tokens := dropWord "async" (dropWord "const" tokens)
  let tokens :=
    if allowsSafe && Ahead.word "safe" tokens then tokens.drop 1 else dropWord "unsafe" tokens
  Ahead.word "fn" (dropLinkage tokens)

/-- What tells that `self` starts a pattern and a type of their own. -/
def startsPlainSelf : Ahead :=
  Ahead.oneOf [Ahead.mark "::", Ahead.allOf [Ahead.mark ":", Ahead.after 1 (Ahead.mark "...")]]

/-- The value that a method is called on, perhaps by reference. -/
def startsReceiver : Ahead := fun tokens =>
  if Ahead.mark "&" tokens then
    let tokens := tokens.drop 1
    let tokens := if Ahead.lifetime tokens then tokens.drop 1 else tokens
    Ahead.word "self" (dropWord "mut" tokens)
  else
    Ahead.followed (Ahead.word "self") (Ahead.noneOf [startsPlainSelf]) (dropWord "mut" tokens)

def receiver : Reader Unit := do
  if ← markIf "&" then
    let _ ← readIf Ahead.lifetime lifetime
    let _ ← wordIf "mut"
    word "self"
  else
    let _ ← wordIf "mut"
    word "self"
    if ← markIf ":" then g.anyType

/-- An argument other than a receiver; gives whether it takes any more arguments. -/
def plainArgument : Reader Bool := do
  if ← sees (Ahead.followed Ahead.name (Ahead.mark "<")) then
    g.anyType
    return false
  else
    let _ ← g.pattern
    mark ":"
    if ← markIf "..." then return true
    g.anyType
    return false

/-- The arguments of a function. Only the first may be a receiver, and dots only the last. -/
def functionParameters : Reader Unit := do
  let _ ← steps (fun (isOpen, isFirst) => do
    if !isOpen || (← sees Ahead.finish) then return none
    let _ ← g.skipAttributes
    let isLast ←
      if ← markIf "..." then pure true
      else if ← sees startsReceiver then
        guard isFirst
        g.receiver
        pure false
      else g.plainArgument
    return some ((← markIf ",") && !isLast, false)) (true, true)

/-- A function up to its body, the words before it included. -/
def signature (allowsSafe : Bool) : Reader Unit := do
  let _ ← wordIf "const"
  let _ ← wordIf "async"
  let isUnsafe ← wordIf "unsafe"
  let _ ← readIf (fun tokens => allowsSafe && !isUnsafe && Ahead.word "safe" tokens) (word "safe")
  let _ ← readIf (Ahead.word "extern") linkage
  word "fn"
  let _ ← name
  g.parameters
  group .parenthesis g.functionParameters
  g.returnType true
  let _ ← g.whereConditions

/-- A semicolon, or a body in its place. -/
def bodyOrSemicolon : Reader Unit := do
  if !(← markIf ";") then g.body

/-! ### Types, constants and statics -/

/-- Where the conditions of a type's name stand: before the type it stands for, after it, or at
either place. -/
inductive ConditionPlace
  | beforeType
  | afterType
  | either
  deriving Repr, DecidableEq

/-- A name for a type, from the word for it on. -/
def typeName (place : ConditionPlace) : Reader Unit := do
  word "type"
  let _ ← name
  g.parameters
  if ← markIf ":" then
    let stop := Ahead.oneOf [Ahead.word "where", Ahead.mark "=", Ahead.mark ";"]
    listUntil stop (mark "+") g.anyBound
  let hasConditions ← if place = .afterType then pure false else g.whereConditions
  if ← markIf "=" then g.anyType
  if place ≠ .beforeType && !hasConditions then
    let _ ← g.whereConditions
  mark ";"

/-- A constant, from the word for it on. -/
def constantDefinition : Reader Unit := do
  word "const"
  nameOrLine
  g.parameters
  mark ":"
  g.anyType
  if ← markIf "=" then g.expression
  let _ ← g.whereConditions
  mark ";"

/-- A static, from the word for it on; its type or its value may be missing, but not both. -/
def staticDefinition : Reader Unit := do
  word "static"
  let _ ← wordIf "mut"
  let _ ← name
  if ← markIf "=" then g.expression
  else
    mark ":"
    g.anyType
    if ← markIf "=" then g.expression
  mark ";"

/-- A static that is defined elsewhere, with a type in any case. -/
def foreignStatic : Reader Unit := do
  if !(← wordIf "unsafe") then
    let _ ← wordIf "safe"
  word "static"
  let _ ← wordIf "mut"
  let _ ← name
  mark ":"
  g.anyType
  if ← markIf "=" then g.expression
  mark ";"

/-! ### Macros -/

/-- A macro in place of a definition. Arguments that are not in braces have a semicolon after them.
A name may stand before the arguments if `allowsName`. -/
def macroUse (allowsName : Bool) : Reader Unit := do
  let _ ← plainPath
  mark "!"
  if allowsName then
    let _ ← readIf (Ahead.oneOf [Ahead.name, Ahead.word "try"]) anyWord
  if (← anyGroup) ≠ .brace then mark ";"

/-- A macro with its parameters and its content in any tokens. -/
def macroDefinition : Reader Unit := do
  word "macro"
  let _ ← name
  if ← sees (Ahead.group .parenthesis) then
    let _ ← anyGroup
  let _ ← group .brace everything

/-! ### Names from elsewhere -/

/-- A name that stands for another, or a line for none. -/
def newName : Reader Unit := do
  if ← wordIf "as" then nameOrLine

def readUseTree (allowsRoot : Bool) : Reader Unit := do
  if ← markIf "*" then return
  else if ← sees (Ahead.group .brace) then
    group .brace <| commaList do
      let isRoot ← readIf (fun tokens => allowsRoot && Ahead.mark "::" tokens) (mark "::")
      g.useTree (allowsRoot && !isRoot)
  else
    token (Ahead.oneOf [Ahead.name, Ahead.wordOf ["self", "super", "crate", "try"]])
    if ← markIf "::" then g.useTree false else newName

def useDefinition : Reader Unit := do
  word "use"
  let isRoot ← markIf "::"
  g.useTree !isRoot
  mark ";"

/-- A library that is brought in. -/
def libraryDefinition : Reader Unit := do
  word "extern"
  word "crate"
  token (Ahead.oneOf [Ahead.name, Ahead.word "self"])
  newName
  mark ";"

/-! ### Members of blocks -/

/-- Items in braces, with attributes inside. -/
def members (item : Reader Unit) : Reader Unit :=
  group .brace do
    g.skipInnerAttributes
    readWhile (Ahead.noneOf [Ahead.finish]) item

/-- What a macro in place of a definition starts with. -/
def startsMacroUse : Ahead :=
  Ahead.oneOf [Ahead.name, Ahead.wordOf ["self", "super", "crate"], Ahead.mark "::"]

/-- The start of a static that is defined elsewhere. -/
def startsForeignStatic : Ahead :=
  Ahead.oneOf [Ahead.word "static",
    Ahead.followed (Ahead.wordOf ["unsafe", "safe"]) (Ahead.word "static")]

/-- Something that is defined elsewhere. -/
def foreignItem : Reader Unit := do
  let _ ← g.skipAttributes
  let isVisible ← visibility
  if ← sees (startsFunction true) then
    g.signature true
    g.bodyOrSemicolon
  else if ← sees startsForeignStatic then g.foreignStatic
  else if ← sees (Ahead.word "type") then g.typeName .either
  else
    guard (!isVisible && startsMacroUse (← get))
    macroUse false

/-- An item of a trait. -/
def traitItem : Reader Unit := do
  let _ ← g.skipAttributes
  let isVisible ← visibility
  let isDefault ← wordIf "default"
  if ← sees (startsFunction false) then
    g.signature false
    g.bodyOrSemicolon
  else if ← sees (Ahead.word "const") then g.constantDefinition
  else if ← sees (Ahead.word "type") then g.typeName .afterType
  else
    guard (!isVisible && !isDefault && startsMacroUse (← get))
    macroUse false

/-- The word before an item that may be replaced; a macro may have its name. -/
def defaultWord : Ahead :=
  Ahead.allOf [Ahead.word "default", Ahead.noneOf [Ahead.after 1 (Ahead.mark "!")]]

/-- An item of an implementation. -/
def implementationItem : Reader Unit := do
  let _ ← g.skipAttributes
  let isVisible ← visibility
  let isDefault ← readIf defaultWord anyWord
  if ← sees (startsFunction false) then
    g.signature false
    g.bodyOrSemicolon
  else if ← sees (Ahead.word "const") then g.constantDefinition
  else if ← sees (Ahead.word "type") then g.typeName .afterType
  else
    guard (!isVisible && !isDefault && startsMacroUse (← get))
    macroUse false

/-! ### Blocks of definitions -/

/-- Definitions that are linked in. -/
def foreignBlock : Reader Unit := do
  let _ ← wordIf "unsafe"
  linkage
  g.members g.foreignItem

/-- A module, its content or a semicolon in its place. -/
def moduleDefinition : Reader Unit := do
  let _ ← wordIf "unsafe"
  word "mod"
  token (Ahead.oneOf [Ahead.name, Ahead.word "try"])
  if !(← markIf ";") then g.members g.definition

/-- What follows the parameters of a trait: the traits above it, conditions and items. -/
def traitContent : Reader Unit := do
  if ← markIf ":" then
    listUntil (Ahead.oneOf [Ahead.word "where", Ahead.group .brace]) (mark "+") g.anyBound
  let _ ← g.whereConditions
  g.members g.traitItem

/-- A trait, or a name for a sum of bounds if no word stands before it. -/
def traitDefinition : Reader Unit := do
  let isUnsafe ← wordIf "unsafe"
  let isAuto ← wordIf "auto"
  word "trait"
  let _ ← name
  g.parameters
  if ← readIf (fun tokens => !isUnsafe && !isAuto && Ahead.mark "=" tokens) (mark "=") then
    joinedUntil (Ahead.oneOf [Ahead.word "where", Ahead.mark ";"]) "+" do
      let _ ← g.bound false false
    let _ ← g.whereConditions
    mark ";"
  else g.traitContent

/-- An implementation: of a type, or of a trait for a type. Only the latter may be negative. -/
def implementation : Reader Unit := do
  let _ ← wordIf "default"
  let _ ← wordIf "unsafe"
  word "impl"
  if ← sees startsParameters then g.parameters
  let _ ← readIf (Ahead.followed (Ahead.mark "?") (Ahead.word "const")) (mark "?")
  let _ ← wordIf "const"
  let isNegative ←
    readIf (Ahead.allOf [Ahead.mark "!", Ahead.noneOf [Ahead.after 1 (Ahead.group .brace)]]) (mark "!")
  g.anyType
  if ← wordIf "for" then g.anyType else guard !isNegative
  let _ ← g.whereConditions
  g.members g.implementationItem

/-! ### All definitions -/

def startsAutoTrait : Ahead := Ahead.followed (Ahead.word "auto") (Ahead.word "trait")

/-- The definitions that a visibility may stand before: how each starts, and its reader. -/
def visibleDefinitions : List (Ahead × Reader Unit) := [
  (startsFunction false, do
    g.signature false
    g.bodyOrSemicolon),
  (Ahead.followed (Ahead.word "extern") (Ahead.word "crate"), libraryDefinition),
  (Ahead.word "use", g.useDefinition),
  (Ahead.word "static", g.staticDefinition),
  (Ahead.word "const", g.constantDefinition),
  (Ahead.oneOf [Ahead.word "mod", Ahead.followed (Ahead.word "unsafe") (Ahead.word "mod")],
    g.moduleDefinition),
  (Ahead.word "type", g.typeName .beforeType),
  (Ahead.oneOf [Ahead.wordOf ["struct", "enum"], Ahead.followed (Ahead.word "union") Ahead.name], do
    let _ ← g.dataDefinition),
  (Ahead.oneOf [Ahead.word "trait", startsAutoTrait,
      Ahead.followed (Ahead.word "unsafe") (Ahead.oneOf [Ahead.word "trait", startsAutoTrait])],
    g.traitDefinition),
  (Ahead.oneOf [Ahead.word "impl", defaultWord,
      Ahead.followed (Ahead.word "unsafe") (Ahead.word "impl")],
    g.implementation),
  (Ahead.word "macro", macroDefinition)]

/-- The start of a block of definitions that are linked in. -/
def startsForeignBlock : Ahead := fun tokens =>
  Ahead.word "extern" tokens && Ahead.group .brace (dropLinkage tokens) ||
    Ahead.followed (Ahead.word "unsafe") (Ahead.word "extern") tokens

/-- A definition, its attributes apart. -/
def definitionContent : Reader Unit := do
  let isVisible ← visibility
  let tokens ← get
  match g.visibleDefinitions.find? fun definition => definition.1 tokens with
  | some (_, definition) => definition
  | none =>
    guard !isVisible
    if startsForeignBlock tokens then g.foreignBlock
    else
      guard (startsMacroUse tokens)
      macroUse true

def readDefinition : Reader Unit := do
  let _ ← g.skipAttributes
  g.definitionContent

end Advent.Derive.Grammar
