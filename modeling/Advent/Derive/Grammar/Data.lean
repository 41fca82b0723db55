import Advent.Derive.Grammar.Types

/-!
# Data definitions

A structure, an enumeration or a union: its name, its parameters, the conditions on them, and its
fields or variants.
-/
namespace Advent.Derive.Grammar

open Reader

variable (g : Grammar)

/-! ### Parameters and conditions -/

/-- The parameters of a definition, if it has any. -/
def parameters : Reader Unit := do
  if ← sees (Ahead.mark "<") then
    let _ ← angles (g.parameter true)

/-- What tells that an angle opens parameters, and not a path that starts with a type. -/
def startsParameters : Ahead :=
  Ahead.followed (Ahead.mark "<") <|
    Ahead.oneOf [
      Ahead.mark ">",
      Ahead.mark "#",
      Ahead.word "const",
      Ahead.followed (Ahead.oneOf [Ahead.lifetime, Ahead.name])
        (Ahead.oneOf [Ahead.mark ">", Ahead.mark ",", Ahead.colon, Ahead.mark "="])]

/-- Where the bounds of a condition end at the latest. -/
def endsCondition : Ahead :=
  Ahead.oneOf [Ahead.finish, Ahead.group .brace, Ahead.mark ",", Ahead.mark ";", Ahead.colon,
    Ahead.mark "="]

/-- A condition: a lifetime or a type, and its bounds. -/
def whereCondition : Reader Unit := do
  if ← sees (Ahead.followed Ahead.lifetime (Ahead.mark ":")) then
    lifetime
    mark ":"
    lifetimesUntil endsCondition
  else
    let _ ← g.forParameters
    g.anyType
    mark ":"
    g.boundsUntil endsCondition

/-- The conditions on parameters, and whether there are any. -/
def whereConditions : Reader Bool :=
  readIf (Ahead.word "where") do
    anyWord
    guard !(← sees startsParameters)
    let _ ← steps (fun isOpen => do
      if !isOpen || endsCondition (← get) then return none
      g.whereCondition
      return some (← markIf ",")) true

/-! ### Fields and variants -/

/-- A field without a name. -/
def tupleField : Reader Unit := do
  let _ ← g.skipAttributes
  let _ ← visibility
  g.anyType

def tupleFields : Reader Unit := group .parenthesis (commaList g.tupleField)

/-- A field with a name. A field whose name is a line may have fields of its own. -/
def namedField : Reader Unit := do
  let _ ← g.skipAttributes
  let _ ← visibility
  let isLine ← sees (Ahead.word "_")
  nameOrLine
  mark ":"
  let hasFields := Ahead.oneOf [Ahead.word "struct",
    Ahead.followed (Ahead.word "union") (Ahead.group .brace)]
  if isLine && hasFields (← get) then
    anyWord
    g.fields
  else g.anyType

def readFields : Reader Unit := group .brace (commaList g.namedField)

/-- The fields of a variant, if it has any. -/
def variantFields : Reader Unit := do
  if ← sees (Ahead.group .brace) then g.fields
  else if ← sees (Ahead.group .parenthesis) then g.tupleFields

def variant : Reader Unit := do
  let _ ← g.skipAttributes
  let _ ← visibility
  let _ ← name
  g.variantFields
  if ← markIf "=" then g.expression

/-! ### Definitions -/

/-- What follows the parameters of a structure. -/
def structureContent : Reader Unit := do
  let hasConditions ← g.whereConditions
  if !hasConditions && Ahead.group .parenthesis (← get) then
    g.tupleFields
    let _ ← g.whereConditions
    mark ";"
  else if ← sees (Ahead.group .brace) then g.fields
  else mark ";"

def enumerationContent : Reader Unit := do
  let _ ← g.whereConditions
  group .brace (commaList g.variant)

def unionContent : Reader Unit := do
  let _ ← g.whereConditions
  g.fields

/-- A definition of a kind of data; gives its name. -/
def dataDefinition : Reader String := do
  let content ←
    if ← wordIf "struct" then pure g.structureContent
    else if ← wordIf "enum" then pure g.enumerationContent
    else
      word "union"
      pure g.unionContent
  let name ← name
  g.parameters
  content
  return name

end Advent.Derive.Grammar
