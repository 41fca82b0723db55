import Advent.Derive.Grammar.Attributes

/-!
# Paths and bounds

A path is a chain of words with two colons between them, each perhaps with arguments in angles. Among
expressions two colons have to stand before the angles, which else would compare.

A bound is a lifetime, the parameters after `use`, or a path to a trait.
-/
namespace Advent.Derive.Grammar

open Reader

variable (g : Grammar)

/-! ### Arguments -/

/-- A constant as an argument: a literal, a name or a block. -/
def constant : Reader Unit := do
  if ← sees Ahead.literal then literal
  else if ← sees Ahead.name then anyWord
  else g.body

def startsConstant : Ahead :=
  Ahead.oneOf [Ahead.literal, Ahead.group .brace]

/-- Bounds joined by plus marks, up to where `stop` holds. -/
def boundsUntil (stop : Ahead) : Reader Unit :=
  joinedUntil stop "+" g.anyBound

/-- Lifetimes joined by plus marks, up to where `stop` holds. -/
def lifetimesUntil (stop : Ahead) : Reader Unit :=
  joinedUntil stop "+" lifetime

/-- An argument in angles. One word may stand before an equals sign and what it equals, or before a
colon and its bounds. -/
def argument : Reader Unit := do
  if ← sees (Ahead.allOf [Ahead.lifetime, Ahead.noneOf [Ahead.after 1 (Ahead.mark "+")]]) then
    lifetime
  else if ← sees startsConstant then g.constant
  else
    match ← g.type true with
    | .word =>
      if ← markIf "=" then
        if ← sees startsConstant then g.constant else g.anyType
      else if ← markIf ":" then
        g.boundsUntil (Ahead.oneOf [Ahead.mark ",", Ahead.mark ">"])
    | _ => return

/-- Arguments in angles, perhaps behind two colons. -/
def arguments : Reader ArgumentsForm := do
  let _ ← markIf "::"
  return if ← angles g.argument then .empty else .given

/-! ### Paths -/

def startsArguments (inExpression : Bool) : Ahead := fun tokens =>
  !inExpression && Ahead.markBut "<" ["<=", "<<="] tokens ||
    Ahead.mark "::" tokens && Ahead.after 2 (Ahead.mark "<") tokens

/-- A segment of a path. -/
def segment (inExpression : Bool) : Reader ArgumentsForm := do
  if ← sees (Ahead.wordOf ["super", "self", "crate", "try"]) then
    anyWord
    return .absent
  else
    token (Ahead.oneOf [Ahead.name, Ahead.word "Self"])
    if ← sees (startsArguments inExpression) then g.arguments else return .absent

/-- More segments as long as `continues` holds; `form` is that of the path before them. -/
def segments (inExpression : Bool) (continues : Ahead) (form : PathForm) : Reader PathForm :=
  steps (fun form => do
    if ← sees continues then
      mark "::"
      let last ← g.segment inExpression
      return some { form with isSingle := false, isPlain := form.isPlain && last = .absent, last }
    else return none) form

/-- A path without a type at its start. Two colons before parentheses are no part of it. -/
def path (inExpression : Bool) : Reader PathForm := do
  let isGlobal ← markIf "::"
  let last ← g.segment inExpression
  g.segments inExpression
    (Ahead.allOf [Ahead.mark "::", Ahead.noneOf [Ahead.after 2 (Ahead.group .parenthesis)]])
    { isQualified := false, isSingle := !isGlobal, isPlain := last = .absent, last }

/-- A path that may start with a type in angles. -/
def anyPath (inExpression : Bool) : Reader PathForm := do
  if ← markIf "<" then
    g.anyType
    if ← wordIf "as" then
      let _ ← g.path false
    mark ">"
    mark "::"
    let last ← g.segment inExpression
    g.segments inExpression (Ahead.mark "::")
      { isQualified := true, isSingle := false, isPlain := last = .absent, last }
  else g.path inExpression

/-- A mark that makes a macro of a plain path. -/
def startsInvocation (form : PathForm) : Ahead := fun tokens =>
  !form.isQualified && form.isPlain && Ahead.markBut "!" ["!="] tokens

/-- The mark and the arguments of a macro. -/
def invocation : Reader Delimiter := do
  mark "!"
  anyGroup

/-! ### Parameters that bounds bring along -/

/-- A parameter of a definition, its attributes apart; lines may stand for names if `allowsLine`. -/
def parameterContent (allowsLine : Bool) : Reader Unit := do
  if ← readIf Ahead.lifetime lifetime then
    if ← markIf ":" then
      lifetimesUntil (Ahead.oneOf [Ahead.finish, Ahead.mark ",", Ahead.mark ">"])
  else if ← wordIf "const" then
    let _ ← name
    mark ":"
    g.anyType
    if ← markIf "=" then g.constant
  else if allowsLine && (← wordIf "_") then return
  else
    let _ ← name
    if ← markIf ":" then
      g.boundsUntil (Ahead.oneOf [Ahead.finish, Ahead.mark ",", Ahead.mark ">", Ahead.mark "="])
    if ← markIf "=" then g.anyType

def parameter (allowsLine : Bool) : Reader Unit := do
  let _ ← g.skipAttributes
  g.parameterContent allowsLine

/-- The parameters behind `for`, and whether there are any. -/
def forParameters : Reader Bool :=
  readIf (Ahead.word "for") do
    anyWord
    let _ ← angles (g.parameter false)

/-! ### Bounds -/

/-- The type behind an arrow, and whether there is one. -/
def returnType (allowsSum : Bool) : Reader Unit := do
  if ← markIf "->" then
    let _ ← g.type allowsSum

/-- The types of the arguments of a function, and the type of its result. -/
def functionArguments : Reader Unit := do
  group .parenthesis (commaList g.anyType)
  g.returnType false

def startsFunctionArguments : Ahead := fun tokens =>
  Ahead.group .parenthesis tokens ||
    Ahead.mark "::" tokens && Ahead.after 2 (Ahead.group .parenthesis) tokens

/-- A path to a trait, with what may stand before it. A mark that lifts the bound excludes
parameters. -/
def traitBound (allowsConst : Bool) : Reader Unit := do
  let hasParameters ← g.forParameters
  if ← sees (Ahead.group .bracket) then
    guard allowsConst
    group .bracket (word "const")
  else if ← wordIf "const" then guard allowsConst
  let isLifted ← markIf "?"
  guard !(hasParameters && isLifted)
  if isLifted then guard !(← g.forParameters)
  let form ← g.path false
  if form.last ≠ .given && startsFunctionArguments (← get) then
    let _ ← markIf "::"
    g.functionArguments

def readBound (allowsUse allowsConst : Bool) : Reader BoundForm := do
  if ← readIf Ahead.lifetime lifetime then return .lifetime
  else if ← wordIf "use" then
    guard allowsUse
    let _ ← angles (token (Ahead.oneOf [Ahead.lifetime, Ahead.name, Ahead.word "Self"]))
    return .uses
  else if ← sees (Ahead.group .parenthesis) then
    group .parenthesis (g.traitBound allowsConst)
    return .trait
  else
    g.traitBound allowsConst
    return .trait

/-- What may follow a plus mark in a type; otherwise the mark is the last of the type. -/
def startsNextBound (allowsConst : Bool) : Ahead := fun tokens =>
  Ahead.oneOf [Ahead.anyWord, Ahead.mark "::", Ahead.mark "?", Ahead.lifetime,
    Ahead.group .parenthesis] tokens || allowsConst && Ahead.group .bracket tokens

/-- Bounds that make a type, of which one at least is no lifetime and no `use`. Without
`allowsSum` only one is read. -/
def traitBounds (allowsSum allowsUse allowsConst : Bool) : Reader Unit := do
  let (_, hasTrait) ← steps (fun (isOpen, hasTrait) => do
    if !isOpen then return none
    let form ← g.bound allowsUse allowsConst
    let hasTrait := hasTrait || form = .trait
    if allowsSum && (← markIf "+") then
      return some (← sees (startsNextBound allowsConst), hasTrait)
    else return some (false, hasTrait)) (true, false)
  guard hasTrait

end Advent.Derive.Grammar
