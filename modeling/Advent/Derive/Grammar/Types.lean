import Advent.Derive.Grammar.Paths

/-!
# Types

The first token of a type tells its kind. A path may go on as a macro or, where sums count as types,
as a sum of bounds; parentheses may hold one type, several, or the first bound of a sum.
-/
namespace Advent.Derive.Grammar

open Reader

variable (g : Grammar)

/-! ### Functions -/

/-- The last argument of a function that takes any more of them. -/
def openArgument : Reader Unit := do
  if ← sees (Ahead.oneOf [Ahead.name, Ahead.word "_"]) then
    anyWord
    mark ":"
  mark "..."
  let _ ← markIf ","

def startsOpenArgument : Ahead := fun tokens =>
  Ahead.mark "..." tokens ||
    Ahead.allOf [Ahead.oneOf [Ahead.name, Ahead.word "_"], Ahead.after 1 (Ahead.mark ":"),
      Ahead.after 2 (Ahead.mark "...")] tokens

def startsMutableSelf : Ahead :=
  Ahead.followed (Ahead.word "mut") (Ahead.word "self")

/-- An argument of a function type, its attributes apart. The first one may be `mut self`. -/
def typeArgument (isFirst : Bool) : Reader Unit := do
  let isMutable ← readIf (fun tokens => isFirst && startsMutableSelf tokens) (word "mut")
  let isSelf := isFirst && (← sees (Ahead.word "self"))
  let mayBeNamed ← sees (Ahead.oneOf [Ahead.name, Ahead.word "_"])
  let isNamed ← readIf (fun tokens => (mayBeNamed || isSelf) && Ahead.after 1 Ahead.colon tokens) do
    anyWord
    mark ":"
  if isMutable && !isNamed then word "self"
  else if isFirst && !(isNamed && isSelf) && startsMutableSelf (← get) then
    anyWord
    anyWord
  else g.anyType

/-- The arguments of a function type. -/
def typeArguments : Reader Unit := do
  let _ ← steps (fun (isOpen, isFirst) => do
    if !isOpen || (← sees Ahead.finish) then return none
    let _ ← g.skipAttributes
    if ← sees startsOpenArgument then
      openArgument
      return some (false, false)
    g.typeArgument isFirst
    return some (← markIf ",", false)) (true, true)

/-- The linkage of a function: the word for it and perhaps its name. -/
def linkage : Reader Unit := do
  word "extern"
  let _ ← readIf Ahead.stringLiteral literal

def functionType : Reader Unit := do
  let _ ← wordIf "unsafe"
  let _ ← readIf (Ahead.word "extern") linkage
  word "fn"
  group .parenthesis g.typeArguments
  g.returnType false

/-! ### Sums of bounds -/

/-- More bounds of a sum, each after a plus mark. -/
def furtherBounds : Reader Unit :=
  readWhile (Ahead.mark "+") do
    mark "+"
    let _ ← g.bound false false

/-- More bounds of a sum that starts with a path; a plus mark may be the last of it. Gives whether
there is any plus mark. -/
def boundsAfterPath : Reader Bool := do
  let isSum ← sees (Ahead.mark "+")
  readWhile (Ahead.mark "+") do
    mark "+"
    if ← sees (startsNextBound false) then
      let _ ← g.bound false false
  return isSum

/-! ### Kinds of types -/

/-- A type that starts with a path. -/
def pathType (allowsSum hasParameters : Bool) : Reader TypeForm := do
  let form ← g.anyPath false
  if form.isQualified then return .other
  else if ← sees (startsInvocation form) then
    let _ ← invocation
    return .other
  else if hasParameters || allowsSum && Ahead.mark "+" (← get) then
    if allowsSum then return if ← g.boundsAfterPath then .other else .bound
    else return .bound
  else return if form.isSingle then .word else .path

/-- What parentheses around types may hold. -/
inductive Enclosed
  /-- None or several types, or a sum that starts with a lifetime. -/
  | closed
  /-- A bound that may be dropped. -/
  | liftedBound
  | one (form : TypeForm)

def enclosedTypes : Reader Enclosed := do
  if ← sees Ahead.finish then return .closed
  else if ← sees Ahead.lifetime then
    g.traitBounds true false false
    return .closed
  else if ← sees (Ahead.mark "?") then
    g.traitBound false
    return .liftedBound
  else
    let form ← g.type true
    if ← markIf "," then
      commaList g.anyType
      return .closed
    else return .one form

def parenthesizedType (allowsSum : Bool) : Reader TypeForm := do
  match ← group .parenthesis g.enclosedTypes with
  | .closed => return .other
  | .liftedBound =>
    let isSum ← sees (Ahead.mark "+")
    g.furtherBounds
    return if isSum then .other else .bound
  | .one form =>
    if allowsSum && form ≠ .other then g.furtherBounds
    return .other

/-- A type in brackets, perhaps with a length. -/
def bracketedType : Reader Unit :=
  group .bracket do
    g.anyType
    if ← markIf ";" then g.expression

/-- A construct of the compiler: its name and any tokens. -/
def builtin : Reader Unit := do
  anyWord
  mark "#"
  let _ ← name
  let _ ← group .parenthesis everything

def startsBuiltin : Ahead :=
  Ahead.followed (Ahead.word "builtin") (Ahead.mark "#")

/-- The words other than names with which a path may start. -/
def pathWords : List String := ["self", "Self", "super", "crate"]

def startsPath : Ahead :=
  Ahead.oneOf [Ahead.name, Ahead.wordOf pathWords, Ahead.mark "::", Ahead.mark "<"]

def readType (allowsSum : Bool) : Reader TypeForm := do
  let hasParameters ← g.forParameters
  let tokens ← get
  if hasParameters then
    guard (Ahead.oneOf [Ahead.name, Ahead.wordOf (["fn", "unsafe", "extern"] ++ pathWords)] tokens)
  if Ahead.group .parenthesis tokens then g.parenthesizedType allowsSum
  else if Ahead.wordOf ["fn", "unsafe", "extern"] tokens then
    g.functionType
    return .other
  else if startsBuiltin tokens then
    builtin
    return .other
  else if startsPath tokens then g.pathType allowsSum hasParameters
  else if Ahead.word "dyn" tokens then
    anyWord
    let _ ← markIf "*"
    g.traitBounds allowsSum false false
    return .other
  else if Ahead.group .bracket tokens then
    g.bracketedType
    return .other
  else if ← markIf "*" then
    token (Ahead.wordOf ["const", "mut"])
    g.plainType
    return .other
  else if ← markIf "&" then
    let _ ← readIf Ahead.lifetime lifetime
    let _ ← wordIf "mut"
    g.plainType
    return .other
  else if ← markIf "!" then return .other
  else if ← wordIf "impl" then
    g.traitBounds allowsSum true true
    return .other
  else if ← wordIf "_" then return .other
  else
    guard (Ahead.lifetime tokens)
    g.traitBounds true false false
    return .other

end Advent.Derive.Grammar
