import Advent.Derive.Grammar.Types

/-!
# Patterns

A pattern is tried against a value. Alternatives have a bar between them, and perhaps one before the
first; a range has an end on either side or on both.
-/
namespace Advent.Derive.Grammar

open Reader

variable (g : Grammar)

/-! ### Alternatives -/

/-- A bar between alternatives. -/
def alternativeBar : Ahead := Ahead.markBut "|" ["||", "|="]

/-- One pattern or several alternatives. -/
def alternatives : Reader PatternForm := do
  let hasBar ← markIf "|"
  let form ← g.pattern
  let isSeveral ← sees alternativeBar
  readWhile alternativeBar do
    mark "|"
    let _ ← g.pattern
  return if hasBar || isSeveral then .other else form

def anyAlternatives : Reader Unit := do
  let _ ← g.alternatives

/-! ### Ranges -/

/-- Where an end of a range is left out. -/
def lacksBound : Ahead :=
  Ahead.oneOf [Ahead.finish, Ahead.mark "|", Ahead.mark "=", Ahead.colon, Ahead.mark ",",
    Ahead.mark ";", Ahead.word "if"]

/-- An end of a range, and whether there is one. -/
def rangeBound : Reader Bool := do
  if ← sees lacksBound then return false
  else if ← sees Ahead.literal then literal
  else if ← sees startsPath then
    let _ ← g.anyPath true
  else
    word "const"
    g.body
  return true

/-- The dots of a range in a pattern, and whether its end belongs to it. -/
def patternDots : Reader Bool := do
  if ← markIf "..=" then return true
  else if ← markIf "..." then return true
  else
    mark ".."
    return false

/-- What follows the start of a range. -/
def rangeAfterStart : Reader PatternForm := do
  let isClosed ← patternDots
  let hasEnd ← g.rangeBound
  guard (hasEnd || !isClosed)
  return if hasEnd then .other else .openRange

/-- A range without a start; two dots alone stand for the rest. -/
def rangeWithoutStart : Reader PatternForm := do
  let isClosed ← markIf "..="
  if !isClosed then mark ".."
  if ← g.rangeBound then return .openRange
  else
    guard !isClosed
    return .other

/-! ### Fields and elements -/

/-- The index of a field without a name: a whole number below 2³² without a suffix. -/
def startsIndex : Ahead
  | .literal (.integer value false) _ :: _ => value < 1 <<< 32
  | _ => false

/-- A field in a pattern. A name alone stands for itself; it may have words before it. -/
def fieldPattern : Reader Unit := do
  let isBoxed ← wordIf "box"
  let isReference ← wordIf "ref"
  let isMutable ← wordIf "mut"
  if isBoxed || isReference || isMutable then
    let _ ← name
  else
    let isNamed ← sees Ahead.name
    token (Ahead.oneOf [Ahead.name, startsIndex])
    if !isNamed || Ahead.mark ":" (← get) then
      mark ":"
      g.anyAlternatives

/-- The fields in a pattern; two dots after them stand for the others. -/
def fieldPatterns : Reader Unit := do
  let _ ← steps (fun isOpen => do
    if !isOpen || (← sees Ahead.finish) then return none
    let _ ← g.skipAttributes
    if ← markIf ".." then return some false
    g.fieldPattern
    return some (← markIf ",")) true

/-- An element of a slice; a range that lacks an end needs parentheses there. -/
def sliceElement : Reader Unit := do
  guard ((← g.alternatives) ≠ .openRange)

/-! ### Kinds of patterns -/

/-- What tells that a name is the start of a path, a macro or a range, and not a binding. -/
def startsPathPattern : Ahead :=
  Ahead.oneOf [
    Ahead.followed Ahead.name
      (Ahead.oneOf [Ahead.mark "::", Ahead.mark "!", Ahead.group .brace, Ahead.group .parenthesis,
        Ahead.mark ".."]),
    Ahead.followed (Ahead.word "self") (Ahead.mark "::"),
    Ahead.mark "::",
    Ahead.mark "<",
    Ahead.wordOf ["Self", "super", "crate"]]

/-- A pattern that starts with a path. -/
def pathPattern : Reader PatternForm := do
  let form ← g.anyPath true
  if ← sees (startsInvocation form) then
    let _ ← invocation
    return .other
  else if ← sees (Ahead.group .brace) then
    group .brace g.fieldPatterns
    return .other
  else if ← sees (Ahead.group .parenthesis) then
    group .parenthesis (commaList g.anyAlternatives)
    return .other
  else if ← sees (Ahead.mark "..") then g.rangeAfterStart
  else return .other

/-- A name that gets the value, and perhaps a pattern for the value after it. -/
def binding : Reader PatternForm := do
  let _ ← wordIf "ref"
  let _ ← wordIf "mut"
  token (Ahead.oneOf [Ahead.name, Ahead.word "self"])
  if ← markIf "@" then
    let _ ← g.pattern
  return .other

def readPattern : Reader PatternForm := do
  let tokens ← get
  if startsPathPattern tokens then g.pathPattern
  else if ← wordIf "_" then return .other
  else if ← wordIf "box" then
    let _ ← g.pattern
    return .other
  else if Ahead.oneOf [Ahead.mark "-", Ahead.literal, Ahead.word "const"] tokens then
    let _ ← g.rangeBound
    if ← sees (Ahead.mark "..") then g.rangeAfterStart else return .other
  else if Ahead.oneOf [Ahead.name, Ahead.wordOf ["ref", "mut", "self"]] tokens then g.binding
  else if ← markIf "&" then
    let _ ← wordIf "mut"
    let _ ← g.pattern
    return .other
  else if Ahead.group .parenthesis tokens then
    group .parenthesis (commaList g.anyAlternatives)
    return .other
  else if Ahead.group .bracket tokens then
    group .bracket (commaList g.sliceElement)
    return .other
  else
    guard (Ahead.markBut ".." ["..."] tokens)
    g.rangeWithoutStart

end Advent.Derive.Grammar
