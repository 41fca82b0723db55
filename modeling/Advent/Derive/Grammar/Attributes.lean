import Advent.Derive.Grammar.Basic

/-!
# Attributes and visibility

An attribute is a path in brackets, perhaps with a group or with a value behind an equals sign. The
path names the attribute if it is one word.
-/
namespace Advent.Derive

inductive AttributeArguments
  | none
  | value
  | list (body : List Token)
  deriving Repr

/-- An attribute with the name that makes its path; longer paths have no name. -/
structure Attribute where
  name : Option String
  arguments : AttributeArguments
  deriving Repr

namespace Reader

/-- What a segment of a path without arguments starts with. -/
def startsPlainSegment : Ahead :=
  Ahead.oneOf [Ahead.name, Ahead.wordOf ["super", "self", "Self", "crate"]]

/-- A path without arguments; gives its text if it is one word. -/
def plainPath : Reader (Option String) := do
  let isGlobal ← markIf "::"
  let first ← get
  token startsPlainSegment
  let isLonger ← sees (Ahead.mark "::")
  readWhile (Ahead.mark "::") do
    mark "::"
    token startsPlainSegment
  match first with
  | .ident name :: _ => return if isGlobal || isLonger then none else some name
  | _ => return none

end Reader

namespace Grammar

open Reader

variable (g : Grammar)

/-- The value of an attribute: a literal and nothing after it, or an expression that does not start
with an attribute. -/
def attributeValue : Reader Unit := do
  let tokens ← get
  match (if Ahead.literal tokens then literal tokens else none) with
  | some (_, []) => literal
  | _ =>
    guard !(Ahead.followed (Ahead.mark "#") (Ahead.group .bracket) tokens)
    g.expression

/-- What stands in the brackets of an attribute. -/
def attributeContent : Reader Attribute := do
  let name ←
    if ← sees (Ahead.word "unsafe") then
      anyWord
      pure (some "unsafe")
    else plainPath
  match ← get with
  | .group _ body :: _ =>
    let _ ← anyGroup
    return ⟨name, .list body⟩
  | _ =>
    if ← markIf "=" then
      g.attributeValue
      return ⟨name, .value⟩
    else return ⟨name, .none⟩

/-- The attributes before something, the first one first. -/
def attributes : Reader (List Attribute) := do
  let latestFirst ← steps (fun before => do
    if ← markIf "#" then return some ((← group .bracket g.attributeContent) :: before)
    else return none) []
  return latestFirst.reverse

/-- Skips the attributes before something, and tells whether there were any. -/
def skipAttributes : Reader Bool := return !(← g.attributes).isEmpty

/-- Skips the attributes that stand inside of what they belong to. -/
def skipInnerAttributes : Reader Unit :=
  readWhile (Ahead.followed (Ahead.mark "#") (Ahead.mark "!")) do
    mark "#"
    mark "!"
    let _ ← group .bracket g.attributeContent

/-- A block with attributes inside. -/
def body : Reader Unit :=
  group .brace do
    g.skipInnerAttributes
    g.statements

end Grammar

namespace Reader

/-- The parentheses that limit a visibility, if the words in them do so. -/
def visibilityLimit : Reader Unit := do
  match ← get with
  | .group .parenthesis [.ident word] :: _ =>
    if word ∈ ["crate", "self", "super"] then
      let _ ← anyGroup
  | .group .parenthesis (.ident "in" :: _) :: _ =>
    group .parenthesis do
      anyWord
      let _ ← plainPath
  | _ => return

/-- The visibility, and whether one is given. -/
def visibility : Reader Bool := do
  if ← wordIf "pub" then
    visibilityLimit
    return true
  else return false

end Reader

end Advent.Derive
