import Advent.Derive.Token

/-!
# Readers of tokens

A reader takes tokens off the front of a list and gives what it made of them, or fails. A condition
looks at the tokens that come next and takes none. Readers decide by conditions and never go back,
so the tokens are read once. A group has to be read to its end.
-/
namespace Advent.Derive

/-! ### What comes next -/

/-- A condition on the tokens that come next. -/
abbrev Ahead := List Token → Bool

/-- The words that name nothing. -/
def keywords : List String := [
  "_", "abstract", "as", "async", "await", "become", "box", "break", "const", "continue", "crate",
  "do", "dyn", "else", "enum", "extern", "false", "final", "fn", "for", "if", "impl", "in", "let",
  "loop", "macro", "match", "mod", "move", "mut", "override", "priv", "pub", "ref", "return", "Self",
  "self", "static", "struct", "super", "trait", "true", "try", "type", "typeof", "unsafe", "unsized",
  "use", "virtual", "where", "while", "yield"]

/-- The tokens after a mark. The characters of a mark follow each other without a gap, so `>` comes
next where `>>` does, and `:` where `::` does. -/
def afterMark? : List Char → List Token → Option (List Token)
  | [], tokens => some tokens
  | [c], .punct found _ :: rest => if found = c then some rest else none
  | c :: more, .punct found true :: rest => if found = c then afterMark? more rest else none
  | _, _ => none

namespace Ahead

def finish : Ahead := List.isEmpty

def word (expected : String) : Ahead
  | .ident name :: _ => name = expected
  | _ => false

def wordOf (expected : List String) : Ahead
  | .ident name :: _ => name ∈ expected
  | _ => false

def anyWord : Ahead
  | .ident _ :: _ => true
  | _ => false

/-- A word that is no keyword. -/
def name : Ahead
  | .ident name :: _ => name ∉ keywords
  | _ => false

def lifetime : Ahead
  | .lifetime _ :: _ => true
  | _ => false

/-- A literal: a token of that kind, a truth value, or a number behind a minus. -/
def literal : Ahead
  | .literal _ _ :: _ => true
  | .ident name :: _ => name = "true" || name = "false"
  | .punct '-' _ :: .literal (.integer _ _) _ :: _ => true
  | .punct '-' _ :: .literal .float _ :: _ => true
  | _ => false

def stringLiteral : Ahead
  | .literal .string _ :: _ => true
  | _ => false

def group (delimiter : Delimiter) : Ahead
  | .group found _ :: _ => found = delimiter
  | _ => false

def mark (expected : String) : Ahead :=
  fun tokens => (afterMark? expected.toList tokens).isSome

/-- A mark that is not the start of one of some longer marks. -/
def markBut (expected : String) (longer : List String) : Ahead :=
  fun tokens => mark expected tokens && !longer.any fun other => mark other tokens

/-- A colon that is not the first of two. -/
def colon : Ahead := markBut ":" ["::"]

/-- The point before a member; two points make a range. -/
def memberPoint : Ahead := markBut "." [".."]

/-- A condition on what comes after so many tokens. -/
def after (count : Nat) (ahead : Ahead) : Ahead :=
  fun tokens => ahead (tokens.drop count)

def oneOf (conditions : List Ahead) : Ahead :=
  fun tokens => conditions.any fun ahead => ahead tokens

def allOf (conditions : List Ahead) : Ahead :=
  fun tokens => conditions.all fun ahead => ahead tokens

def noneOf (conditions : List Ahead) : Ahead :=
  fun tokens => !conditions.any fun ahead => ahead tokens

/-- One condition here, and another after the first token. -/
def followed (first second : Ahead) : Ahead :=
  fun tokens => first tokens && second (tokens.drop 1)

end Ahead

/-! ### Readers -/

abbrev Reader := StateT (List Token) Option

namespace Reader

def sees (ahead : Ahead) : Reader Bool := return ahead (← get)

/-- Takes the first token if the condition holds. -/
def token (ahead : Ahead) : Reader Unit
  | [] => none
  | first :: rest => if ahead (first :: rest) then some ((), rest) else none

def word (expected : String) : Reader Unit := token (Ahead.word expected)

def anyWord : Reader Unit := token Ahead.anyWord

/-- The text of a name. -/
def name : Reader String
  | .ident name :: rest => if name ∈ keywords then none else some (name, rest)
  | _ => none

/-- A name, or a line that stands for one. -/
def nameOrLine : Reader Unit := token (Ahead.oneOf [Ahead.name, Ahead.word "_"])

def lifetime : Reader Unit := token Ahead.lifetime

def mark (expected : String) : Reader Unit :=
  fun tokens => (afterMark? expected.toList tokens).map fun rest => ((), rest)

def literal : Reader Unit
  | .punct c isJoint :: rest =>
    if Ahead.literal (.punct c isJoint :: rest) then some ((), rest.drop 1) else none
  | tokens => token Ahead.literal tokens

/-- Takes a group whose tokens a reader takes to their end. -/
def group {α : Type} (delimiter : Delimiter) (body : Reader α) : Reader α
  | .group found inner :: rest =>
    if found = delimiter then
      match body inner with
      | some (value, []) => some (value, rest)
      | _ => none
    else none
  | _ => none

/-- Takes a group, whatever it holds. -/
def anyGroup : Reader Delimiter
  | .group delimiter _ :: rest => some (delimiter, rest)
  | _ => none

/-- All tokens that are left. -/
def everything : Reader (List Token) := fun tokens => some (tokens, [])

/-- Reads on if the condition holds, and tells whether it did. -/
def readIf (ahead : Ahead) (reader : Reader Unit) : Reader Bool := do
  if ← sees ahead then
    reader
    return true
  else return false

def wordIf (expected : String) : Reader Bool := readIf (Ahead.word expected) (word expected)

def markIf (expected : String) : Reader Bool := readIf (Ahead.mark expected) (mark expected)

/-! ### Repetition -/

/-- Steps from state to state until a step gives none. -/
def stepUpTo {σ : Type} (step : σ → Reader (Option σ)) : (turns : Nat) → σ → Reader σ
  | 0, _ => failure
  | turns + 1, state => do
    match ← step state with
    | none => return state
    | some next => stepUpTo step turns next

/-- Steps until a step gives none. Every step but the last takes a token, so there are no more turns
than tokens. -/
def steps {σ : Type} (step : σ → Reader (Option σ)) (start : σ) : Reader σ := do
  stepUpTo step ((← get).length + 1) start

/-- Reads again and again while the condition holds. -/
def readWhile (ahead : Ahead) (reader : Reader Unit) : Reader Unit :=
  steps (fun _ => do
    if ← sees ahead then
      reader
      return some ()
    else return none) ()

/-- Items with a separator between them and perhaps after the last, up to where `stop` holds. -/
def listUntil (stop : Ahead) (separator item : Reader Unit) : Reader Unit := do
  let _ ← steps (fun isOpen => do
    if !isOpen || stop (← get) then return none
    item
    if ← sees stop then return some false
    separator
    return some true) true

/-- Items up to the end, with commas between them and perhaps after the last. -/
def commaList (item : Reader Unit) : Reader Unit :=
  listUntil Ahead.finish (mark ",") item

/-- Items joined by a mark, up to where `stop` holds or no mark follows. -/
def joinedUntil (stop : Ahead) (joint : String) (item : Reader Unit) : Reader Unit := do
  let _ ← steps (fun isOpen => do
    if !isOpen || stop (← get) then return none
    item
    return some (← markIf joint)) true

/-- A list in angles; tells whether it is empty. -/
def angles (item : Reader Unit) : Reader Bool := do
  mark "<"
  let isEmpty ← sees (Ahead.mark ">")
  listUntil (Ahead.mark ">") (mark ",") item
  mark ">"
  return isEmpty

/-- Whether the last token that a reader takes is a group in braces. -/
def endsInBraces {α : Type} (reader : Reader α) : Reader Bool := do
  let before ← get
  let _ ← reader
  let taken := before.take (before.length - (← get).length)
  match taken.getLast? with
  | some (.group .brace _) => return true
  | _ => return false

end Reader

end Advent.Derive
