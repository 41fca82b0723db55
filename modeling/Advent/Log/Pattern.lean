import Advent.Text.Alphanumeric
import Advent.Text.Digit

/-!
# Patterns for the value of a field

The value that a filter asks of a field is a number or a regular expression. What matches a pattern is
never asked, because fields have values only within spans; a filter with a malformed pattern is itself
malformed. `Pattern.isWellFormed` reads a pattern once from the left. Counted repetitions are not
patterns: a filter entry has no place for their closing brace.
-/
namespace Advent.Log.Pattern

/-! ### Escapes -/

/-- What an escape stands for. -/
inductive Escape
  | literal (c : Char)
  | set
  /-- A place between characters. -/
  | position
  deriving Repr, DecidableEq

/-- A character by the hexadecimal number of its code point, which has a fixed count of digits. -/
def codePoint? (digits : Nat) (text : List Char) : Option (Char × List Char) := do
  let values ← (text.take digits).mapM Text.hexDigit?
  let value := values.foldl (fun value digit => value * 16 + digit) 0
  if values.length = digits ∧ value.isValidChar then some (Char.ofNat value, text.drop digits)
  else none

def controlLetters : List (Char × Char) := [
  ('a', '\x07'), ('f', '\x0c'), ('t', '\t'), ('n', '\n'), ('r', '\r'), ('v', '\x0b')]

def setLetters : List Char := ['d', 's', 'w', 'D', 'S', 'W']

/-- The general categories that one letter names. -/
def categoryLetters : List Char := ['c', 'l', 'm', 'n', 'p', 's', 'z']

/-- The ends of the text. The ends of words are no part of a pattern. -/
def positionLetters : List Char := ['A', 'z']

/-- Whether a character that is escaped stands for itself. -/
def isEscapable (c : Char) : Bool :=
  c.toNat < 128 && !c.isAlphanum && c ≠ '<' && c ≠ '>'

/-- The escape that a text starts with, behind its backslash. -/
def escape? : List Char → Option (Escape × List Char)
  | [] => none
  | 'x' :: rest => (codePoint? 2 rest).map fun (c, rest) => (.literal c, rest)
  | 'u' :: rest => (codePoint? 4 rest).map fun (c, rest) => (.literal c, rest)
  | 'U' :: rest => (codePoint? 8 rest).map fun (c, rest) => (.literal c, rest)
  | 'p' :: category :: rest | 'P' :: category :: rest =>
    if categoryLetters.contains category.toLower then some (.set, rest) else none
  | c :: rest =>
    if setLetters.contains c then some (.set, rest)
    else if positionLetters.contains c then some (.position, rest)
    else if isEscapable c then some (.literal c, rest)
    else (controlLetters.lookup c).map fun control => (.literal control, rest)

/-! ### Classes in brackets -/

/-- The names of classes that stand between `[:` and `:]`. -/
def classNames : List (List Char) := [
  "alnum".toList, "alpha".toList, "ascii".toList, "blank".toList, "cntrl".toList, "digit".toList,
  "graph".toList, "lower".toList, "print".toList, "punct".toList, "space".toList, "upper".toList,
  "word".toList, "xdigit".toList]

/-- The text after a named class, behind its opening bracket. -/
def namedClass? : List Char → Option (List Char)
  | ':' :: rest =>
    let rest := if rest.head? = some '^' then rest.tail else rest
    match rest.dropWhile (· ≠ ':') with
    | ':' :: ']' :: after => if classNames.contains (rest.takeWhile (· ≠ ':')) then some after else none
    | _ => none
  | _ => none

/-- The text after the start of a class: a caret, and then hyphens or a bracket that stand for
themselves. -/
def classStart (text : List Char) : List Char :=
  let text := if text.head? = some '^' then text.tail else text
  if text.head? = some ']' then text.tail else text.dropWhile (· = '-')

/-- A member of a class, or an end of a range in it. -/
def member? : List Char → Option (Escape × List Char)
  | [] => none
  | '\\' :: rest => (escape? rest).filter fun (escape, _) => escape ≠ .position
  | c :: rest => some (.literal c, rest)

def isRange : Escape → Escape → Bool
  | .literal first, .literal last => first ≤ last
  | _, _ => false

/-- The text after a class whose start has been read, with so many classes open within it. -/
def classEnd? : (fuel : Nat) → (depth : Nat) → List Char → Option (List Char)
  | 0, _, _ => none
  | fuel + 1, depth, text =>
    match text with
    | ']' :: rest => if depth = 0 then some rest else classEnd? fuel (depth - 1) rest
    | '[' :: rest =>
      match namedClass? rest with
      | some after => classEnd? fuel depth after
      | none => classEnd? fuel (depth + 1) (classStart rest)
    | '&' :: '&' :: rest | '-' :: '-' :: rest | '~' :: '~' :: rest => classEnd? fuel depth rest
    | text => do
      let (first, rest) ← member? text
      match rest with
      | '-' :: ']' :: _ | '-' :: '-' :: _ => classEnd? fuel depth rest
      | '-' :: rest =>
        let (last, rest) ← member? rest
        if isRange first last then classEnd? fuel depth rest else none
      | rest => classEnd? fuel depth rest

/-! ### Groups -/

/-- What an opening parenthesis begins. -/
inductive Opening
  | group
  | namedGroup (name : List Char)
  /-- Flags for what follows; they are closed at once. -/
  | flags
  deriving Repr, DecidableEq

def flagLetters : List Char := ['i', 'm', 's', 'U', 'u', 'R', 'x']

/-- Whether flags are well formed: each at most once, and at most one hyphen with a flag after it. -/
def areFlags (text : List Char) : Bool :=
  (text.all fun c => c = '-' || flagLetters.contains c) && decide text.Nodup && text.getLast? ≠ some '-'

def isGroupName : List Char → Bool
  | [] => false
  | c :: rest =>
    (c = '_' || Text.isAlphanumeric c && !c.isDigit) &&
      rest.all fun c => c = '_' || c = '.' || c = '[' || c = ']' || Text.isAlphanumeric c

/-- The name of a group up to its closing angle bracket. -/
def groupName? (text : List Char) : Option (Opening × List Char) :=
  match text.dropWhile (· ≠ '>') with
  | _ :: rest =>
    let name := text.takeWhile (· ≠ '>')
    if isGroupName name then some (.namedGroup name, rest) else none
  | [] => none

/-- What an opening parenthesis begins, behind it. -/
def opening? : List Char → Option (Opening × List Char)
  | '?' :: 'P' :: '<' :: rest | '?' :: '<' :: rest => groupName? rest
  | '?' :: rest =>
    let isFlag (c : Char) : Bool := c ≠ ':' && c ≠ ')'
    let flags := rest.takeWhile isFlag
    if areFlags flags then
      match rest.dropWhile isFlag with
      | ':' :: rest => some (.group, rest)
      | _ :: rest => if flags.isEmpty then none else some (.flags, rest)
      | [] => none
    else none
  | rest => some (.group, rest)

/-! ### Patterns -/

/-- What has been read of a pattern. -/
structure Progress where
  /-- The groups that are still open. -/
  depth : Nat := 0
  names : List (List Char) := []
  /-- Whether a sign of repetition has something to repeat. -/
  repeatable : Bool := false
  deriving Repr, DecidableEq

/-- Enters what an opening parenthesis begins; two groups never have the same name. -/
def Progress.enter? (progress : Progress) : Opening → Option Progress
  | .group => some { progress with depth := progress.depth + 1, repeatable := false }
  | .namedGroup name =>
    if progress.names.contains name then none
    else some {
      depth := progress.depth + 1
      names := name :: progress.names
      repeatable := false }
  | .flags => some { progress with repeatable := false }

def Progress.completes : (fuel : Nat) → Progress → List Char → Bool
  | 0, _, _ => false
  | fuel + 1, progress, text =>
    let goesOn (repeatable : Bool) (rest : List Char) : Bool :=
      Progress.completes fuel { progress with repeatable := repeatable } rest
    match text with
    | [] => progress.depth = 0
    | '\x7b' :: _ => false
    | '*' :: rest | '+' :: rest | '?' :: rest => progress.repeatable && goesOn true rest
    | '|' :: rest => goesOn false rest
    | '(' :: rest =>
      match opening? rest with
      | none => false
      | some (opening, rest) =>
        match progress.enter? opening with
        | none => false
        | some progress => progress.completes fuel rest
    | ')' :: rest =>
      progress.depth ≠ 0 &&
        Progress.completes fuel
          { progress with depth := progress.depth - 1, repeatable := true } rest
    | '[' :: rest =>
      match classEnd? fuel 0 (classStart rest) with
      | none => false
      | some rest => goesOn true rest
    | '\\' :: rest =>
      match escape? rest with
      | none => false
      | some (_, rest) => goesOn true rest
    | _ :: rest => goesOn true rest

def isWellFormed (text : List Char) : Bool :=
  Progress.completes (text.length + 1) {} text

/-! ### Numbers -/

def namedNumbers : List (List Char) := ["inf".toList, "infinity".toList, "nan".toList]

/-- Decimal digits with at most one point and perhaps an exponent. -/
def isDecimal (text : List Char) : Bool :=
  let isExponentMark (c : Char) : Bool := c = 'e' || c = 'E'
  let mantissa := text.takeWhile fun c => !isExponentMark c
  let digits := mantissa.filter (· ≠ '.')
  mantissa.length ≤ digits.length + 1 && !digits.isEmpty && digits.all Text.isAsciiDigit &&
    match text.dropWhile fun c => !isExponentMark c with
    | [] => true
    | _ :: exponent =>
      let digits :=
        if exponent.head? = some '+' || exponent.head? = some '-' then exponent.tail else exponent
      !digits.isEmpty && digits.all Text.isAsciiDigit

/-- A number with its plus sign, which is no pattern, since a plus repeats what stands before it. -/
def isPositiveNumber : List Char → Bool
  | '+' :: rest => isDecimal rest || namedNumbers.contains (rest.map Char.toLower)
  | _ => false

/-- Whether a filter may ask a field for this value; numbers without a plus sign are patterns. -/
def isValue (text : List Char) : Bool :=
  isPositiveNumber text || isWellFormed text

end Advent.Log.Pattern
