import Advent.Derive.Item
import Advent.Solver.Dispatch
import Advent.Text.Numeral

/-!
# Attribute arguments

The arguments of an attribute are a list of keys with values, each behind an equals sign, with a comma
between them and perhaps after the last. A later value for a key takes the place of an earlier one,
and tags are appended. The first defect ends the reading.

`dispatchOf` reads the count of parts of a solver, `registrationOf` the day and the tags under which
it is registered.
-/
namespace Advent.Derive

inductive DeriveError
  /-- The attribute is missing; its usage is shown. -/
  | missingAttribute (macroName usage : String)
  | noArguments (path : String)
  | valueForArguments (path : String)
  | expected (what : String)
  /-- Something was expected where the tokens end. -/
  | expectedAtEnd (what : String)
  | literalForKey
  | tokenForKey
  | unsupportedKey (path : String)
  | notAnInteger (key : String)
  | badNumber (cause : Text.NumeralError)
  | dayOutOfRange
  | noParts
  | missingKey (key : String)
  deriving Repr, DecidableEq

def DeriveError.message : DeriveError → String
  | .missingAttribute macroName usage => s!"{macroName} requires {usage}"
  | .noArguments path =>
    s!"expected attribute arguments in parentheses: #[{path}(...)]"
  | .valueForArguments path => s!"expected parentheses: #[{path}(...)]"
  | .expected what => s!"expected {what}"
  | .expectedAtEnd what => s!"unexpected end of input, expected {what}"
  | .literalForKey => "unexpected literal in nested attribute, expected ident"
  | .tokenForKey => "unexpected token in nested attribute, expected ident"
  | .unsupportedKey path => s!"unsupported {path} attribute"
  | .notAnInteger key => s!"{key} must be an integer"
  | .badNumber cause => cause.message
  | .dayOutOfRange => "day must be in 1..=25"
  | .noParts => "max_parts must be at least 1"
  | .missingKey key => s!"missing {key}"

/-! ### Keys -/

/-- The expectation at the first token, or at the end. -/
def expectation (what : String) : List Token → DeriveError
  | [] => .expectedAtEnd what
  | _ => .expected what

/-- More segments of a key, after its first. -/
def skipSegments : List Token → Except DeriveError (Bool × List Token)
  | .punct ':' true :: .punct ':' _ :: .ident _ :: rest =>
    (skipSegments rest).map fun (_, rest) => (true, rest)
  | .punct ':' true :: .punct ':' _ :: rest => .error (expectation "ident" rest)
  | tokens => .ok (false, tokens)

/-- A key and what follows it. A key of several segments, or with two colons before it, has no name. -/
def takeKey (tokens : List Token) : Except DeriveError (Option String × List Token) :=
  let (isGlobal, tokens) :=
    match tokens with
    | .punct ':' true :: .punct ':' _ :: rest => (true, rest)
    | tokens => (false, tokens)
  match tokens with
  | .ident name :: rest =>
    (skipSegments rest).map fun (isLonger, rest) =>
      (if isGlobal || isLonger then none else some name, rest)
  | [] => .error (.expectedAtEnd "nested attribute")
  | tokens => .error (if Ahead.literal tokens then .literalForKey else .tokenForKey)

/-- The tokens after an equals sign. -/
def takeEquals : List Token → Except DeriveError (List Token)
  | .punct '=' _ :: rest => .ok rest
  | _ => .error (.expected "`=`")

/-! ### Values -/

inductive Value
  | integer (isNegative : Bool) (value : Nat)
  | other
  deriving Repr, DecidableEq

def takeValue : List Token → Except DeriveError (Value × List Token)
  | .literal (.integer value _) _ :: rest => .ok (.integer false value, rest)
  | .literal _ _ :: rest => .ok (.other, rest)
  | .punct '-' _ :: .literal (.integer value _) _ :: rest => .ok (.integer true value, rest)
  | .punct '-' _ :: .literal .float _ :: rest => .ok (.other, rest)
  | .ident name :: rest =>
    if name = "true" ∨ name = "false" then .ok (.other, rest) else .error (.expected "literal")
  | tokens => .error (expectation "literal" tokens)

/-- A number up to `highest`; a sign is not among the digits of a number. -/
def numberOf (key : String) (highest : Nat) : Value → Except DeriveError Nat
  | .integer true _ => .error (.badNumber .invalidDigit)
  | .integer false value => if value ≤ highest then .ok value else .error (.badNumber .tooLarge)
  | .other => .error (.notAnInteger key)

/-- The number behind an equals sign. -/
def takeNumber (key : String) (highest : Nat) (tokens : List Token) :
    Except DeriveError (Nat × List Token) := do
  let (value, rest) ← takeValue (← takeEquals tokens)
  return (← numberOf key highest value, rest)

/-- String literals, as they are written; a comma may stand after each. -/
def readTags : List Token → Except DeriveError (List String)
  | [] => .ok []
  | .literal .string text :: .punct ',' _ :: rest => (readTags rest).map (text :: ·)
  | .literal .string text :: rest => (readTags rest).map (text :: ·)
  | _ => .error (.expected "string literal")

def takeTags (tokens : List Token) : Except DeriveError (List String × List Token) := do
  match ← takeEquals tokens with
  | .group .bracket body :: rest => return (← readTags body, rest)
  | tokens => .error (expectation "square brackets" tokens)

/-! ### Argument lists -/

/-- Reads arguments one after the other. `take` gets the key and the tokens after it; every turn takes
a key off the tokens, so `turns` need not pass their count. -/
def readArguments {σ : Type}
    (take : σ → Option String → List Token → Except DeriveError (σ × List Token)) :
    (turns : Nat) → σ → List Token → Except DeriveError σ
  | _, state, [] => .ok state
  | 0, state, _ => .ok state
  | turns + 1, state, tokens => do
    let (key, rest) ← takeKey tokens
    match ← take state key rest with
    | (state, []) => return state
    | (state, .punct ',' _ :: rest) => readArguments take turns state rest
    | _ => .error (.expected "`,`")

/-- The arguments of the first attribute of a name. -/
def argumentsOf (item : Item) (path macroName usage : String) :
    Except DeriveError (List Token) :=
  match item.attributes.find? fun found => found.name = some path with
  | none => .error (.missingAttribute macroName usage)
  | some ⟨_, .none⟩ => .error (.noArguments path)
  | some ⟨_, .value⟩ => .error (.valueForArguments path)
  | some ⟨_, .list body⟩ => .ok body

/-! ### The count of parts -/

/-- The greatest count of parts. -/
def partLimit : Nat := 255

def takeParts (_ : Option Nat) (key : Option String) (tokens : List Token) :
    Except DeriveError (Option Nat × List Token) :=
  if key = some "max_parts" then
    (takeNumber "max_parts" partLimit tokens).map fun (count, rest) => (some count, rest)
  else .error (.unsupportedKey "aoc_solver")

def dispatchOfArguments (tokens : List Token) : Except DeriveError Dispatch := do
  match ← readArguments takeParts tokens.length none tokens with
  | none => .error (.missingKey "max_parts")
  | some 0 => .error .noParts
  | some parts => return .upTo parts

def dispatchOf (item : Item) : Except DeriveError Dispatch := do
  dispatchOfArguments
    (← argumentsOf item "aoc_solver" "AocSolver" "#[aoc_solver(max_parts = N)]")

/-! ### Registrations -/

/-- A day and the literals of its tags. -/
structure Registration where
  year : Nat
  day : Nat
  tags : List String
  deriving Repr, DecidableEq

/-- What the arguments have given so far. -/
structure PartialRegistration where
  year : Option Nat := none
  day : Option Nat := none
  tags : List String := []
  deriving Repr, DecidableEq

/-- The greatest year that can be written. -/
def yearLimit : Nat := 65535

/-- The greatest number that is read as a day before its range is checked. -/
def dayLimit : Nat := 255

def takeRegistration (given : PartialRegistration) (key : Option String) (tokens : List Token) :
    Except DeriveError (PartialRegistration × List Token) :=
  match key with
  | some "year" => do
    let (year, rest) ← takeNumber "year" yearLimit tokens
    return ({ given with year }, rest)
  | some "day" => do
    let (day, rest) ← takeNumber "day" dayLimit tokens
    if 1 ≤ day ∧ day ≤ 25 then return ({ given with day }, rest) else .error .dayOutOfRange
  | some "tags" => do
    let (tags, rest) ← takeTags tokens
    return ({ given with tags := given.tags ++ tags }, rest)
  | _ => .error (.unsupportedKey "aoc")

def registrationOfArguments (tokens : List Token) : Except DeriveError Registration := do
  let given ← readArguments takeRegistration tokens.length {} tokens
  match given.year, given.day with
  | none, _ => .error (.missingKey "year")
  | _, none => .error (.missingKey "day")
  | some year, some day => return ⟨year, day, given.tags⟩

def registrationOf (item : Item) : Except DeriveError Registration := do
  registrationOfArguments
    (← argumentsOf item "aoc" "AutoRegisterSolver" "#[aoc(year = ..., day = ...)]")

end Advent.Derive
