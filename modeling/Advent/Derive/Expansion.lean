import Advent.Derive.Arguments
import Advent.Derive.Lexer
import Advent.Text.Blank

/-!
# Expansions

An expansion is the code that an attribute stands for, in tokens: the implementation that dispatches
part numbers, or the record that registers a solver.
-/
namespace Advent.Derive

/-! ### Pieces of code -/

/-- The characters of a mark, each joint to the next. -/
def markTokens : List Char → List Token
  | [] => []
  | c :: more => .punct c (!more.isEmpty) :: markTokens more

/-- A word is a mark or a name. -/
def wordTokens (word : List Char) : List Token :=
  if word.all marks.contains then markTokens word else [.ident (String.ofList word)]

/-- Code without groups and literals, which is written with a blank between any two words. -/
def code (text : String) : List Token :=
  (Text.words text.toList).flatMap wordTokens

/-- A number with the name of its type behind it, or with nothing. -/
def numberToken (value : Nat) (suffix : String) : Token :=
  .literal (.integer value (!suffix.isEmpty)) (toString value ++ suffix)

/-- String literals with commas between them. -/
def stringTokens : List String → List Token
  | [] => []
  | [text] => [.literal .string text]
  | text :: rest => .literal .string text :: .punct ',' false :: stringTokens rest

/-! ### Dispatches -/

/-- The arm of a part calls the part solver of its number. -/
def armTokens (part : Nat) : List Token :=
  numberToken part "" :: code "=> < Self as :: aoc_solver :: PartSolver <" ++
    numberToken part "" :: code ">> :: solve" ++ .group .parenthesis (code "shared") :: code ","

/-- The last arm takes every other number. -/
def fallbackTokens : List Token :=
  .ident "_" :: code "=> :: core :: result :: Result :: Err" ++
    .group .parenthesis (code ":: aoc_solver :: SolveError :: PartNotImplemented" ++
      [.group .parenthesis (code "part")]) :: code ","

/-- The state that the part solvers share, and the number of a part. -/
def parameterTokens : List Token :=
  code "shared : & mut < Self as :: aoc_solver :: AocParser > :: SharedData <" ++
    .lifetime "_" :: code "> , part : u8 ,"

/-- The function that solves a part. -/
def functionTokens (dispatch : Dispatch) : List Token :=
  code "fn solve_part" ++ .group .parenthesis parameterTokens ::
    code "-> :: core :: result :: Result <" ++
    code ":: std :: string :: String , :: aoc_solver :: SolveError >" ++
    [.group .brace (code "match part" ++
      [.group .brace (dispatch.arms.flatMap armTokens ++ fallbackTokens)])]

/-- The implementation of a solver by a dispatch. -/
def dispatchTokens (name : String) (dispatch : Dispatch) : List Token :=
  code "impl :: aoc_solver :: Solver for" ++ [.ident name,
    .group .brace (code "const PARTS : u8 =" ++ numberToken dispatch.parts "" :: code ";" ++
      functionTokens dispatch)]

/-! ### Registrations -/

/-- Code that does not compile unless the type is a solver. -/
def checkTokens (name : String) : List Token :=
  code "const _ :" ++ .group .parenthesis [] :: code "=" ++
    .group .brace (code "trait MustImplementSolver : :: aoc_solver :: Solver" ++
      .group .brace [] :: code "impl MustImplementSolver for" ++
      [.ident name, .group .brace []]) :: code ";"

/-- The fields of the record that registers a solver. -/
def recordTokens (name : String) (registration : Registration) : List Token :=
  code "year :" ++ numberToken registration.year "u16" :: code ", day :" ++
    numberToken registration.day "u8" :: code ", solver : &" ++ .ident name :: code ", tags : &" ++
    .group .bracket (stringTokens registration.tags) :: code ","

/-- The record that registers a solver, behind a check that it is one. -/
def registrationTokens (name : String) (registration : Registration) : List Token :=
  checkTokens name ++ code ":: aoc_solver :: inventory :: submit !" ++
    [.group .brace (code ":: aoc_solver :: SolverPlugin" ++
      [.group .brace (recordTokens name registration)])]

/-! ### Expanding -/

/-- The item in a text. -/
def Item.ofText? (text : List Char) : Option Item :=
  (lex? text).bind Item.ofTokens?

def expandSolver (item : Item) : Except DeriveError (List Token) :=
  (dispatchOf item).map (dispatchTokens item.name)

def expandRegistration (item : Item) : Except DeriveError (List Token) :=
  (registrationOf item).map (registrationTokens item.name)

end Advent.Derive
