import Advent.Run.WorkItem
import Advent.Text.Numeral
import Advent.Word

/-!
# Command line arguments

Arguments are read from the left. A setting takes its value from the same argument or from the next
one; a value of its own is checked at once, a value that follows only when the next flag is met or at
the end, so an unknown argument in between is reported first. Settings other than tags, and switches
other than verbosity, may be given once. The directory may come from the environment instead.
-/
namespace Advent

structure Arguments where
  year : Option Nat := none
  day : Option Nat := none
  part : Option Nat := none
  tags : List String := []
  inputDirectory : String := "inputs"
  input : Option String := none
  threads : Option Nat := none
  parallelism : Parallelism := .day
  list : Bool := false
  quiet : Bool := false
  verbosity : Nat := 0
  deriving Repr, DecidableEq

/-- Why arguments lead to no run; asking for help or the version is among the reasons. -/
inductive Refusal
  | valueValidation
  | invalidValue
  | unknownArgument
  | argumentConflict
  | tooManyValues
  | help (long : Bool)
  | version
  deriving Repr, DecidableEq

inductive Setting
  | year
  | day
  | part
  | tags
  | inputDirectory
  | input
  | threads
  | parallelism
  deriving Repr, DecidableEq

inductive Switch
  | list
  | quiet
  | verbose
  | help (long : Bool)
  | version
  deriving Repr, DecidableEq

inductive Flag
  | setting (setting : Setting)
  | switch (switch : Switch)
  deriving Repr, DecidableEq

def longFlags : List (List Char × Flag) := [
  ("year".toList, .setting .year), ("day".toList, .setting .day), ("part".toList, .setting .part),
  ("tags".toList, .setting .tags), ("input-dir".toList, .setting .inputDirectory),
  ("input".toList, .setting .input), ("threads".toList, .setting .threads),
  ("parallelize-by".toList, .setting .parallelism), ("list".toList, .switch .list),
  ("quiet".toList, .switch .quiet), ("verbose".toList, .switch .verbose),
  ("help".toList, .switch (.help true)), ("version".toList, .switch .version)]

def shortFlags : List (Char × Flag) := [
  ('y', .setting .year), ('d', .setting .day), ('p', .setting .part), ('t', .setting .tags),
  ('i', .setting .input), ('q', .switch .quiet), ('v', .switch .verbose),
  ('h', .switch (.help false)), ('V', .switch .version)]

/-! ### Values -/

/-- A number within bounds, written with a sign or without. -/
def readBounded (lowest highest : Nat) (value : String) : Except Refusal Nat :=
  match Text.readInt (Word.size 63) (Word.greatest 63) value.toList with
  | .error _ => .error .valueValidation
  | .ok number =>
    if (lowest : Int) ≤ number ∧ number ≤ (highest : Int) then .ok number.toNat
    else .error .valueValidation

def readThreads (value : String) : Except Refusal Nat :=
  (Text.readNat (Word.greatest 64) value.toList).mapError fun _ => .valueValidation

def readPath (value : String) : Except Refusal String :=
  if value.isEmpty then .error .invalidValue else .ok value

def readParallelism (value : String) : Except Refusal Parallelism :=
  match [Parallelism.sequential, .year, .day, .part].find? (·.name = value) with
  | some parallelism => .ok parallelism
  | none => .error .invalidValue

/-- The arguments with one more setting. -/
def Arguments.set (arguments : Arguments) (value : String) : Setting → Except Refusal Arguments
  | .year => do return { arguments with year := ← readBounded 0 65535 value }
  | .day => do return { arguments with day := ← readBounded 1 25 value }
  | .part => do return { arguments with part := ← readBounded 1 2 value }
  | .tags => return { arguments with tags := arguments.tags ++ value.splitOn "," }
  | .inputDirectory => do return { arguments with inputDirectory := ← readPath value }
  | .input => do return { arguments with input := ← readPath value }
  | .threads => do return { arguments with threads := ← readThreads value }
  | .parallelism => do return { arguments with parallelism := ← readParallelism value }

/-- The greatest count of verbosity. -/
def verbosityLimit : Nat := 255

/-- The arguments with one more switch. -/
def Arguments.press (arguments : Arguments) : Switch → Except Refusal Arguments
  | .list =>
    if arguments.list then .error .argumentConflict else .ok { arguments with list := true }
  | .quiet =>
    if arguments.quiet then .error .argumentConflict else .ok { arguments with quiet := true }
  | .verbose => .ok { arguments with verbosity := min (arguments.verbosity + 1) verbosityLimit }
  | .help long => .error (.help long)
  | .version => .error .version

/-! ### Reading -/

/-- A setting that was met and whose value has not been checked yet. -/
structure Pending where
  setting : Setting
  value : Option String
  deriving Repr, DecidableEq

structure CommandLine where
  arguments : Arguments := {}
  given : List Setting := []
  pending : Option Pending := none
  deriving Repr, DecidableEq

namespace CommandLine

def set (line : CommandLine) (setting : Setting) (value : String) :
    Except Refusal CommandLine :=
  if setting ≠ .tags ∧ setting ∈ line.given then .error .argumentConflict
  else do
    return { arguments := ← line.arguments.set value setting, given := setting :: line.given }

/-- Checks the setting that waits, if any. -/
def settle (line : CommandLine) : Except Refusal CommandLine :=
  match line.pending with
  | none => .ok line
  | some ⟨_, none⟩ => .error .invalidValue
  | some ⟨setting, some value⟩ => line.set setting value

/-- A setting with a value in the same argument, or without. -/
def meetSetting (line : CommandLine) (setting : Setting) (value : Option (List Char)) :
    Except Refusal CommandLine := do
  let line ← line.settle
  match value with
  | some value => line.set setting (String.ofList value)
  | none => return { line with pending := some ⟨setting, none⟩ }

def meetSwitch (line : CommandLine) (switch : Switch) : Except Refusal CommandLine := do
  let line ← line.settle
  return { line with arguments := ← line.arguments.press switch }

/-- An argument after two dashes: a name, and a value behind an equals sign. -/
def meetLong (line : CommandLine) (text : List Char) : Except Refusal CommandLine :=
  let value :=
    match text.dropWhile (· ≠ '=') with
    | [] => none
    | _ :: value => some value
  match longFlags.lookup (text.takeWhile (· ≠ '=')), value with
  -- These two come before any defect of a setting that still waits.
  | none, _ => .error .unknownArgument
  | some (.switch _), some _ => .error .tooManyValues
  | some (.switch switch), none => line.meetSwitch switch
  | some (.setting setting), value => line.meetSetting setting value

/-- Letters after one dash: switches, and at last a setting whose value is what follows it. -/
def meetShort (line : CommandLine) : List Char → Except Refusal CommandLine
  | [] => .ok line
  | letter :: rest =>
    match shortFlags.lookup letter with
    | none => .error .unknownArgument
    | some (.switch switch) => do meetShort (← line.meetSwitch switch) rest
    | some (.setting setting) =>
      line.meetSetting setting <|
        match rest with
        | [] => none
        | '=' :: value => some value
        | value => some value

/-- An argument that is no flag: the value of the setting that waits for one. -/
def meetValue (line : CommandLine) (value : List Char) : Except Refusal CommandLine :=
  match line.pending with
  | some ⟨setting, none⟩ =>
    .ok { line with pending := some ⟨setting, some (String.ofList value)⟩ }
  | _ => .error .unknownArgument

def meet (line : CommandLine) : List Char → Except Refusal CommandLine
  | '-' :: '-' :: text => line.meetLong text
  | '-' :: letter :: rest => line.meetShort (letter :: rest)
  | value => line.meetValue value

/-- Reads arguments up to two dashes alone, after which nothing may follow. -/
def readAll (line : CommandLine) : List (List Char) → Except Refusal CommandLine
  | [] => line.settle
  | ['-', '-'] :: rest => if rest.isEmpty then line.settle else .error .unknownArgument
  | argument :: rest => do readAll (← line.meet argument) rest

end CommandLine

/-- Reads the arguments; `directory` is the input directory that the environment names. -/
def Arguments.read (directory : Option String) (arguments : List String) :
    Except Refusal Arguments := do
  let line ← CommandLine.readAll {} (arguments.map String.toList)
  match directory with
  | none => return line.arguments
  | some directory =>
    if .inputDirectory ∈ line.given then return line.arguments
    else line.arguments.set directory .inputDirectory

end Advent
