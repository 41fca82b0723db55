import Advent.Run.Arguments
import Advent.Run.Executor
import Advent.Text.Quoted

/-!
# Configurations

A configuration is what arguments come to in an environment: paths below the home directory are
expanded and the count of threads is known. An explicit input file needs a year and a day, and there
has to be a thread.
-/
namespace Advent

inductive ConfigError
  | inputNeedsDay
  | noThreads
  deriving Repr, DecidableEq

def ConfigError.message : ConfigError → String
  | .inputNeedsDay => "--input needs both --year and --day to pick the solver"
  | .noThreads => "--threads must be at least 1"

structure Config where
  selection : Selection
  tags : List String
  source : InputSource
  threads : Nat
  parallelism : Parallelism
  list : Bool
  quiet : Bool
  deriving Repr, DecidableEq

/-- The home directory in place of a tilde that makes the first component. -/
def expandHome (home : Option String) (path : String) : String :=
  match home, path.toList with
  | some home, '~' :: rest =>
    if rest.isEmpty ∨ rest.head? = some '/' then
      joinPath home (String.ofList (rest.dropWhile (· = '/')))
    else path
  | _, _ => path

namespace Config

/-- `cores` is the count of threads where the arguments give none. -/
def ofArguments (home : Option String) (cores : Nat) (arguments : Arguments) :
    Except ConfigError Config :=
  if arguments.input.isSome ∧ (arguments.year.isNone ∨ arguments.day.isNone) then
    .error .inputNeedsDay
  else if arguments.threads = some 0 then .error .noThreads
  else
    .ok {
      selection := ⟨arguments.year, arguments.day, arguments.part⟩
      tags := arguments.tags
      source := ⟨expandHome home arguments.inputDirectory, arguments.input.map (expandHome home)⟩
      threads := arguments.threads.getD cores
      parallelism := arguments.parallelism
      list := arguments.list
      quiet := arguments.quiet }

def executor (config : Config) (registry : Registry) : Executor :=
  ⟨registry, config.source, config.parallelism, config.selection⟩

/-- A value that may be absent, as log records show it. -/
def shownOption : Option String → String
  | none => "None"
  | some text => s!"Some({text})"

/-- The configuration as log records show it. -/
def shown (config : Config) : String :=
  let fields : List (String × String) := [
    ("year_filter", shownOption (config.selection.year.map toString)),
    ("day_filter", shownOption (config.selection.day.map toString)),
    ("part_filter", shownOption (config.selection.part.map toString)),
    ("tags", Text.quoteList (config.tags.map String.toList)),
    ("input_dir", Text.quotePath config.source.directory.toList),
    ("input_file", shownOption (config.source.file.map fun file => Text.quotePath file.toList)),
    ("thread_count", toString config.threads),
    ("parallelize_by", config.parallelism.label),
    ("list", toString config.list),
    ("quiet", toString config.quiet)]
  let body := ", ".intercalate (fields.map fun (name, value) => s!"{name}: {value}")
  s!"Config \x7b {body} \x7d"

end Config

end Advent
