import Advent.Log.Filter
import Advent.Registry.Plugin
import Advent.Run.Aggregator
import Advent.Run.Config
import Advent.Run.Help
import Advent.Run.Platform
import Advent.Run.Report

/-!
# Sessions

A session takes a command line to its end. The plugins with all tags asked for make the registry, and
the filters leave work items, which are listed or run. Results are printed in key order, each as soon
as all before it are there, and a summary follows. The exit code is zero for a session that got that
far or had nothing to do, one after an error, and two for wrong arguments.
-/
namespace Advent

inductive SessionError
  | config (cause : ConfigError)
  | registration (cause : RegistrationError)
  | run (cause : RunError)

def SessionError.message : SessionError → String
  | .config cause => s!"Configuration error: {cause.message}"
  | .registration cause => s!"Registration error: {cause.message}"
  | .run cause => cause.message

/-- What the environment of a session says. -/
structure Environment where
  /-- The directory of input files. -/
  inputDirectory : Option String
  /-- The log filter, which wins over the verbosity that arguments ask for. -/
  logFilter : Option String
  home : Option String
  cores : Nat
  deriving Repr, DecidableEq

/-- The filter that the environment names, unless it is malformed, or that of the verbosity. -/
def Environment.filter (environment : Environment) (verbosity : Nat) : Log.Filter :=
  (environment.logFilter.bind fun text => Log.Filter.ofText? text.toList).getD
    (Log.Filter.ofCount verbosity)

/-! ### Lines and records -/

/-- A work item as listings show it, with the tags of its plugin. -/
def listingLine (plugins : List Plugin) (item : WorkItem) : String :=
  let tags := ((plugins.find? fun plugin => plugin.isFor item.year item.day).map
    fun plugin => ", ".intercalate plugin.tags).getD ""
  let day := Decimal.twoDigits item.day
  s!"{item.year}/{day} parts {item.firstPart}-{item.lastPart} [{tags}]"

def configRecord (config : Config) : Log.Record where
  level := .debug
  target := "aoc"
  message := "resolved configuration"
  fields := [("config", config.shown)]

def builtRecord (registry : Registry) (tags : List String) : Log.Record where
  level := .debug
  target := "aoc"
  message := "registry built"
  fields := [("solvers", toString registry.size),
    ("tags", Text.quoteList (tags.map String.toList))]

def startRecord (solvers : Nat) (config : Config) : Log.Record :=
  executorRecord .info "starting run" [("solvers", toString solvers),
    ("mode", config.parallelism.label), ("threads", toString config.threads)]

def incompleteRecord : Log.Record where
  level := .warn
  target := "aoc"
  message := "not all expected results were received"
  fields := []

/-! ### Receiving results -/

/-- What was received so far. -/
structure Progress where
  aggregator : Aggregator PartResult
  /-- What was released, the latest first. -/
  released : List PartResult
  errors : List (Option RunError)

namespace Progress

def expecting (keys : List Key) : Progress :=
  ⟨.ofKeys keys, [], []⟩

/-- Takes a result in; gives the results that can be printed by now. -/
def receive (progress : Progress) (result : PartResult) : List PartResult × Progress :=
  let (ready, aggregator) := progress.aggregator.add result.key result
  let results := ready.map Prod.snd
  (results, { progress with aggregator, released := results.reverse ++ progress.released })

/-- Takes results in, one after the other. -/
def receiveAll (progress : Progress) : List PartResult → List PartResult × Progress
  | [] => ([], progress)
  | result :: rest =>
    let (ready, progress) := progress.receive result
    let (later, progress) := receiveAll progress rest
    (ready ++ later, progress)

/-- Gives what still waits. -/
def finish (progress : Progress) : List PartResult × Progress :=
  let (left, aggregator) := progress.aggregator.drain
  let results := left.map Prod.snd
  (results, { progress with aggregator, released := results.reverse ++ progress.released })

end Progress

/-! ### The session -/

def lineOutput : ReportLine → Output
  | .out text => .out text
  | .err text => .err text

section Session

variable {m : Type → Type} [Monad m] (platform : Platform m) (filter : Log.Filter)

def writeAll (outputs : List Output) : m Unit :=
  outputs.forM platform.write

def logAll (records : List Log.Record) : m Unit :=
  writeAll platform ((records.filter filter.admits).map .log)

def printResults (config : Config) (results : List PartResult) : m Unit :=
  writeAll platform (results.map fun result => lineOutput (resultLine config.quiet result))

/-- Waits for a group of items and prints what can be printed after it. -/
def receiveGroup (config : Config) (progress : Progress) (group : m Delivery) : m Progress := do
  let delivery ← group
  logAll platform filter delivery.records
  let (ready, progress) := progress.receiveAll delivery.sent
  printResults platform config ready
  return { progress with errors := progress.errors ++ [delivery.error] }

/-- Prints the results that still wait; the summary follows unless sending has failed. -/
def conclude (config : Config) (progress : Progress) : m (Except SessionError Unit) := do
  let (left, progress) := progress.finish
  printResults platform config left
  if !progress.aggregator.isComplete then logAll platform filter [incompleteRecord]
  match RunError.collect progress.errors with
  | some error => return .error (.run error)
  | none =>
    if !config.quiet then
      let lines := (summary? progress.released.reverse (← platform.elapsed)).getD []
      writeAll platform (("" :: lines).map .out)
    return .ok ()

/-- Receives the results of all groups, each as soon as it has run, and ends the run. -/
def receiveGroups (config : Config) (keys : List Key) (groups : List (m Delivery)) :
    m (Except SessionError Unit) := do
  let progress ← groups.foldlM (receiveGroup platform filter config) (.expecting keys)
  conclude platform filter config progress

def runItems (config : Config) (executor : Executor) : m (Except SessionError Unit) := do
  let items := executor.workItems
  if !config.quiet then writeAll platform [.out s!"Running {items.length} solver(s)..."]
  logAll platform filter [startRecord items.length config]
  let groups ← executor.start (platform.workers config.threads) platform.read fun _ => true
  receiveGroups platform filter config executor.expectedKeys groups

/-- Lists items with their plugins' tags; a plugin is looked up among those with all tags asked
for. -/
def listItems (plugins : List Plugin) (tags : List String) (items : List WorkItem) : m Unit :=
  let chosen := plugins.filter fun plugin => plugin.carries tags
  writeAll platform (items.map fun item => .out (listingLine chosen item))

def runConfig (plugins : List Plugin) (config : Config) : m (Except SessionError Unit) := do
  logAll platform filter [configRecord config]
  let chosen := plugins.filter fun plugin => plugin.carries config.tags
  logAll platform filter (chosen.map Plugin.record)
  match Registry.ofPlugins plugins config.tags with
  | .error cause => return .error (.registration cause)
  | .ok registry =>
    logAll platform filter [builtRecord registry config.tags]
    let executor := config.executor registry
    let items := executor.workItems
    if items.isEmpty then
      writeAll platform [.out "No solvers found matching the specified filters."]
      return .ok ()
    else if config.list then
      listItems platform plugins config.tags items
      return .ok ()
    else runItems platform filter config executor

/-- Runs arguments that were read without an error; gives the exit code. -/
def runArguments (plugins : List Plugin) (environment : Environment) (arguments : Arguments) :
    m Nat := do
  let outcome ←
    match Config.ofArguments environment.home environment.cores arguments with
    | .error cause => pure (.error (.config cause))
    | .ok config => runConfig platform filter plugins config
  match outcome with
  | .ok () => return 0
  | .error error =>
    writeAll platform [.err s!"Error: {error.message}"]
    return 1

end Session

/-- What is written instead of a run, and the exit code. -/
def Refusal.outcome (environment : Environment) : Refusal → List Output × Nat
  | .help long =>
    let directory := environment.inputDirectory.getD ""
    ((if long then longHelp directory else shortHelp directory).map .out, 0)
  | .version => ([.out versionLine], 0)
  | _ => ([.err "usage error"], 2)

/-- A whole session; gives the exit code. -/
def runSession {m : Type → Type} [Monad m] (platform : Platform m) (plugins : List Plugin)
    (environment : Environment) (arguments : List String) : m Nat := do
  match Arguments.read environment.inputDirectory arguments with
  | .error refusal =>
    let (outputs, code) := refusal.outcome environment
    writeAll platform outputs
    return code
  | .ok arguments =>
    runArguments platform (environment.filter arguments.verbosity) plugins environment arguments

end Advent
