import Advent.Run.Input
import Advent.Run.RunError
import Advent.Run.WorkItem

/-!
# Running work items

An item is run in one of two ways. In a shared run the input is read once, the parts follow each other
on one state, and the first part reports the parse time. In a split run every part has an instance
and a parse time of its own. An input that cannot be loaded or read fails every part of the item.

Results are then sent one by one. A shared run, and an item whose input could not be loaded, ends with
the first result that is not taken; a split run tries all of its results.
-/
namespace Advent

/-! ### Workers -/

/-- What is timed. -/
inductive Phase
  /-- Reading an input, for one part only in split runs. -/
  | parsing (year day : Nat) (part : Option Nat)
  | solving (key : Key)
  deriving Repr, DecidableEq

/-- Those who do the work: they time computations and do jobs side by side. -/
structure Workers (m : Type → Type) where
  time : {α : Type} → Phase → (Unit → α) → m (α × Duration)
  /-- Starts jobs; each answer waits for its job. -/
  start : {α : Type} → List (m α) → m (List (m α))

/-- One worker without a clock, who reads given times and does a job when it is waited for. -/
def Workers.single {m : Type → Type} [Monad m] (times : Phase → Duration) : Workers m where
  time phase compute := pure (compute (), times phase)
  start jobs := pure jobs

/-! ### Runs -/

/-- A result with the records written on the way to it. -/
structure PartRun where
  result : PartResult
  records : List Log.Record

structure ItemRun where
  records : List Log.Record
  parts : List PartRun
  /-- Whether the parts ran apart from each other. -/
  isSplit : Bool

def executorRecord (level : Log.Level) (message : String) (fields : List (String × String)) :
    Log.Record :=
  { level, target := "aoc::executor", message, fields }

def keyFields (key : Key) : List (String × String) :=
  [("year", toString key.year), ("day", toString key.day), ("part", toString key.part)]

def failureRecord (key : Key) (error : PartError) : Log.Record :=
  executorRecord .warn "part failed" (keyFields key ++ [("error", error.message)])

def parsedRecord (year day size : Nat) (time : Duration) : Log.Record where
  level := .trace
  target := "aoc_solver::instance"
  message := "parsed input"
  fields := [("year", toString year), ("day", toString day), ("bytes", toString size),
    ("micros", toString time.microseconds)]

def loadedRecord (year day : Nat) (path : String) (size : Nat) : Log.Record where
  level := .debug
  target := "aoc::input"
  message := "loaded input"
  fields := [("year", toString year), ("day", toString day), ("path", path),
    ("bytes", toString size)]

/-- A part that never reached its solver. -/
def unsolvedRun (key : Key) (error : PartError) : PartRun :=
  ⟨.unsolved key error, [failureRecord key error]⟩

def unsolvedItem (item : WorkItem) (error : PartError) : ItemRun :=
  ⟨[], item.keys.map fun key => unsolvedRun key error, false⟩

/-- A part that its solver has answered or failed; a failure takes no time. -/
def solvedRun {σ : Type} (key : Key) (parseTime : Option Duration) (step : Step σ)
    (time : Duration) : PartRun :=
  let records := executorRecord .debug "solving" (keyFields key) :: step.records
  match step.answer with
  | .ok answer => ⟨{ key, answer := .ok answer, parseTime, solveTime := time }, records⟩
  | .error cause =>
    let error := PartError.solve cause
    ⟨{ key, answer := .error error, parseTime, solveTime := .zero },
      records ++ [failureRecord key error]⟩

section Runs

variable {m : Type → Type} [Monad m] (workers : Workers m)

def solvePart (factory : Factory) (state : factory.solver.State) (parseTime : Option Duration)
    (part : Nat) : m (PartRun × factory.solver.State) := do
  let key : Key := ⟨factory.year, factory.day, part⟩
  let (step, time) ← workers.time (.solving key) fun _ => factory.solver.solveChecked state part
  return (solvedRun key parseTime step time, step.state)

/-- The parts one after the other on one state; the first reports the parse time. -/
def solveParts (factory : Factory) (state : factory.solver.State) (parseTime : Option Duration) :
    List Nat → m (List PartRun)
  | [] => pure []
  | part :: rest => do
    let (run, state) ← solvePart workers factory state parseTime part
    return run :: (← solveParts factory state none rest)

def runShared (registry : Registry) (item : WorkItem) (input : String) : m ItemRun :=
  match registry.factory item.year item.day with
  | .error cause => pure (unsolvedItem item (.setup cause))
  | .ok factory => do
    let (parsed, time) ← workers.time (.parsing item.year item.day none) fun _ =>
      factory.solver.parse input
    match parsed with
    | .error cause => return unsolvedItem item (.setup (.parse cause))
    | .ok state =>
      return ⟨[parsedRecord factory.year factory.day input.utf8ByteSize time],
        ← solveParts workers factory state (some time) item.parts, false⟩

/-- One part on an instance of its own. -/
def runAlone (registry : Registry) (item : WorkItem) (input : String) (part : Nat) : m PartRun :=
  let key : Key := ⟨item.year, item.day, part⟩
  match registry.factory item.year item.day with
  | .error cause => pure (unsolvedRun key (.setup cause))
  | .ok factory => do
    let (parsed, time) ← workers.time (.parsing item.year item.day (some part)) fun _ =>
      factory.solver.parse input
    match parsed with
    | .error cause => return unsolvedRun key (.setup (.parse cause))
    | .ok state =>
      let (run, _) ← solvePart workers factory state (some time) part
      let parsed := parsedRecord factory.year factory.day input.utf8ByteSize time
      return { run with records := parsed :: run.records }

def runSplit (registry : Registry) (item : WorkItem) (input : String) : m ItemRun := do
  let waiting ← workers.start (item.parts.map (runAlone workers registry item input))
  return ⟨[], ← waiting.mapM id, true⟩

/-- Runs an item on what was read for it. -/
def runItem (registry : Registry) (source : InputSource) (parallelism : Parallelism)
    (read : String → m (Except ReadFault String)) (item : WorkItem) : m ItemRun := do
  let path := source.path item.year item.day
  match InputSource.ofRead path (← read path) with
  | .error cause => return unsolvedItem item (.input cause)
  | .ok input =>
    let run ←
      if parallelism = .part then runSplit workers registry item input
      else runShared workers registry item input
    return { run with
      records := loadedRecord item.year item.day path input.utf8ByteSize :: run.records }

end Runs

/-! ### Sending -/

/-- What was sent of a run, what was written, and whether sending failed. -/
structure Delivery where
  sent : List PartResult
  records : List Log.Record
  error : Option RunError

namespace Delivery

def empty : Delivery := ⟨[], [], none⟩

/-- Sends until the first result that is not taken. -/
def inOrder (accepts : PartResult → Bool) : List PartRun → Delivery
  | [] => empty
  | run :: rest =>
    if accepts run.result then
      let after := inOrder accepts rest
      ⟨run.result :: after.sent, run.records ++ after.records, after.error⟩
    else ⟨[], run.records, some .undelivered⟩

/-- Sends every result. -/
def ofEach (accepts : PartResult → Bool) (runs : List PartRun) : Delivery where
  sent := (runs.map PartRun.result).filter accepts
  records := runs.flatMap PartRun.records
  error := RunError.collect (runs.map fun run =>
    if accepts run.result then none else some .undelivered)

/-- Sends the results of an item in the way of its run. -/
def ofItem (accepts : PartResult → Bool) (run : ItemRun) : Delivery :=
  let delivery := if run.isSplit then ofEach accepts run.parts else inOrder accepts run.parts
  { delivery with records := run.records ++ delivery.records }

/-- The deliveries of a group together. -/
def ofGroup (deliveries : List Delivery) : Delivery where
  sent := deliveries.flatMap Delivery.sent
  records := deliveries.flatMap Delivery.records
  error := RunError.collect (deliveries.map Delivery.error)

end Delivery

/-! ### Whole runs -/

/-- Everything that a run depends on. -/
structure Executor where
  registry : Registry
  source : InputSource
  parallelism : Parallelism
  selection : Selection

namespace Executor

def workItems (executor : Executor) : List WorkItem :=
  executor.registry.workItems executor.selection

def expectedKeys (executor : Executor) : List Key :=
  executor.workItems.flatMap WorkItem.keys

def groups (executor : Executor) : List (List WorkItem) :=
  executor.parallelism.groups executor.workItems

section Groups

variable {m : Type → Type} [Monad m] (workers : Workers m)
  (read : String → m (Except ReadFault String)) (accepts : PartResult → Bool)

/-- Runs the items of a group in order and sends their results. -/
def runGroup (executor : Executor) (items : List WorkItem) : m Delivery := do
  let runs ← items.mapM (runItem workers executor.registry executor.source executor.parallelism read)
  return .ofGroup (runs.map (Delivery.ofItem accepts))

/-- Starts all groups; the delivery of each can be waited for. -/
def start (executor : Executor) : m (List (m Delivery)) :=
  workers.start (executor.groups.map (runGroup workers read accepts executor))

/-- Runs all groups; the errors of the groups are merged from the first on. -/
def execute (executor : Executor) : m Delivery := do
  let groups ← executor.start workers read accepts
  return .ofGroup (← groups.mapM id)

end Groups

end Executor

end Advent
