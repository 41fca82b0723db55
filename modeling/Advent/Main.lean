import Advent.Calendar
import Advent.Run.Session

/-!
# The command line

Runs a session on the files, the clock and the streams of the machine.
-/
namespace Advent

def faultOf : IO.Error → ReadFault
  | .noFileOrDirectory .. => .notFound
  | error => .other (toString error)

def readText (path : String) : IO (Except ReadFault String) := do
  try
    match String.fromUTF8? (← IO.FS.readBinFile path) with
    | some text => return .ok text
    | none => return .error .notText
  catch error => return .error (faultOf error)

def timed {α : Type} (compute : Unit → α) : IO (α × Duration) := do
  let start ← IO.monoNanosNow
  let value ← IO.lazyPure compute
  let stop ← IO.monoNanosNow
  return (value, ⟨(stop - start : Nat)⟩)

/-- Starts jobs such that at most `limit` of them run at a time. -/
def startJobs {α : Type} (limit : Nat) (jobs : List (IO α)) : IO (List (IO α)) := do
  let mut tasks : Array (Task (Except IO.Error α)) := #[]
  for job in jobs do
    let before := if limit ≤ tasks.size then tasks[tasks.size - limit]? else none
    let task ←
      match before with
      | some earlier => IO.bindTask earlier fun _ => IO.asTask job
      | none => IO.asTask job
    tasks := tasks.push task
  return tasks.toList.map fun task => do IO.ofExcept (← IO.wait task)

def machine (start : Nat) : Platform IO where
  read := readText
  workers limit := { time := fun _ => timed, start := startJobs limit }
  elapsed := do
    let nanoseconds := (← IO.monoNanosNow) - start
    return ⟨nanoseconds / 1000000000, nanoseconds % 1000000000⟩
  write
    | .out text => IO.println text
    | .err text => IO.eprintln text
    | .log record => IO.eprintln record.line

/-- How many threads there are where the arguments give no number. -/
def defaultThreads : Nat := 8

end Advent

def main (arguments : List String) : IO UInt32 := do
  let environment : Advent.Environment := {
    inputDirectory := ← IO.getEnv "AOC_INPUT_DIR"
    logFilter := ← IO.getEnv "RUST_LOG"
    home := ← IO.getEnv "HOME"
    cores := Advent.defaultThreads }
  let platform := Advent.machine (← IO.monoNanosNow)
  let code ← Advent.runSession platform Advent.Calendar.plugins environment arguments
  return UInt32.ofNat code
