import Advent.Puzzle.Circuit.Basic
import Advent.Text.Quoted
import Std.Data.HashMap

/-!
# Settling a circuit

Signals spread in rounds. A round goes through the waiting connections in order and gives every wire
its signal whose gate has an output by then. A round that settles nothing ends the process: the wires
that still wait never receive a signal. Every other round leaves fewer connections waiting, so the
process ends.
-/
namespace Advent.Circuits

abbrev Signals := Std.HashMap Wire Signal

def lookup (signals : Signals) (wire : Wire) : Option Signal :=
  signals[wire]?

/-- One round: the signals after it and the connections that still wait. -/
def sweep (signals : Signals) : List Connection → Signals × List Connection
  | [] => (signals, [])
  | connection :: rest =>
    match connection.gate.output (lookup signals) with
    | some signal => sweep (signals.insert connection.wire signal) rest
    | none =>
      let (settled, waiting) := sweep signals rest
      (settled, connection :: waiting)

/-- Rounds until nothing waits; the connections that wait for ever otherwise. -/
def settle (signals : Signals) (waiting : List Connection) (rounds : Nat) :
    Except (List Connection) (Signals × Nat) :=
  if waiting.isEmpty then .ok (signals, rounds)
  else
    let (settled, left) := sweep signals waiting
    if left.length < waiting.length then settle settled left (rounds + 1) else .error left
termination_by waiting.length

inductive CircuitError
  /-- So many wires never receive a signal; the first few names, in the order in which they wait. -/
  | stuck (count : Nat) (sample : List String)
  | noWire (name : Wire)
  | nothingToOverride (name : Wire)
  deriving Repr, DecidableEq

def CircuitError.message : CircuitError → String
  | .stuck count sample =>
    let names := ", ".intercalate sample
    s!"{count} wires never receive a signal (e.g. [{names}])"
  | .noWire name => s!"circuit has no wire {Text.quote name.toList}"
  | .nothingToOverride name => s!"circuit has no wire {Text.quote name.toList} to override"

/-- How many stuck wires are named. -/
def sampleSize : Nat := 5

def stuckError (waiting : List Connection) : CircuitError :=
  .stuck waiting.length
    ((waiting.take sampleSize).map fun connection => Text.quote connection.wire.toList)

/-- The signals of all wires and the count of rounds that they took. -/
def resolve (circuit : Circuit) : Except CircuitError (Signals × Nat) :=
  (settle ∅ circuit 0).mapError stuckError

theorem sweep_length_le (signals : Signals) (connections : List Connection) :
    (sweep signals connections).2.length ≤ connections.length := by
  induction connections generalizing signals with
  | nil => simp [sweep]
  | cons connection rest ih =>
    unfold sweep
    split
    · exact Nat.le_succ_of_le (ih _)
    · simpa using ih signals

end Advent.Circuits
