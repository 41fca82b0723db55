import Advent.Puzzle.Circuit.Notation
import Advent.Puzzle.Circuit.Resolve
import Advent.Solver.Dispatch

/-!
# The circuit puzzle

The first part asks for the signal of wire `a`, which the state keeps once it is known. The second
drives wire `b` by that signal instead of its own gate and asks for the signal of `a` again.
-/
namespace Advent.Circuits

structure Board where
  circuit : Circuit
  /-- The signal of `a` in the circuit as it was read, once known. -/
  signalOfA : Option Signal
  deriving Repr, DecidableEq

/-- An outcome together with the records written on the way. -/
abbrev Logged (α : Type) := Except CircuitError α × List Log.Record

def settledRecord (wires rounds : Nat) : Log.Record where
  level := .debug
  target := "aoc_solutions::year_2015::day_7"
  message := "circuit settled"
  fields := [("wires", toString wires), ("rounds", toString rounds)]

def signalOn (circuit : Circuit) (wire : Wire) : Logged Signal :=
  match resolve circuit with
  | .error error => (.error error, [])
  | .ok (signals, rounds) =>
    let records := [settledRecord signals.size rounds]
    match lookup signals wire with
    | some signal => (.ok signal, records)
    | none => (.error (.noWire wire), records)

def failedStep (board : Board) (records : List Log.Record) (error : CircuitError) : Step Board :=
  { answer := .error (.failed error.message), state := board, records }

def solvedStep (board : Board) (records : List Log.Record) (signal : Signal) : Step Board :=
  { answer := .ok (toString signal.toNat), state := board, records }

/-- The signal of `a`, resolved at most once, and the board that remembers it. -/
def originalSignal (board : Board) : Logged (Signal × Board) :=
  match board.signalOfA with
  | some signal => (.ok (signal, board), [])
  | none =>
    match signalOn board.circuit "a" with
    | (.error error, records) => (.error error, records)
    | (.ok signal, records) => (.ok (signal, { board with signalOfA := some signal }), records)

/-- The circuit in which a constant drives wire `b`. -/
def rewired (circuit : Circuit) (signal : Signal) : Circuit :=
  circuit.connect "b" (.assign (.value signal))

def solvePart (part : Nat) (board : Board) : Step Board :=
  match originalSignal board with
  | (.error error, records) => failedStep board records error
  | (.ok (signal, board), records) =>
    if part = 1 then solvedStep board records signal
    else if "b" ∈ board.circuit.wires then
      match signalOn (rewired board.circuit signal) "a" with
      | (.error error, more) => failedStep board (records ++ more) error
      | (.ok signal, more) => solvedStep board (records ++ more) signal
    else failedStep board records (.nothingToOverride "b")

def parse (input : String) : Except ParseError Board :=
  match readCircuit input.toList with
  | .ok circuit => .ok ⟨circuit, none⟩
  | .error error => .error (.invalidFormat (error.message ConnectionError.message))

def solver : Solver :=
  (Dispatch.upTo 2).solver parse solvePart

end Advent.Circuits
