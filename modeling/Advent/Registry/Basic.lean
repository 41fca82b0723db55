import Advent.Registry.Slot
import Advent.Solver.Basic

/-!
# The registry of solvers

A registry holds at most one entry for each slot. An entry is a factory, which reads an input into an
instance, and the count of parts that listings show. Registering is refused outside the slots and for
a slot that is taken, and leaves all other slots as they are.
-/
namespace Advent

/-- A solver together with the year and day that its instances report. -/
structure Factory where
  solver : Solver
  year : Nat
  day : Nat

/-- A solver that has read its input. -/
structure Instance where
  factory : Factory
  state : factory.solver.State

namespace Factory

def create (factory : Factory) (input : String) : Except ParseError Instance :=
  (factory.solver.parse input).map (Instance.mk factory)

end Factory

namespace Instance

def year (running : Instance) : Nat := running.factory.year

def day (running : Instance) : Nat := running.factory.day

def parts (running : Instance) : Nat := running.factory.solver.parts

/-- Answers a part in range; the state that follows stays with the instance. -/
def solve (running : Instance) (part : Nat) : Step Instance :=
  let step := running.factory.solver.solveChecked running.state part
  { answer := step.answer, state := ⟨running.factory, step.state⟩, records := step.records }

end Instance

structure Entry where
  factory : Factory
  parts : Nat

/-- What a listing tells about an entry. -/
structure SolverInfo where
  year : Nat
  day : Nat
  parts : Nat
  deriving Repr, DecidableEq

structure Registry where
  entries : Vector (Option Entry) slotCount

namespace Registry

def empty : Registry :=
  ⟨Vector.replicate slotCount none⟩

def entry? (registry : Registry) (year day : Nat) : Option Entry :=
  (slot? year day).bind fun slot => registry.entries[slot]

def register (registry : Registry) (year day : Nat) (entry : Entry) :
    Except RegistrationError Registry :=
  match slot? year day with
  | none => .error (.invalidYearDay year day)
  | some slot =>
    match registry.entries[slot] with
    | some _ => .error (.duplicateSolver year day)
    | none => .ok ⟨registry.entries.set slot (some entry)⟩

/-- All entries by year, then by day. -/
def infos (registry : Registry) : List SolverInfo :=
  (List.finRange slotCount).filterMap fun slot =>
    registry.entries[slot].map fun entry => ⟨yearOf slot, dayOf slot, entry.parts⟩

def info? (registry : Registry) (year day : Nat) : Option SolverInfo :=
  (registry.entry? year day).map fun entry => ⟨year, day, entry.parts⟩

def contains (registry : Registry) (year day : Nat) : Bool :=
  (registry.entry? year day).isSome

def size (registry : Registry) : Nat :=
  registry.entries.toList.countP Option.isSome

def isEmpty (registry : Registry) : Bool :=
  registry.entries.toList.all Option.isNone

/-- The factory for a day. -/
def factory (registry : Registry) (year day : Nat) : Except SolverError Factory :=
  match slot? year day with
  | none => .error (.invalidYearDay year day)
  | some slot =>
    match registry.entries[slot] with
    | none => .error (.notFound year day)
    | some entry => .ok entry.factory

def create (registry : Registry) (year day : Nat) (input : String) : Except SolverError Instance :=
  match registry.factory year day with
  | .error cause => .error cause
  | .ok factory => (factory.create input).mapError .parse

theorem entry?_of_slot (registry : Registry) (slot : Fin slotCount) :
    registry.entry? (yearOf slot) (dayOf slot) = registry.entries[slot] := by
  simp [slot?_yearOf_dayOf, entry?]

theorem toList_entries (registry : Registry) :
    registry.entries.toList = (List.finRange slotCount).map fun slot => registry.entries[slot] := by
  refine List.ext_getElem (by simp) fun index below below' => ?_
  simp

end Registry

end Advent
