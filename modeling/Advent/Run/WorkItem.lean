import Advent.Registry.Basic
import Advent.Run.Key

/-!
# Work items

A work item is a day with a range of parts to run. Items come from a registry through filters by
year, day and part, in the order of the registry, and none has an empty range. Parallel runs work
through groups of items.
-/
namespace Advent

/-- What runs side by side. -/
inductive Parallelism
  | sequential
  | year
  | day
  | part
  deriving Repr, DecidableEq

def Parallelism.name : Parallelism → String
  | .sequential => "sequential"
  | .year => "year"
  | .day => "day"
  | .part => "part"

def Parallelism.label (parallelism : Parallelism) : String :=
  parallelism.name.capitalize

structure Selection where
  year : Option Nat
  day : Option Nat
  part : Option Nat
  deriving Repr, DecidableEq

structure WorkItem where
  year : Nat
  day : Nat
  firstPart : Nat
  lastPart : Nat
  deriving Repr, DecidableEq

namespace WorkItem

def parts (item : WorkItem) : List Nat :=
  List.range' item.firstPart (item.lastPart + 1 - item.firstPart)

def keys (item : WorkItem) : List Key :=
  item.parts.map fun part => ⟨item.year, item.day, part⟩

/-- The part asked for if the solver has it, or all parts. -/
def ofInfo? (part : Option Nat) (info : SolverInfo) : Option WorkItem :=
  match part with
  | some part => if part ≤ info.parts then some ⟨info.year, info.day, part, part⟩ else none
  | none => if 1 ≤ info.parts then some ⟨info.year, info.day, 1, info.parts⟩ else none

end WorkItem

namespace Registry

/-- The items that a selection leaves. -/
def workItems (registry : Registry) (selection : Selection) : List WorkItem :=
  (registry.infos.filter fun info =>
    selection.year.all (info.year = ·) && selection.day.all (info.day = ·)).filterMap
      (WorkItem.ofInfo? selection.part)

end Registry

/-- Neighbours with the same year, together. -/
def groupByYear : List WorkItem → List (List WorkItem)
  | [] => []
  | item :: rest =>
    match groupByYear rest with
    | (next :: group) :: groups =>
      if item.year = next.year then (item :: next :: group) :: groups
      else [item] :: (next :: group) :: groups
    | groups => [item] :: groups

/-- The groups that run side by side; the items of one group run in order. -/
def Parallelism.groups (items : List WorkItem) : Parallelism → List (List WorkItem)
  | .sequential => [items]
  | .year => groupByYear items
  | .day | .part => items.map fun item => [item]

end Advent
