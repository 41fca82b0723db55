import Advent.Run.Key

/-!
# Putting results back into order

Results arrive in any order. The aggregator holds a result back until every expected key before its
own has arrived, so what it releases is in key order. A second result for a key that still waits
takes the place of the first. Draining gives up what waits and leaves the expected keys as they are.
-/
namespace Advent

def insertKey (key : Key) : List Key → List Key
  | [] => [key]
  | first :: rest =>
    if key = first then first :: rest
    else if key.Before first then key :: first :: rest
    else first :: insertKey key rest

/-- The keys in ascending order, each once. -/
def sortKeys (keys : List Key) : List Key :=
  keys.foldr insertKey []

structure Aggregator (α : Type) where
  /-- The keys still to be released, in ascending order. -/
  expected : List Key
  /-- What has arrived and waits, in ascending order. -/
  pending : List (Key × α)

namespace Aggregator

variable {α : Type}

def ofKeys (keys : List Key) : Aggregator α :=
  ⟨sortKeys keys, []⟩

/-- Puts a value in its place, instead of one with the same key. -/
def insertPending (key : Key) (value : α) : List (Key × α) → List (Key × α)
  | [] => [(key, value)]
  | (first, held) :: rest =>
    if key = first then (key, value) :: rest
    else if key.Before first then (key, value) :: (first, held) :: rest
    else (first, held) :: insertPending key value rest

/-- Takes from the pending values as long as they are the next expected ones. -/
def release : List Key → List (Key × α) → List (Key × α) × Aggregator α
  | [], pending => ([], ⟨[], pending⟩)
  | next :: rest, pending =>
    match pending.find? fun (key, _) => key = next with
    | none => ([], ⟨next :: rest, pending⟩)
    | some ready =>
      let (released, left) := release rest (pending.filter fun (key, _) => key ≠ next)
      (ready :: released, left)

/-- Takes a value in; gives what can be released by now. -/
def add (aggregator : Aggregator α) (key : Key) (value : α) : List (Key × α) × Aggregator α :=
  release aggregator.expected (insertPending key value aggregator.pending)

/-- Everything that waits, in ascending order. -/
def drain (aggregator : Aggregator α) : List (Key × α) × Aggregator α :=
  (aggregator.pending, { aggregator with pending := [] })

def isComplete (aggregator : Aggregator α) : Bool :=
  aggregator.expected.isEmpty

end Aggregator

end Advent
