import Advent.Log.Directive
import Advent.Log.Record

/-!
# Log filters

A filter is a list of directives. Of the directives that apply to a record the most specific one
decides: one with a longer target before one with a shorter target or none, then one with a field
before one without, then the one whose field comes last in order, and of equals the last one. A record
to which no directive applies is not written.

A filter is written as a comma list of entries. No record stands within a span, so entries that need
one decide nothing.
-/
namespace Advent.Log

namespace Directive

/-- Whether a directive is about a record; the message counts as a field. -/
def appliesTo (directive : Directive) (record : Record) : Bool :=
  (directive.target.all fun target => target.isPrefixOf record.target.toList) &&
    directive.field.all fun field =>
      field = "message".toList || record.fields.any fun (name, _) => name.toList = field

/-- The length of the target in bytes; a directive for all targets is below any other. -/
def targetRank (directive : Directive) : Nat :=
  match directive.target with
  | none => 0
  | some target => Text.byteLength target + 1

/-- Whether one directive is at most as specific as another that applies to the same record. -/
def isAtMost (first second : Directive) : Bool :=
  first.targetRank < second.targetRank ||
    first.targetRank = second.targetRank &&
      match first.field, second.field with
      | none, _ => true
      | some _, none => false
      | some name, some other => compare name other != .gt

end Directive

abbrev Filter := List Directive

namespace Filter

/-- `none` if an entry is malformed. A text without entries lets errors through. -/
def ofText? (text : List Char) : Option Filter := do
  let pieces := (text.splitOn ',').filter fun piece => !piece.isEmpty
  let entries ← pieces.mapM Entry.ofText?
  if entries.isEmpty then return [⟨none, none, 1⟩]
  else return (entries.filter fun entry => !entry.needsSpan).map Entry.directive

/-- Warnings, and one level more for each count of verbosity. -/
def ofCount (count : Nat) : Filter :=
  [⟨none, none, min (count + 2) fullVerbosity⟩]

/-- The verbosity for a record by the most specific directive that applies. -/
def verbosityFor (filter : Filter) (record : Record) : Option Nat :=
  let applicable := filter.filter fun directive => directive.appliesTo record
  (applicable.foldl (fun best directive =>
    match best with
    | none => some directive
    | some chosen => if chosen.isAtMost directive then some directive else best) none).map
      Directive.verbosity

def admits (filter : Filter) (record : Record) : Bool :=
  match filter.verbosityFor record with
  | none => false
  | some verbosity => record.level.verbosity ≤ verbosity

end Filter

end Advent.Log
