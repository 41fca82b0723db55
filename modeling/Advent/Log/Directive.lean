import Advent.Log.Pattern
import Advent.Text.Alphanumeric
import Advent.Text.Blank
import Advent.Text.Bytes
import Advent.Text.Numeral

/-!
# Log directives

A directive sets the greatest verbosity for the records whose target starts with a given text and, if
it names a field, that have this field. It is an entry of a filter, written

    target[span{field=value}]=level

where every part may be missing. A level alone holds for all targets, and a target alone lets
everything through. An entry that names a span or the value of a field is about records within spans.
-/
namespace Advent.Log

structure Directive where
  target : Option (List Char)
  field : Option (List Char)
  /-- Zero lets nothing through. -/
  verbosity : Nat
  deriving Repr, DecidableEq

/-- A directive as it is written; only records within spans are asked about some of them. -/
structure Entry where
  directive : Directive
  needsSpan : Bool
  deriving Repr, DecidableEq

/-! ### Levels -/

def verbosityNames : List (List Char × Nat) := [
  ("off".toList, 0), ("error".toList, 1), ("warn".toList, 2), ("info".toList, 3),
  ("debug".toList, 4), ("trace".toList, 5)]

/-- The verbosity that lets everything through. -/
def fullVerbosity : Nat := 5

/-- A level by its number, or by its name in any case. -/
def verbosity? (text : List Char) : Option Nat :=
  match Text.readNat fullVerbosity text with
  | .ok verbosity => some verbosity
  | .error _ => verbosityNames.lookup (text.map Char.toLower)

/-! ### Entries -/

/-- Which part of an entry comes next; a part that has begun starts at an offset. -/
inductive EntryPart
  | first
  | name (start : Nat)
  | span (start : Nat)
  | field (start : Nat)
  | fieldEnd
  | spanEnd
  | level (start : Nat)
  deriving Repr, DecidableEq

/-- What has been read of an entry. -/
structure EntryDraft where
  part : EntryPart := .first
  /-- The bytes read so far. -/
  offset : Nat := 0
  target : Option (List Char) := none
  field : Option (List Char) := none
  needsSpan : Bool := false
  deriving Repr, DecidableEq

/-- A character with which a target or a level may start. -/
def startsName (c : Char) : Bool :=
  c = '-' || c = ':' || c = '_' || Text.isAlphanumeric c

/-- A field: its name, and perhaps a value behind an equals sign, which makes the entry one about
spans. What stands behind a second equals sign is no part of the value. -/
def EntryDraft.withField? (draft : EntryDraft) (text : List Char) : Option EntryDraft :=
  match text.splitOn '=' with
  | name :: value :: _ =>
    if Pattern.isValue value then some { draft with field := some name, needsSpan := true } else none
  | _ => some { draft with field := some text }

/-- Reads a character of an entry; `cut` gives the text from an offset up to here. -/
def EntryDraft.read? (cut : Nat → Nat → Option (List Char)) (draft : EntryDraft) (c : Char) :
    Option EntryDraft :=
  let here := draft.offset
  let next := { draft with offset := here + c.utf8Size }
  match draft.part, c with
  | .first, '[' => some { next with part := .span next.offset }
  | .first, c => if startsName c then some { next with part := .name here } else none
  | .name start, '=' =>
    (cut start here).map fun text => { next with target := some text, part := .level next.offset }
  | .name start, '[' =>
    (cut start here).map fun text => { next with target := some text, part := .span next.offset }
  | .span start, ']' => (cut start here).map fun _ => { next with needsSpan := true, part := .spanEnd }
  | .span start, '\x7b' =>
    (cut start here).map fun text =>
      { next with needsSpan := !text.isEmpty, part := .field next.offset }
  | .field start, '\x7d' =>
    ((cut start here).filter fun text => !text.isEmpty).bind
      { next with part := .fieldEnd }.withField?
  | .fieldEnd, ']' => some { next with part := .spanEnd }
  | .spanEnd, '=' => some { next with part := .level next.offset }
  | .name _, _ | .span _, _ | .field _, _ | .level _, _ => some next
  | .fieldEnd, _ | .spanEnd, _ => none

def EntryDraft.entry (draft : EntryDraft) (verbosity : Nat) : Entry where
  directive := ⟨draft.target, draft.field, verbosity⟩
  needsSpan := draft.needsSpan

/-- The entry at the end; `cut` gives the text from an offset on. -/
def EntryDraft.finish? (cut : Nat → Option (List Char)) (draft : EntryDraft) : Option Entry := do
  match draft.part with
  | .name start =>
    let text ← cut start
    match verbosity? text with
    | some verbosity => return draft.entry verbosity
    | none => return { draft with target := some text }.entry fullVerbosity
  | .level start =>
    let text ← cut start
    if text.isEmpty then return draft.entry fullVerbosity
    else return draft.entry (← verbosity? text)
  | .spanEnd => return draft.entry fullVerbosity
  | .first | .span _ | .field _ | .fieldEnd => none

/-- An entry from its text. The parts are found in the text without the blanks around it, but they
are cut at the same offsets from the text with its blanks. -/
def Entry.ofText? (text : List Char) : Option Entry := do
  let draft ← (Text.trim text).foldlM
    (EntryDraft.read? fun start stop => Text.sliceBytes? start stop text) {}
  draft.finish? fun start => Text.sliceBytes? start (Text.byteLength text) text

end Advent.Log
