import Advent.Run.Executor
import Advent.Run.Storage

/-!
# Platforms

A platform is what a run meets outside: files, workers, a clock, and the two output streams with the
log. A recorder keeps what is written; the platform in memory is one that reads from a storage.
-/
namespace Advent

/-- Something written: a text for an output stream, or a log record. -/
inductive Output
  | out (text : String)
  | err (text : String)
  | log (record : Log.Record)
  deriving Repr, DecidableEq

structure Platform (m : Type → Type) where
  read : String → m (Except ReadFault String)
  /-- So many workers. -/
  workers : Nat → Workers m
  /-- The time since the run began. -/
  elapsed : m Elapsed
  write : Output → m Unit

/-- A platform that reads given files and whose clocks show given times. It keeps what is written,
the last output first. -/
def Platform.recorder (files : String → Except ReadFault String) (times : Phase → Duration)
    (elapsed : Elapsed) : Platform (StateM (List Output)) where
  read path := pure (files path)
  workers _ := .single times
  elapsed := pure elapsed
  write output := modify (output :: ·)

/-- A platform that reads the files of a storage. -/
def Platform.inMemory (storage : Storage) (times : Phase → Duration) (elapsed : Elapsed) :
    Platform (StateM (List Output)) :=
  recorder storage.read times elapsed

end Advent
