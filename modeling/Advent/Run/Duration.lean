import Advent.Decimal.Binary64
import Advent.Word

/-!
# Durations

A duration is a signed count of nanoseconds within a fixed range. It is shown in whole microseconds,
or in milliseconds or seconds with two places; counts of microseconds are cut toward zero and have to
fit into 64 bits. Wall-clock time is unsigned and has a range of its own.
-/
namespace Advent

/-- A signed span of time. -/
structure Duration where
  nanoseconds : Int
  deriving Repr, DecidableEq

namespace Duration

/-- The greatest magnitude: 2⁶³ - 1 milliseconds. -/
def limit : Int := Word.greatest 63 * 1000000

def InRange (duration : Duration) : Prop :=
  -limit ≤ duration.nanoseconds ∧ duration.nanoseconds ≤ limit

instance (duration : Duration) : Decidable duration.InRange := by
  unfold InRange
  infer_instance

def zero : Duration := ⟨0⟩

def neg (duration : Duration) : Duration :=
  ⟨-duration.nanoseconds⟩

/-- The sum, unless it leaves the range. -/
def add? (first second : Duration) : Option Duration :=
  let sum : Duration := ⟨first.nanoseconds + second.nanoseconds⟩
  if sum.InRange then some sum else none

def sum? (durations : List Duration) : Option Duration :=
  durations.foldlM add? zero

/-- Whole microseconds, cut toward zero. -/
def microseconds (duration : Duration) : Int :=
  duration.nanoseconds.tdiv 1000

/-- Whole microseconds if they fit into 64 bits. -/
def microseconds? (duration : Duration) : Option Int :=
  if -(Word.size 63 : Int) ≤ duration.microseconds ∧ duration.microseconds < Word.size 63 then
    some duration.microseconds
  else none

end Duration

def showMicroseconds (count : Nat) : String :=
  if count < 1000 then s!"{count}µs"
  else
    let exact := Decimal.Binary64.ofNat count
    if count < 1000000 then s!"{(exact.div (.ofNat 1000)).shown}ms"
    else s!"{(exact.div (.ofNat 1000000)).shown}s"

/-- The text for a duration that is not negative. -/
def Duration.shownPositive (duration : Duration) : String :=
  match duration.microseconds? with
  | none => "N/A"
  | some count => showMicroseconds count.natAbs

/-- A negative duration is shown as its opposite behind a minus sign. -/
def Duration.shown (duration : Duration) : String :=
  match duration.microseconds? with
  | none => "N/A"
  | some count =>
    if count < 0 then s!"-{duration.neg.shownPositive}" else showMicroseconds count.natAbs

/-- Wall-clock time. -/
structure Elapsed where
  seconds : Nat
  /-- Below one thousand millions. -/
  nanoseconds : Nat
  deriving Repr, DecidableEq

namespace Elapsed

def isZero (elapsed : Elapsed) : Bool :=
  elapsed.seconds = 0 && elapsed.nanoseconds = 0

/-- Whole microseconds, or the greatest number of 64 bits if they do not fit. -/
def microseconds (elapsed : Elapsed) : Nat :=
  min (elapsed.seconds * 1000000 + elapsed.nanoseconds / 1000) (Word.greatest 64)

def shown (elapsed : Elapsed) : String :=
  showMicroseconds elapsed.microseconds

def inSeconds (elapsed : Elapsed) : Decimal.Binary64 :=
  (Decimal.Binary64.ofNat elapsed.seconds).add
    ((Decimal.Binary64.ofNat elapsed.nanoseconds).div (.ofNat 1000000000))

end Elapsed

/-- How much faster than one thing after the other: computing time over wall-clock time. -/
def speedup (computing : Duration) (elapsed : Elapsed) : String :=
  let count := computing.microseconds?.getD 0
  let ratio := ((Decimal.Binary64.ofNat count.natAbs).div (.ofNat 1000000)).div elapsed.inSeconds
  let sign := if count < 0 then "-" else ""
  s!"{sign}{ratio.shown}x"

end Advent
