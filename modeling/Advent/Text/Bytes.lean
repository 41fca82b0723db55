/-!
# The UTF-8 bytes of a text

Lengths and positions are counted in bytes. A reader that takes one byte at a time stops at the first
byte it does not know and reports that byte with its position, counted from one.
-/
namespace Advent.Text

def bytes (text : List Char) : List UInt8 :=
  text.flatMap String.utf8EncodeChar

def byteLength (text : List Char) : Nat :=
  (bytes text).length

/-- The first bytes of a text and the rest, unless the cut falls within a character. -/
def splitAtByte? : Nat → List Char → Option (List Char × List Char)
  | 0, text => some ([], text)
  | _ + 1, [] => none
  | count + 1, c :: rest =>
    if c.utf8Size ≤ count + 1 then
      (splitAtByte? (count + 1 - c.utf8Size) rest).map fun (before, after) => (c :: before, after)
    else none

/-- The bytes of a text from one offset up to another, unless a cut falls within a character. -/
def sliceBytes? (start stop : Nat) (text : List Char) : Option (List Char) := do
  let (_, tail) ← splitAtByte? start text
  return (← splitAtByte? (stop - start) tail).1

/-- A byte that has no meaning where it stands. -/
structure StrayByte where
  byte : UInt8
  /-- Counted from one. -/
  position : Nat
  deriving Repr, DecidableEq

/-- The character whose code point is the byte, as messages show it. -/
def StrayByte.shown (stray : StrayByte) : Char :=
  Char.ofNat stray.byte.toNat

def readBytes {α : Type} (read : UInt8 → Option α) (input : List UInt8) :
    Except StrayByte (List α) :=
  (input.zipIdx 1).mapM fun (byte, position) =>
    match read byte with
    | some value => .ok value
    | none => .error ⟨byte, position⟩

theorem splitAtByte?_append (count : Nat) (text before after : List Char)
    (cut : splitAtByte? count text = some (before, after)) : text = before ++ after := by
  induction text generalizing count before with
  | nil =>
    cases count with
    | zero =>
      simp only [splitAtByte?, Option.some.injEq, Prod.mk.injEq] at cut
      simp [← cut.1, ← cut.2]
    | succ count => simp [splitAtByte?] at cut
  | cons c rest ih =>
    cases count with
    | zero =>
      simp only [splitAtByte?, Option.some.injEq, Prod.mk.injEq] at cut
      simp [← cut.1, ← cut.2]
    | succ count =>
      simp only [splitAtByte?] at cut
      split at cut
      · obtain ⟨⟨head, tail⟩, found, same⟩ := Option.map_eq_some_iff.mp cut
        simp only [Prod.mk.injEq] at same
        rw [ih _ _ (same.2 ▸ found), ← same.1]
        rfl
      · simp at cut

theorem bytes_append (first second : List Char) :
    bytes (first ++ second) = bytes first ++ bytes second := by
  simp [bytes]

end Advent.Text
