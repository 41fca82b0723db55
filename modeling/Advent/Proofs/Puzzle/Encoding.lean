import Advent.Proofs.Puzzle.Literals
import Advent.Proofs.Text.Ascii

/-!
# The literal for a text

Any text has a literal: quotes and backslashes get a backslash before them, and double quotes go
around the whole. Its length is the closed form that the second part adds up, and in memory it has one
character for each byte of the text. Bytes of quotes and backslashes occur in no other character, so
a literal can be taken byte by byte, and what stands for a byte is a character in memory whatever
comes after it.
-/
namespace Advent.Literals

/-- A character as it stands in a literal. -/
def escape (c : Char) : List Char :=
  if c = '"' ∨ c = '\\' then ['\\', c] else [c]

/-- The literal for a text. -/
def encode (text : List Char) : List Char :=
  '"' :: (text.flatMap escape ++ ['"'])

/-- A byte as it stands in a literal. -/
def escapeByte (byte : UInt8) : List UInt8 :=
  if needsEscape byte then [0x5c, byte] else [byte]

/-! ### Bytes of a literal -/

theorem needsEscape_iff (byte : UInt8) : needsEscape byte = true ↔ byte = 0x5c ∨ byte = 0x22 := by
  have quote : '"'.toUInt8 = 0x22 := by decide
  have backslash : '\\'.toUInt8 = 0x5c := by decide
  simp [needsEscape, quote, backslash]

theorem needsEscape_of_mem_utf8EncodeChar {c : Char} {byte : UInt8}
    (member : byte ∈ String.utf8EncodeChar c) (special : needsEscape byte = true) :
    c = '"' ∨ c = '\\' := by
  rw [needsEscape_iff] at special
  -- An ASCII character is its only byte, and the bytes of any other one are all too large.
  by_cases narrow : c.toNat ≤ 0x7f
  · obtain rfl : byte = c.toUInt8 := by
      simpa [Text.utf8EncodeChar_of_ascii narrow] using member
    rw [← Text.ofUInt8_toUInt8 narrow]
    rcases special with backslash | quote
    · rw [backslash]
      exact Or.inr (by decide)
    · rw [quote]
      exact Or.inl (by decide)
  · have large := Text.le_of_mem_utf8EncodeChar (Nat.not_le.mp narrow) member
    rcases special with rfl | rfl <;> exact absurd large (by decide)

theorem bytes_escape (c : Char) :
    Text.bytes (escape c) = (String.utf8EncodeChar c).flatMap escapeByte := by
  by_cases special : c = '"' ∨ c = '\\'
  · rcases special with rfl | rfl <;> decide
  · have plain : ∀ byte ∈ String.utf8EncodeChar c, escapeByte byte = [byte] := fun byte member =>
      if_neg fun escaped => special (needsEscape_of_mem_utf8EncodeChar member escaped)
    rw [escape, if_neg special, List.flatMap_congr plain, List.flatMap_singleton']
    exact List.flatMap_singleton ..

theorem bytes_encode (text : List Char) :
    Text.bytes (encode text) = 0x22 :: ((Text.bytes text).flatMap escapeByte ++ [0x22]) := by
  have quote : String.utf8EncodeChar '"' = [0x22] := by decide
  simp only [encode, Text.bytes, List.flatMap_cons, List.flatMap_append, List.flatMap_nil, quote,
    List.flatMap_assoc, ← bytes_escape]
  simp

theorem length_flatMap_escapeByte (body : List UInt8) :
    (body.flatMap escapeByte).length = body.length + body.countP needsEscape := by
  induction body with
  | nil => rfl
  | cons byte rest ih =>
    rw [List.flatMap_cons, List.length_append, ih, List.length_cons, List.countP_cons, escapeByte]
    split <;> simp <;> omega

/-! ### Reading it in memory -/

/-- What stands for a byte is one character, also before hexadecimal digits or another escape. -/
theorem characterLength_escapeByte (byte : UInt8) (rest : List UInt8) :
    characterLength (escapeByte byte ++ rest) = (escapeByte byte).length := by
  by_cases special : needsEscape byte = true
  · rw [escapeByte, if_pos special]
    rcases (needsEscape_iff byte).mp special with rfl | rfl <;> rfl
  · have plain : byte ≠ 0x5c := fun same => special ((needsEscape_iff byte).mpr (Or.inl same))
    rw [escapeByte, if_neg special]
    -- Only a backslash begins a character of more than one byte.
    unfold characterLength
    split <;> simp_all

/-- From the end of what was read, the rest is as many characters as items, if what is written for an
item is one character whatever comes after it. -/
theorem countFrom_flatMap {α : Type} {write : α → List UInt8}
    (single : ∀ item rest, characterLength (write item ++ rest) = (write item).length)
    (before : List UInt8) (items : List α) (count : Nat) :
    countFrom (before ++ items.flatMap write) before.length count = .ok (count + items.length) := by
  -- What is written for the first item is passed as one character and joins what was read.
  induction items generalizing before count with
  | nil =>
    rw [countFrom, if_neg (by simp)]
    rfl
  | cons item rest ih =>
    have nonempty : 0 < (write item).length := single item [] ▸ characterLength_pos _
    have inside : before.length < (before ++ (item :: rest).flatMap write).length := by
      rw [List.flatMap_cons, List.length_append, List.length_append]
      omega
    have slice : Text.sliceFrom before.length (before ++ (item :: rest).flatMap write) =
        .ok (write item ++ rest.flatMap write) := by
      rw [Text.sliceFrom_of_le (Nat.le_of_lt inside), List.drop_left, List.flatMap_cons]
    have next := ih (before ++ write item) (count + 1)
    rw [List.append_assoc, List.length_append] at next
    rw [countFrom, if_pos inside]
    simp only [slice, single]
    rw [List.flatMap_cons, next, List.length_cons, Nat.add_right_comm, Nat.add_assoc]

theorem countFrom_escaped (before body : List UInt8) (count : Nat) :
    countFrom (before ++ body.flatMap escapeByte) before.length count =
      .ok (count + body.length) :=
  countFrom_flatMap characterLength_escapeByte before body count

theorem lengthInMemory_quoted (body : List UInt8) :
    lengthInMemory (0x22 :: (body ++ [0x22])) = countFrom body 0 0 := by
  have inside : Text.slice 1 ((0x22 :: (body ++ [0x22])).length - 1) (0x22 :: (body ++ [0x22])) =
      .ok body := by
    rw [Text.slice_of_le (by simp) (Nat.sub_le _ 1)]
    simp
  rw [lengthInMemory, inside]
  rfl

/-- The literal for a text is as long as the closed form says, and has one character in memory for
each byte of the text. -/
theorem encoded_text_has_its_length (text : List Char) :
    (Text.bytes (encode text)).length = encodedLength (Text.bytes text) ∧
      lengthInMemory (Text.bytes (encode text)) = .ok (Text.byteLength text) := by
  rw [bytes_encode]
  constructor
  · rw [List.length_cons, List.length_append, length_flatMap_escapeByte, encodedLength,
      List.length_singleton]
    omega
  · have counted := countFrom_escaped [] (Text.bytes text) 0
    rw [List.nil_append, Nat.zero_add] at counted
    rw [lengthInMemory_quoted]
    exact counted

end Advent.Literals
