import Advent.Text.Bytes
import Mathlib.Data.List.Basic

/-!
# Characters of ASCII

A character of ASCII is its only byte, and no byte of any other character belongs to ASCII. So a text
of ASCII characters has one byte for each of them and is known by its bytes, and a text whose bytes
all belong to ASCII has no other characters.
-/
namespace Advent.Text

/-- A character past ASCII has no byte of an ASCII character. -/
theorem le_of_mem_utf8EncodeChar {c : Char} (wide : 0x7f < c.toNat) {byte : UInt8}
    (member : byte ∈ String.utf8EncodeChar c) : 0x80 ≤ byte.toNat := by
  have wide' : ¬ c.val.toNat ≤ 0x7f := Nat.not_le.mpr wide
  simp only [String.utf8EncodeChar, if_neg wide'] at member
  -- The first byte marks how many there are, and each byte after it carries the mark `0x80`.
  split at member
  · simp only [List.mem_cons, List.not_mem_nil, or_false] at member
    rcases member with rfl | rfl <;> simp only [UInt8.toNat_ofNat'] <;> omega
  split at member
  · simp only [List.mem_cons, List.not_mem_nil, or_false] at member
    rcases member with rfl | rfl | rfl <;> simp only [UInt8.toNat_ofNat'] <;> omega
  · simp only [List.mem_cons, List.not_mem_nil, or_false] at member
    rcases member with rfl | rfl | rfl | rfl <;> simp only [UInt8.toNat_ofNat'] <;> omega

/-- A character of ASCII is its only byte. -/
theorem utf8EncodeChar_of_ascii {c : Char} (ascii : c.toNat ≤ 0x7f) :
    String.utf8EncodeChar c = [c.toUInt8] := by
  have narrow : c.val.toNat ≤ 0x7f := ascii
  simp only [String.utf8EncodeChar, if_pos narrow]
  rfl

theorem ofUInt8_toUInt8 {c : Char} (ascii : c.toNat ≤ 0x7f) : Char.ofUInt8 c.toUInt8 = c := by
  have narrow : c.val.toNat ≤ 0x7f := ascii
  apply Char.ext
  apply UInt32.toNat_inj.mp
  change c.val.toUInt8.toUInt32.toNat = c.val.toNat
  simp only [UInt8.toNat_toUInt32, UInt32.toNat_toUInt8]
  omega

section Text

variable {text : List Char}

theorem bytes_of_ascii (ascii : ∀ c ∈ text, c.toNat ≤ 0x7f) :
    bytes text = text.map Char.toUInt8 := by
  rw [bytes, List.map_eq_flatMap]
  exact List.flatMap_congr fun c member => utf8EncodeChar_of_ascii (ascii c member)

theorem map_ofUInt8_toUInt8 (ascii : ∀ c ∈ text, c.toNat ≤ 0x7f) :
    (text.map Char.toUInt8).map Char.ofUInt8 = text := by
  rw [List.map_map]
  exact (List.map_congr_left fun c member => ofUInt8_toUInt8 (ascii c member)).trans
    (List.map_id text)

/-- A text whose bytes are of ASCII has only characters of ASCII. -/
theorem ascii_of_bytes (ascii : ∀ byte ∈ bytes text, byte.toNat ≤ 0x7f) :
    ∀ c ∈ text, c.toNat ≤ 0x7f := by
  intro c member
  by_contra wide
  have filled : String.utf8EncodeChar c ≠ [] := by
    intro empty
    have size := String.length_utf8EncodeChar c
    rw [empty] at size
    exact absurd size (Nat.ne_of_lt c.utf8Size_pos)
  obtain ⟨byte, inside⟩ := List.exists_mem_of_ne_nil _ filled
  have large := le_of_mem_utf8EncodeChar (Nat.lt_of_not_le wide) inside
  have small := ascii byte (List.mem_flatMap.mpr ⟨c, member, inside⟩)
  omega

end Text

end Advent.Text
