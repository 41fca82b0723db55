import Advent.Proofs.Text.Ascii
import Advent.Proofs.Text.Reading
import Advent.Text.Quoted

/-!
# The first character without a meaning

A reader of bytes that knows nothing but some characters of ASCII refuses a text exactly if another
character occurs in it. What stands before the first such character has a byte for each character,
so the position of the stray byte is that of the character, and the byte is its first one. Shown as
a code point, this byte is the character itself if that is of ASCII, and otherwise for one letter
only.
-/
namespace Advent.Text

/-! ### First bytes -/

/-- The first byte of a character. -/
def leadByte (c : Char) : UInt8 :=
  (String.utf8EncodeChar c).headD 0

/-- The character whose code point is the first byte of a character. -/
def leadChar (c : Char) : Char :=
  Char.ofNat (leadByte c).toNat

theorem utf8EncodeChar_eq_cons (c : Char) :
    ∃ rest, String.utf8EncodeChar c = leadByte c :: rest := by
  unfold leadByte
  cases encoded : String.utf8EncodeChar c with
  | nil =>
    have size := String.length_utf8EncodeChar c
    rw [encoded] at size
    exact absurd size (Nat.ne_of_lt c.utf8Size_pos)
  | cons byte rest => exact ⟨rest, rfl⟩

theorem leadByte_of_ascii {c : Char} (ascii : c.toNat ≤ 0x7f) : leadByte c = c.toUInt8 := by
  rw [leadByte, utf8EncodeChar_of_ascii ascii]
  rfl

theorem leadByte_toNat (c : Char) : (leadByte c).toNat =
    if c.toNat ≤ 0x7f then c.toNat
    else if c.toNat ≤ 0x7ff then 0xc0 + c.toNat / 64
    else if c.toNat ≤ 0xffff then 0xe0 + c.toNat / 4096
    else 0xf0 + c.toNat / 262144 := by
  have valid : c.val.toNat < 0x110000 := c.valid.elim (by omega) And.right
  simp only [leadByte, String.utf8EncodeChar, Char.toNat]
  -- No first byte wraps around, since a code point has at most 21 bits.
  repeat' split
  all_goals
    simp only [List.headD_cons, UInt8.toNat_ofNat']
    omega

/-- No first byte past ASCII is one that only goes on with a character. -/
theorem le_leadByte {c : Char} (wide : 0x7f < c.toNat) : 0xc0 ≤ (leadByte c).toNat := by
  rw [leadByte_toNat, if_neg (Nat.not_le.mpr wide)]
  repeat' split
  all_goals omega

theorem leadChar_toNat (c : Char) : (leadChar c).toNat = (leadByte c).toNat := by
  have byte : (leadByte c).toNat < 256 := (leadByte c).toNat_lt
  rw [leadChar, Char.ofNat, dif_pos (Or.inl (by omega))]
  rfl

/-- Past ASCII only one character has its code point as its first byte. -/
theorem leadChar_eq_self_iff (c : Char) : leadChar c = c ↔ c.toNat ≤ 0x7f ∨ c = 'Ã' := by
  have letter : c = 'Ã' ↔ c.toNat = 0xc3 := Char.toNat_inj.symm
  rw [letter, ← Char.toNat_inj, leadChar_toNat, leadByte_toNat]
  repeat' split
  all_goals omega

/-! ### Names in messages -/

theorem eq_of_escapeChar_singleton {quotes : List Char} {c d : Char}
    (single : escapeChar quotes c = [d]) : c = d := by
  unfold escapeChar at single
  -- Every escape starts with a backslash and goes on.
  repeat' split at single
  all_goals cases single <;> rfl

/-- The letters and signs from U+00C0 to U+00FF are shown as they are. -/
theorem escapeChar_of_latin {c : Char} (from_c0 : 0xc0 ≤ c.toNat) (to_ff : c.toNat ≤ 0xff) :
    escapeChar ['\''] c = [c] := by
  have apart : ∀ range ∈ unshownRanges, range.2 < 0xc0 ∨ 0xff < range.1 := by decide +kernel
  have shown : isUnshown c = false := by
    apply Bool.eq_false_iff.mpr
    intro unshown
    obtain ⟨range, listed, low, high⟩ := (inRanges_iff _ _).mp unshown
    have := apart range listed
    omega
  have no_quote : c ∉ ['\''] := by
    intro quote
    rw [List.mem_singleton.mp quote] at from_c0
    exact absurd from_c0 (by decide)
  unfold escapeChar
  split
  all_goals first
    | exact absurd from_c0 (by decide)
    | rw [if_neg no_quote, shown, if_neg Bool.false_ne_true]

theorem quoteChar_leadChar_iff (c : Char) :
    quoteChar (leadChar c) = quoteChar c ↔ leadChar c = c := by
  constructor
  · intro same
    by_cases ascii : c.toNat ≤ 0x7f
    · exact (leadChar_eq_self_iff c).mpr (Or.inl ascii)
    · have from_c0 : 0xc0 ≤ (leadChar c).toNat := by
        rw [leadChar_toNat]
        exact le_leadByte (Nat.lt_of_not_le ascii)
      have to_ff : (leadChar c).toNat ≤ 0xff := by
        rw [leadChar_toNat]
        exact Nat.le_of_lt_succ (leadByte c).toNat_lt
      have texts := String.ofList_injective same
      have escapes : escapeChar ['\''] (leadChar c) = escapeChar ['\''] c :=
        List.append_cancel_left (List.append_cancel_right texts)
      rw [escapeChar_of_latin from_c0 to_ff] at escapes
      exact (eq_of_escapeChar_singleton escapes.symm).symm
  · intro same
    rw [same]

/-! ### Readers of bytes -/

section Bytes

variable {α : Type} {read : UInt8 → Option α}

/-- A reader stops at the first byte that it does not know. -/
theorem readBytes_eq_error {before : List UInt8} {byte : UInt8}
    (known : ∀ earlier ∈ before, (read earlier).isSome) (stray : read byte = none)
    (after : List UInt8) :
    readBytes read (before ++ byte :: after) = .error ⟨byte, before.length + 1⟩ := by
  -- The bytes are numbered from any number on, since the rest is not numbered from one.
  rw [Nat.add_comm]
  unfold readBytes
  generalize 1 = position
  induction before generalizing position with
  | nil =>
    rw [List.nil_append, List.zipIdx_cons, List.mapM_cons]
    simp only [stray]
    rfl
  | cons first rest ih =>
    obtain ⟨known_first, others⟩ := List.forall_mem_cons.mp known
    obtain ⟨value, found⟩ := Option.isSome_iff_exists.mp known_first
    rw [List.cons_append, List.zipIdx_cons, List.mapM_cons, ih others, List.length_cons,
      Nat.add_right_comm, Nat.add_assoc position]
    simp only [found]
    rfl

theorem exists_readBytes_eq_ok {input : List UInt8} (known : ∀ byte ∈ input, (read byte).isSome) :
    ∃ values, readBytes read input = .ok values := by
  cases done : readBytes read input with
  | ok values => exact ⟨values, rfl⟩
  | error stray =>
    obtain ⟨⟨byte, position⟩, member, refused⟩ := error_of_mapM done
    obtain ⟨value, found⟩ := Option.isSome_iff_exists.mp
      (known byte (List.fst_mem_of_mem_zipIdx member))
    simp [found] at refused

end Bytes

/-! ### Readers of characters -/

/-- The reader knows the bytes of these characters of ASCII and no others. -/
structure KnowsOnly {α : Type} (read : UInt8 → Option α) (known : List Char) : Prop where
  ascii : ∀ c ∈ known, c.toNat ≤ 0x7f
  isSome_iff : ∀ byte, (read byte).isSome ↔ byte ∈ known.map Char.toUInt8

namespace KnowsOnly

variable {α : Type} {read : UInt8 → Option α} {known : List Char} (knows : KnowsOnly read known)

include knows

/-- A character is known by its first byte. -/
theorem isSome_leadByte_iff (c : Char) : (read (leadByte c)).isSome ↔ c ∈ known := by
  rw [knows.isSome_iff, List.mem_map]
  constructor
  · rintro ⟨other, member, same⟩
    have narrow := knows.ascii other member
    -- A character past ASCII has a first byte past ASCII, which no known character has.
    have ascii : c.toNat ≤ 0x7f := by
      by_contra wide
      have large := le_leadByte (Nat.lt_of_not_le wide)
      rw [← same, ← leadByte_of_ascii narrow, leadByte_toNat, if_pos narrow] at large
      omega
    rw [leadByte_of_ascii ascii] at same
    rw [← ofUInt8_toUInt8 ascii, ← same, ofUInt8_toUInt8 narrow]
    exact member
  · intro member
    exact ⟨c, member, (leadByte_of_ascii (knows.ascii c member)).symm⟩

theorem isSome_of_mem_bytes {text : List Char} (inside : ∀ c ∈ text, c ∈ known) :
    ∀ byte ∈ bytes text, (read byte).isSome := by
  intro byte member
  rw [bytes_of_ascii fun c member => knows.ascii c (inside c member)] at member
  obtain ⟨c, listed, rfl⟩ := List.mem_map.mp member
  exact (knows.isSome_iff _).mpr (List.mem_map_of_mem (inside c listed))

theorem readBytes_eq_error_of_first {before : List Char} {c : Char}
    (inside : ∀ earlier ∈ before, earlier ∈ known) (stray : c ∉ known) (after : List Char) :
    readBytes read (bytes (before ++ c :: after)) = .error ⟨leadByte c, before.length + 1⟩ := by
  obtain ⟨rest, encoded⟩ := utf8EncodeChar_eq_cons c
  have unknown : read (leadByte c) = none := by
    rw [← Option.not_isSome_iff_eq_none, knows.isSome_leadByte_iff]
    exact stray
  have length : (bytes before).length = before.length := by
    rw [bytes_of_ascii fun c member => knows.ascii c (inside c member), List.length_map]
  have whole :
      bytes (before ++ c :: after) = bytes before ++ leadByte c :: (rest ++ bytes after) := by
    rw [bytes_append, bytes, bytes, List.flatMap_cons, encoded]
    rfl
  rw [whole, readBytes_eq_error (knows.isSome_of_mem_bytes inside) unknown, length]

/-- A text is refused exactly if it has a character that is not known, and then for the first. -/
theorem readBytes_eq_error_iff (text : List Char) (stray : StrayByte) :
    readBytes read (bytes text) = .error stray ↔
      ∃ before c after, text = before ++ c :: after ∧ (∀ earlier ∈ before, earlier ∈ known) ∧
        c ∉ known ∧ stray = ⟨leadByte c, before.length + 1⟩ := by
  constructor
  · intro refused
    -- There is a first character that is not known, or the reader knows every byte.
    cases found : text.find? (· ∉ known) with
    | none =>
      have inside : ∀ c ∈ text, c ∈ known := by simpa using found
      obtain ⟨values, read⟩ := exists_readBytes_eq_ok (knows.isSome_of_mem_bytes inside)
      rw [read] at refused
      cases refused
    | some c =>
      obtain ⟨outside, before, after, rfl, inside⟩ := List.find?_eq_some_iff_append.mp found
      have known_before : ∀ earlier ∈ before, earlier ∈ known := by simpa using inside
      have unknown : c ∉ known := by simpa using outside
      rw [knows.readBytes_eq_error_of_first known_before unknown, Except.error.injEq] at refused
      exact ⟨before, c, after, rfl, known_before, unknown, refused.symm⟩
  · rintro ⟨before, c, after, rfl, inside, unknown, rfl⟩
    exact knows.readBytes_eq_error_of_first inside unknown after

end KnowsOnly

end Advent.Text
