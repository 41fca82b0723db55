import Advent.Proofs.Text.StrayCharacters
import Advent.Puzzle.Floors
import Advent.Puzzle.Houses

/-!
# Characters that are no instructions

Floors and houses are told by single characters. An input is refused exactly if, blanks at both ends
apart, it has a character that is no instruction, and the position in the error is that of the first
one. The error shows the first byte of this character as a code point, so past ASCII it names a
character that need not occur in the input at all.
-/
namespace Advent

/-- The first character of an input that is no instruction, blanks at both ends apart, and its
position among the characters, counted from one. -/
def FirstStray (instructions : List Char) (input : String) (c : Char) (position : Nat) : Prop :=
  ∃ before after, Text.trim input.toList = before ++ c :: after ∧
    (∀ earlier ∈ before, earlier ∈ instructions) ∧ c ∉ instructions ∧
    position = before.length + 1

/-- The input is refused exactly if it has a character that is no instruction. The message starts
with the given words and goes on with a name for the first of these and with its position. -/
def RefusesStray {α : Type} (parse : String → Except ParseError α) (instructions : List Char)
    (words : String) (name : Char → Char) (input : String) : Prop :=
  ∀ error, parse input = .error error ↔ ∃ c position, FirstStray instructions input c position ∧
    error = .invalidFormat s!"{words}{Text.quoteChar (name c)} at position {position}"

section Parsers

variable {α : Type} {parse : String → Except ParseError (List α)} {read : UInt8 → Option α}
  {instructions : List Char} {words : String}

theorem refusesStray_of_knowsOnly (knows : Text.KnowsOnly read instructions)
    (parses : ∀ input, parse input =
      (Text.readBytes read (Text.bytes (Text.trim input.toList))).mapError fun stray =>
        .invalidFormat s!"{words}{Text.quoteChar stray.shown} at position {stray.position}")
    (input : String) : RefusesStray parse instructions words Text.leadChar input := by
  intro error
  rw [parses]
  have refused := knows.readBytes_eq_error_iff (Text.trim input.toList)
  constructor
  · intro worded
    cases done : Text.readBytes read (Text.bytes (Text.trim input.toList)) with
    | ok values =>
      rw [done] at worded
      cases worded
    | error stray =>
      rw [done] at worded
      obtain ⟨before, c, after, whole, inside, unknown, rfl⟩ := (refused stray).mp done
      exact ⟨c, _, ⟨before, after, whole, inside, unknown, rfl⟩, (Except.error.inj worded).symm⟩
  · rintro ⟨c, position, ⟨before, after, whole, inside, unknown, rfl⟩, rfl⟩
    rw [(refused _).mpr ⟨before, c, after, whole, inside, unknown, rfl⟩]
    rfl

/-- The first byte is a right name for ASCII and for the letter that is its own first byte. -/
theorem refusesStray_by_itself_iff {input : String}
    (refuses : RefusesStray parse instructions words Text.leadChar input) :
    RefusesStray parse instructions words id input ↔
      ∀ c position, FirstStray instructions input c position → c.toNat ≤ 0x7f ∨ c = 'Ã' := by
  simp only [← Text.leadChar_eq_self_iff]
  constructor
  · intro by_itself c position stray
    -- Both names stand in the one error of this input.
    have first := (refuses _).mpr ⟨c, position, stray, rfl⟩
    have second := (by_itself _).mpr ⟨c, position, stray, rfl⟩
    have same := Except.error.inj (first.symm.trans second)
    have texts : toString (Text.quoteChar (Text.leadChar c)) = toString (Text.quoteChar c) := by
      simpa using same
    exact (Text.quoteChar_leadChar_iff c).mp texts
  · intro right error
    -- Where every name is right, the two kinds of error are the same.
    rw [refuses error]
    refine exists_congr fun c => exists_congr fun position => and_congr_right fun stray => ?_
    rw [right c position stray, id]

end Parsers

theorem Floors.Move.ofByte?_knowsOnly : Text.KnowsOnly Move.ofByte? ['(', ')'] where
  ascii := by simp
  isSome_iff byte := by
    unfold Move.ofByte?
    split
    · simp [*]
    split <;> simp [*]

theorem Houses.Direction.ofByte?_knowsOnly :
    Text.KnowsOnly Direction.ofByte? ['^', 'v', '>', '<'] where
  ascii := by simp
  isSome_iff byte := by
    unfold Direction.ofByte?
    repeat' split
    all_goals simp [*]

/-- Every input with a character that is no instruction is refused at the position of the first such
character, but the error names the character by its first byte. So it names the character itself if
and only if this is of ASCII or the one letter whose code point is its own first byte. -/
theorem stray_instruction_named_by_first_byte (input : String) :
    RefusesStray Floors.parse ['(', ')'] "unexpected character " Text.leadChar input ∧
    RefusesStray Houses.parse ['^', 'v', '>', '<'] "unexpected direction " Text.leadChar input ∧
    (RefusesStray Floors.parse ['(', ')'] "unexpected character " id input ↔
      ∀ c position, FirstStray ['(', ')'] input c position → c.toNat ≤ 0x7f ∨ c = 'Ã') ∧
    (RefusesStray Houses.parse ['^', 'v', '>', '<'] "unexpected direction " id input ↔
      ∀ c position, FirstStray ['^', 'v', '>', '<'] input c position →
        c.toNat ≤ 0x7f ∨ c = 'Ã') := by
  have floors : RefusesStray Floors.parse ['(', ')'] "unexpected character " Text.leadChar input :=
    refusesStray_of_knowsOnly Floors.Move.ofByte?_knowsOnly (fun _ => rfl) input
  have houses : RefusesStray Houses.parse ['^', 'v', '>', '<'] "unexpected direction "
      Text.leadChar input :=
    refusesStray_of_knowsOnly Houses.Direction.ofByte?_knowsOnly (fun _ => rfl) input
  exact ⟨floors, houses, refusesStray_by_itself_iff floors, refusesStray_by_itself_iff houses⟩

/-- An accented letter is refused by the name of a letter that the input does not have. -/
theorem accented_letter_refused_by_another_name :
    Floors.parse "(é" = .error (.invalidFormat "unexpected character 'Ã' at position 2") ∧
      Houses.parse ">é" = .error (.invalidFormat "unexpected direction 'Ã' at position 2") ∧
      'Ã' ∉ "(é".toList ∧ 'Ã' ∉ ">é".toList := by
  decide +kernel

end Advent
