import Advent.Proofs.Puzzle.Floors
import Advent.Proofs.Text.Ascii
import Advent.Proofs.Text.Numerals
import Advent.Proofs.Text.Splitting

/-!
# The way into the basement

The floor after some brackets is the number of opening ones minus the number of closing ones. Floors
change by one with each bracket, so a visitor who is ever below floor zero has come to floor minus one
first, and the first position with that floor is the first one below zero. It is odd, and there is one
whenever the last floor is below zero.
-/
namespace Advent.Floors

/-! ### Floors and brackets -/

def Move.bracket : Move → Char
  | .up => '('
  | .down => ')'

/-- How many more brackets open than close. -/
def floorAfter (text : List Char) : Int :=
  (text.count '(' : Int) - text.count ')'

/-- The first characters, so many of them, lead to floor minus one and no fewer lead below zero. -/
structure FirstEntry (text : List Char) (position : Nat) : Prop where
  within : position ≤ text.length
  floor_eq : floorAfter (text.take position) = -1
  above : ∀ earlier < position, 0 ≤ floorAfter (text.take earlier)

theorem floorAfter_nil : floorAfter [] = 0 := rfl

theorem floorAfter_cons (move : Move) (rest : List Char) :
    floorAfter (move.bracket :: rest) = move.delta + floorAfter rest := by
  cases move with
  | up => simp [floorAfter, Move.bracket, Move.delta]; omega
  | down => simp [floorAfter, Move.bracket, Move.delta]; omega

theorem floorAfter_trim (text : List Char) : floorAfter (Text.trim text) = floorAfter text := by
  have opening : Text.isBlank '(' = false := by decide
  have closing : Text.isBlank ')' = false := by decide
  rw [floorAfter, Text.count_trim opening, Text.count_trim closing, floorAfter]

/-- Each bracket changes the floor by one. -/
theorem floorAfter_parity (moves : List Move) :
    (floorAfter (moves.map Move.bracket) - moves.length) % 2 = 0 := by
  induction moves with
  | nil => rfl
  | cons move rest ih =>
    rw [List.map_cons, floorAfter_cons, List.length_cons]
    cases move with
    | up => simp only [Move.delta]; omega
    | down => simp only [Move.delta]; omega

namespace FirstEntry

variable {moves : List Move} {position other : Nat} {text : List Char}

theorem eq (entry : FirstEntry text position) (entry' : FirstEntry text other) :
    position = other := by
  rcases Nat.lt_trichotomy position other with before | same | after
  · have above := entry'.above position before
    have below := entry.floor_eq
    omega
  · exact same
  · have above := entry.above other after
    have below := entry'.floor_eq
    omega

theorem not_above (entry : FirstEntry text position) :
    ¬ ∀ count, 0 ≤ floorAfter (text.take count) := by
  intro above
  have low := entry.floor_eq
  have high := above position
  omega

theorem odd (entry : FirstEntry (moves.map Move.bracket) position) : position % 2 = 1 := by
  have parity := floorAfter_parity (moves.take position)
  have within : position ≤ moves.length := by simpa using entry.within
  rw [List.map_take, entry.floor_eq, List.length_take_of_le within] at parity
  omega

end FirstEntry

/-! ### Reading brackets -/

theorem eq_bracket_of_ofByte? {byte : UInt8} {move : Move} (read : Move.ofByte? byte = some move) :
    byte = move.bracket.toUInt8 := by
  unfold Move.ofByte? at read
  split at read
  next opening =>
    cases read
    exact opening
  · split at read
    next closing =>
      cases read
      exact closing
    · cases read

/-- What was read are the brackets of the trimmed text. -/
theorem trim_of_parse {input : String} {moves : List Move} (read : parse input = .ok moves) :
    Text.trim input.toList = moves.map Move.bracket := by
  have pairs := Text.forall₂_of_readBytes (Text.of_mapError_eq_ok read)
  have bytes_eq : Text.bytes (Text.trim input.toList) =
      moves.map fun move => move.bracket.toUInt8 := by
    rw [← List.forall₂_eq_eq_eq, List.forall₂_map_right_iff]
    exact pairs.imp fun byte move => eq_bracket_of_ofByte?
  -- Brackets take one byte each, so the characters can be had back from the bytes.
  have narrow (move : Move) : move.bracket.toNat ≤ 0x7f := by cases move <;> decide
  have ascii : ∀ c ∈ Text.trim input.toList, c.toNat ≤ 0x7f := by
    apply Text.ascii_of_bytes
    rw [bytes_eq]
    refine List.forall_mem_map.mpr fun move _ => ?_
    cases move <;> decide
  rw [← Text.map_ofUInt8_toUInt8 ascii, ← Text.bytes_of_ascii ascii, bytes_eq, List.map_map]
  exact List.map_congr_left fun move _ => Text.ofUInt8_toUInt8 (narrow move)

theorem length_lt_of_parse {input : String} {moves : List Move} (read : parse input = .ok moves)
    (short : input.length < 2 ^ 31) : moves.length < Word.size 31 := by
  have fewer := (Text.trim_sublist input.toList).length_le
  rw [trim_of_parse read, List.length_map, String.length_toList] at fewer
  rw [Word.size_eq]
  omega

/-! ### Walking up and down -/

theorem Move.eq_of_apply {floor next : Int} {move : Move} (moved : move.apply floor = some next) :
    next = floor + move.delta := by
  unfold Move.apply Word.signed32? at moved
  split at moved
  · exact (Option.some.inj moved).symm
  · cases moved

theorem foldlM_apply_eq {moves : List Move} {floor last : Int}
    (walked : moves.foldlM Move.apply floor = some last) :
    last = floor + floorAfter (moves.map Move.bracket) := by
  induction moves generalizing floor with
  | nil =>
    cases walked
    exact (Int.add_zero _).symm
  | cons move rest ih =>
    obtain ⟨next, moved, later⟩ := Option.bind_eq_some_iff.mp walked
    rw [List.map_cons, floorAfter_cons, ih later, Move.eq_of_apply moved, Int.add_assoc]

/-- The search finds the first position below floor zero, or all floors are zero or above. -/
theorem entryFrom_cases {moves : List Move} {floor : Int} {taken : Nat} (above : 0 ≤ floor)
    (near : floor.natAbs ≤ taken) (short : taken + moves.length < Word.size 31) :
    (∃ count, entryFrom floor taken moves = .ok (taken + count) ∧ count ≤ moves.length ∧
      floor + floorAfter ((moves.map Move.bracket).take count) = -1 ∧
      ∀ fewer < count, 0 ≤ floor + floorAfter ((moves.map Move.bracket).take fewer)) ∨
    entryFrom floor taken moves = .error .neverEntered ∧
      ∀ count, 0 ≤ floor + floorAfter ((moves.map Move.bracket).take count) := by
  -- The floor is never further from zero than the moves taken to it, so no floor on the way is out
  -- of 32 bits.
  induction moves generalizing floor taken with
  | nil =>
    refine Or.inr ⟨rfl, fun count => ?_⟩
    simpa [floorAfter_nil] using above
  | cons move rest ih =>
    rw [List.length_cons] at short
    obtain ⟨next, moved, close⟩ := move.apply_of_near near (by omega)
    have floor_eq := Move.eq_of_apply moved
    have after (count : Nat) :
        floor + floorAfter (((move :: rest).map Move.bracket).take (count + 1)) =
          next + floorAfter ((rest.map Move.bracket).take count) := by
      rw [List.map_cons, List.take_succ_cons, floorAfter_cons, floor_eq, Int.add_assoc]
    simp only [entryFrom, moved]
    by_cases entered : next = -1
    · refine Or.inl ⟨1, if_pos entered, by simp, ?_, ?_⟩
      · rw [after 0, List.take_zero, floorAfter_nil, entered]
        rfl
      · intro fewer less
        obtain rfl : fewer = 0 := by omega
        simpa [floorAfter_nil] using above
    · -- A move from floor zero or above leads to minus one before it leads any lower.
      have above' : 0 ≤ next := by
        have step : -1 ≤ move.delta := by cases move <;> decide
        omega
      rw [if_neg entered]
      rcases ih above' close (by omega) with ⟨count, found, within, low, high⟩ | ⟨missed, high⟩
      · refine Or.inl ⟨count + 1, ?_, by simpa using within, (after count).trans low, ?_⟩
        · rw [found]
          congr 1
          omega
        · intro fewer less
          cases fewer with
          | zero => simpa [floorAfter_nil] using above
          | succ fewer => exact (after fewer).symm ▸ high fewer (by omega)
      · refine Or.inr ⟨missed, fun count => ?_⟩
        cases count with
        | zero => simpa [floorAfter_nil] using above
        | succ count => exact (after count).symm ▸ high count

/-! ### Answers -/

section Answers

variable {moves : List Move} (short : moves.length < Word.size 31)

include short

theorem answer_one_eq :
    answer moves 1 = .ok (toString (floorAfter (moves.map Move.bracket))) := by
  obtain ⟨last, walked, _⟩ := lastFloor_of_short short
  have last_eq := foldlM_apply_eq walked
  rw [Int.zero_add] at last_eq
  rw [answer, walked, last_eq]
  rfl

theorem answer_two_cases :
    (∃ position, FirstEntry (moves.map Move.bracket) position ∧
      answer moves 2 = .ok (toString position)) ∨
    (∀ count, 0 ≤ floorAfter ((moves.map Move.bracket).take count)) ∧
      answer moves 2 = .error (.failed "Santa never enters the basement") := by
  have answered : answer moves 2 =
      ((basementEntry moves).mapError BasementError.toSolveError).map toString := rfl
  rw [answered, basementEntry]
  have room : 0 + moves.length < Word.size 31 := by omega
  rcases entryFrom_cases (Int.le_refl 0) (Nat.le_refl 0) room with
    ⟨count, found, within, low, high⟩ | ⟨missed, high⟩
  · simp only [Int.zero_add, Nat.zero_add] at found low high
    rw [found]
    exact Or.inl ⟨count, ⟨by simpa using within, low, high⟩, rfl⟩
  · simp only [Int.zero_add] at high
    rw [missed]
    exact Or.inr ⟨high, rfl⟩

theorem answer_two_eq_ok_iff (position : Nat) :
    answer moves 2 = .ok (toString position) ↔
      FirstEntry (moves.map Move.bracket) position := by
  rcases answer_two_cases short with ⟨found, entry, answered⟩ | ⟨above, failed⟩
  · rw [answered]
    constructor
    · intro same
      obtain rfl : found = position := Text.eq_of_toString_eq (Except.ok.inj same)
      exact entry
    · intro entry'
      rw [entry.eq entry']
  · rw [failed]
    exact iff_of_false (by simp) fun entry => entry.not_above above

theorem answer_two_failed_iff :
    (∃ reason, answer moves 2 = .error (.failed reason)) ↔
      ∀ count, 0 ≤ floorAfter ((moves.map Move.bracket).take count) := by
  rcases answer_two_cases short with ⟨_, entry, answered⟩ | ⟨above, failed⟩
  · rw [answered]
    exact iff_of_false (by simp) entry.not_above
  · exact iff_of_true ⟨_, failed⟩ above

end Answers

/-- The first part answers how many more brackets open than close. The second answers the number of
characters that first lead below floor zero, which is odd, and fails if and only if none do, so it
does not fail where the first answers a floor below zero. -/
theorem basement_entered_at_first_position {input : String} {moves : List Move}
    (read : parse input = .ok moves) (short : input.length < 2 ^ 31) :
    let text := Text.trim input.toList
    (solver.solveChecked moves 1).answer = .ok (toString (floorAfter input.toList)) ∧
    (∀ position : Nat, (solver.solveChecked moves 2).answer = .ok (toString position) ↔
      FirstEntry text position) ∧
    (∀ position, FirstEntry text position → position % 2 = 1) ∧
    ((∃ reason, (solver.solveChecked moves 2).answer = .error (.failed reason)) ↔
      ∀ count, 0 ≤ floorAfter (text.take count)) ∧
    (floorAfter input.toList < 0 →
      ∃ position : Nat, (solver.solveChecked moves 2).answer = .ok (toString position)) := by
  intro text
  have few := length_lt_of_parse read short
  have brackets : text = moves.map Move.bracket := trim_of_parse read
  have whole : floorAfter input.toList = floorAfter text := (floorAfter_trim _).symm
  have first : (solver.solveChecked moves 1).answer = answer moves 1 := rfl
  have second : (solver.solveChecked moves 2).answer = answer moves 2 := rfl
  rw [first, second, whole, brackets]
  refine ⟨answer_one_eq few, answer_two_eq_ok_iff few, fun _ entry => entry.odd,
    answer_two_failed_iff few, ?_⟩
  intro below
  rcases answer_two_cases few with ⟨found, _, answered⟩ | ⟨above, _⟩
  · exact ⟨found, answered⟩
  · -- The last floor is one of the floors on the way.
    have last := above moves.length
    rw [List.take_of_length_le (by simp)] at last
    omega

/-- The brackets end on floor minus one, where the fifth of them has been before. -/
theorem basement_entered_at_fifth_position :
    parse "\n()())()\n" = .ok [.up, .down, .up, .down, .down, .up, .down] ∧
      "\n()())()\n".length < 2 ^ 31 ∧
      (solver.solveChecked [.up, .down, .up, .down, .down, .up, .down] 1).answer = .ok "-1" ∧
      (solver.solveChecked [.up, .down, .up, .down, .down, .up, .down] 2).answer = .ok "5" := by
  have read : parse "\n()())()\n" = .ok [.up, .down, .up, .down, .down, .up, .down] := by decide
  have short : "\n()())()\n".length < 2 ^ 31 := by decide
  obtain ⟨one, two, _⟩ := basement_entered_at_first_position read short
  have last : floorAfter "\n()())()\n".toList = -1 := by decide
  rw [last] at one
  have entry : FirstEntry (Text.trim "\n()())()\n".toList) 5 := ⟨by decide, by decide, by decide⟩
  exact ⟨read, short, one, (two 5).mpr entry⟩

end Advent.Floors
