import Advent.Proofs.Text.BadLines
import Advent.Proofs.Text.Numerals
import Advent.Proofs.Text.Splitting
import Advent.Puzzle.Lights
import Mathlib.Data.List.TakeWhile
import Mathlib.Data.Option.Basic

/-!
# Written instructions

An instruction is written as an action and two corners, with single spaces where they are shown, as
in `turn on 0,0 through 999,999`. A coordinate is a run of ASCII digits, leading zeroes allowed, with
a value in the grid. The reader splits a text at runs of digits of any script, but refuses those that
are not ASCII, so it takes exactly the texts that are written this way.
-/
namespace Advent.Lights

/-! ### Pieces -/

def Action.text : Action → List Char
  | .turnOn => "turn on ".toList
  | .turnOff => "turn off ".toList
  | .toggle => "toggle ".toList

theorem takeAction?_eq_some_iff {text rest : List Char} {action : Action} :
    takeAction? text = some (action, rest) ↔ text = action.text ++ rest := by
  have starts (start : List Char) (other : Action) :
      ((Text.stripStart? start text).map (other, ·) = some (action, rest)) ↔
        other = action ∧ text = start ++ rest := by
    rw [Option.map_eq_some_iff]
    constructor
    · rintro ⟨tail, found, same⟩
      obtain ⟨rfl, rfl⟩ := Prod.mk.inj same
      exact ⟨rfl, Text.stripStart?_eq_some_iff.mp found⟩
    · rintro ⟨rfl, split⟩
      exact ⟨rest, Text.stripStart?_eq_some_iff.mpr split, rfl⟩
  unfold takeAction?
  constructor
  · intro found
    rcases Option.or_eq_some_iff.mp found with first | ⟨_, found⟩
    · obtain ⟨rfl, split⟩ := (starts ..).mp first
      exact split
    · rcases Option.or_eq_some_iff.mp found with second | ⟨_, third⟩
      · obtain ⟨rfl, split⟩ := (starts ..).mp second
        exact split
      · obtain ⟨rfl, split⟩ := (starts ..).mp third
        exact split
  · rintro rfl
    cases action with
    | turnOn => rfl
    | turnOff => rfl
    | toggle => rfl

theorem decimalDigits_of_isDecimal {digits : List Char} {number : Nat}
    (decimal : Text.IsDecimal digits number) : ∀ c ∈ digits, Text.isDecimalDigit c = true :=
  fun c member => Text.isDecimalDigit_of_isAsciiDigit c
    ((Text.isAsciiDigit_eq_isDigit c).trans (decimal.digits_only c member))

theorem of_takeDigits? {text digits rest : List Char}
    (found : takeDigits? text = some (digits, rest)) :
    text = digits ++ rest ∧ ∀ c ∈ digits, Text.isDecimalDigit c = true := by
  unfold takeDigits? at found
  simp only [Option.ite_none_left_eq_some, Option.some.injEq, Prod.mk.injEq] at found
  obtain ⟨_, rfl, rfl⟩ := found
  exact ⟨List.takeWhile_append_dropWhile.symm, fun c => List.mem_takeWhile_imp⟩

/-- A run of digits ends where the text does or at a character that is no digit. -/
theorem takeDigits?_append {digits rest : List Char} {number : Nat}
    (decimal : Text.IsDecimal digits number)
    (stops : ∀ c ∈ rest.head?, Text.isDecimalDigit c = false) :
    takeDigits? (digits ++ rest) = some (digits, rest) := by
  have run := decimalDigits_of_isDecimal decimal
  have none_left : rest.takeWhile Text.isDecimalDigit = [] ∧
      rest.dropWhile Text.isDecimalDigit = rest := by
    cases rest with
    | nil => exact ⟨rfl, rfl⟩
    | cons c others =>
      have stop : Text.isDecimalDigit c = false := stops c rfl
      exact ⟨List.takeWhile_cons_of_neg (by simp [stop]),
        List.dropWhile_cons_of_neg (by simp [stop])⟩
  unfold takeDigits?
  simp only [List.takeWhile_append_of_pos run, List.dropWhile_append_of_pos run, none_left,
    List.append_nil, Option.ite_none_left_eq_some, List.isEmpty_iff, decimal.not_empty,
    not_false_eq_true, and_self]

theorem of_takeCorner? {text x y rest : List Char} (found : takeCorner? text = some (x, y, rest)) :
    text = x ++ ',' :: (y ++ rest) ∧ (∀ c ∈ x, Text.isDecimalDigit c = true) ∧
      ∀ c ∈ y, Text.isDecimalDigit c = true := by
  unfold takeCorner? at found
  simp only [Option.bind_eq_bind, Option.bind_eq_some_iff, Option.pure_def, Option.some.injEq,
    Prod.mk.injEq, Prod.exists] at found
  obtain ⟨_, afterX, takenX, afterComma, comma, _, _, takenY, rfl, rfl, rfl⟩ := found
  obtain ⟨rfl, digitsX⟩ := of_takeDigits? takenX
  obtain rfl := Text.stripStart?_eq_some_iff.mp comma
  obtain ⟨rfl, digitsY⟩ := of_takeDigits? takenY
  exact ⟨rfl, digitsX, digitsY⟩

theorem takeCorner?_append {x y rest : List Char} {column row : Nat}
    (decimalX : Text.IsDecimal x column) (decimalY : Text.IsDecimal y row)
    (stops : ∀ c ∈ rest.head?, Text.isDecimalDigit c = false) :
    takeCorner? (x ++ ',' :: (y ++ rest)) = some (x, y, rest) := by
  have comma : ∀ c ∈ (',' :: (y ++ rest)).head?, Text.isDecimalDigit c = false := by
    rintro c same
    obtain rfl : ',' = c := Option.some.inj same
    decide
  have strip : Text.stripStart? [','] (',' :: (y ++ rest)) = some (y ++ rest) :=
    Text.stripStart?_eq_some_iff.mpr rfl
  unfold takeCorner?
  rw [takeDigits?_append decimalX comma]
  simp only [Option.bind_eq_bind, Option.bind_some, strip, takeDigits?_append decimalY stops]
  rfl

theorem readCoordinate_eq_ok_iff {digits : List Char} {coordinate : Nat}
    (run : ∀ c ∈ digits, Text.isDecimalDigit c = true) :
    readCoordinate digits = .ok coordinate ↔
      Text.IsDecimal digits coordinate ∧ coordinate < gridSize := by
  have unsigned : digits.head? ≠ some '+' := fun plus =>
    absurd (run '+' (List.mem_of_head? plus)) (by decide)
  have read (value : Nat) : Text.readNat greatestNumeral digits = .ok value ↔
      Text.IsDecimal digits value ∧ value ≤ greatestNumeral :=
    Text.readNat_eq_ok_iff_of_unsigned unsigned
  have room : gridSize ≤ greatestNumeral := by decide
  constructor
  · intro done
    unfold readCoordinate at done
    cases found : Text.readNat greatestNumeral digits with
    | error cause => simp [found, Except.mapError, bind, Except.bind] at done
    | ok value =>
      simp only [found, Except.mapError, bind, Except.bind] at done
      split at done
      next inside =>
        cases done
        exact ⟨((read _).mp found).1, inside⟩
      · cases done
  · rintro ⟨decimal, inside⟩
    have found := (read coordinate).mpr ⟨decimal, by omega⟩
    simp only [readCoordinate, found, Except.mapError, bind, Except.bind, if_pos inside]
    rfl

/-! ### Instructions -/

/-- Two coordinates in the grid, with a comma between them. -/
def WritesCorner (text : List Char) (x y : Nat) : Prop :=
  ∃ column row, text = column ++ ',' :: row ∧ Text.IsDecimal column x ∧ Text.IsDecimal row y ∧
    x < gridSize ∧ y < gridSize

/-- An action and two corners. -/
def WritesInstruction (text : List Char) (instruction : Instruction) : Prop :=
  ∃ first second x y x' y',
    text = instruction.action.text ++ first ++ " through ".toList ++ second ∧
      WritesCorner first x y ∧ WritesCorner second x' y' ∧
        instruction.area = .between x y x' y'

theorem of_splitInstruction? {text : List Char} {action : Action} {corners : List (List Char)}
    (found : splitInstruction? text = some (action, corners)) :
    ∃ x y x' y', corners = [x, y, x', y'] ∧
      text = action.text ++ (x ++ ',' :: y) ++ " through ".toList ++ (x' ++ ',' :: y') ∧
        ∀ digits ∈ corners, ∀ c ∈ digits, Text.isDecimalDigit c = true := by
  unfold splitInstruction? at found
  simp only [Option.bind_eq_bind, Option.bind_eq_some_iff, Option.pure_def, Option.some.injEq,
    Prod.mk.injEq, Prod.exists] at found
  obtain ⟨_, _, taken, x, y, _, corner, _, middle, x', y', rest, corner', _, ended, rfl, rfl⟩ :=
    found
  obtain rfl := takeAction?_eq_some_iff.mp taken
  obtain ⟨rfl, digitsX, digitsY⟩ := of_takeCorner? corner
  obtain rfl := Text.stripStart?_eq_some_iff.mp middle
  obtain ⟨rfl, digitsX', digitsY'⟩ := of_takeCorner? corner'
  obtain rfl : rest = [] := List.isEmpty_iff.mp ((Option.guard_eq_some' _).mp ended)
  refine ⟨x, y, x', y', rfl, by simp, ?_⟩
  simp only [List.forall_mem_cons, List.not_mem_nil, false_implies, implies_true, and_true]
  exact ⟨digitsX, digitsY, digitsX', digitsY'⟩

theorem splitInstruction?_append (action : Action) {x y x' y' : List Char}
    {column row column' row' : Nat} (decimalX : Text.IsDecimal x column)
    (decimalY : Text.IsDecimal y row) (decimalX' : Text.IsDecimal x' column')
    (decimalY' : Text.IsDecimal y' row') :
    splitInstruction?
        (action.text ++ (x ++ ',' :: y) ++ " through ".toList ++ (x' ++ ',' :: y')) =
      some (action, [x, y, x', y']) := by
  have start : action.text ++ (x ++ ',' :: y) ++ " through ".toList ++ (x' ++ ',' :: y') =
      action.text ++ (x ++ ',' :: (y ++ (" through ".toList ++ (x' ++ ',' :: (y' ++ []))))) := by
    simp
  have space : ∀ c ∈ (" through ".toList ++ (x' ++ ',' :: (y' ++ []))).head?,
      Text.isDecimalDigit c = false := by
    rintro c same
    obtain rfl : ' ' = c := Option.some.inj same
    decide
  have middle : Text.stripStart? " through ".toList
      (" through ".toList ++ (x' ++ ',' :: (y' ++ []))) = some (x' ++ ',' :: (y' ++ [])) :=
    Text.stripStart?_eq_some_iff.mpr rfl
  have ended : ∀ c ∈ ([] : List Char).head?, Text.isDecimalDigit c = false := by simp
  unfold splitInstruction?
  rw [start, takeAction?_eq_some_iff.mpr rfl]
  simp only [Option.bind_eq_bind, Option.bind_some, takeCorner?_append decimalX decimalY space,
    middle, takeCorner?_append decimalX' decimalY' ended]
  rfl

theorem readInstruction_eq_ok_iff (text : List Char) (instruction : Instruction) :
    readInstruction text = .ok instruction ↔ WritesInstruction text instruction := by
  constructor
  · intro read
    unfold readInstruction at read
    cases split : splitInstruction? text with
    | none => simp [split] at read
    | some parts =>
      obtain ⟨action, corners⟩ := parts
      obtain ⟨x, y, x', y', rfl, written, runs⟩ := of_splitInstruction? split
      simp only [List.forall_mem_cons, List.not_mem_nil, false_implies, implies_true,
        and_true] at runs
      obtain ⟨runX, runY, runX', runY'⟩ := runs
      cases found : [x, y, x', y'].mapM readCoordinate with
      | error cause => simp [split, found, bind, Except.bind] at read
      | ok numbers =>
        have pairs := Text.forall₂_of_mapM found
        simp only [split, found, bind, Except.bind] at read
        split at read
        next column row column' row' =>
          simp only [List.forall₂_cons, List.forall₂_nil_left_iff] at pairs
          obtain ⟨readX, readY, readX', readY', _⟩ := pairs
          -- Digits of another script get through the split, but not through the numerals.
          obtain ⟨decimalX, insideX⟩ := (readCoordinate_eq_ok_iff runX).mp readX
          obtain ⟨decimalY, insideY⟩ := (readCoordinate_eq_ok_iff runY).mp readY
          obtain ⟨decimalX', insideX'⟩ := (readCoordinate_eq_ok_iff runX').mp readX'
          obtain ⟨decimalY', insideY'⟩ := (readCoordinate_eq_ok_iff runY').mp readY'
          cases read
          exact ⟨_, _, column, row, column', row', written,
            ⟨x, y, rfl, decimalX, decimalY, insideX, insideY⟩,
            ⟨x', y', rfl, decimalX', decimalY', insideX', insideY'⟩, rfl⟩
        · cases read
  · rintro ⟨_, _, column, row, column', row', rfl,
      ⟨x, y, rfl, decimalX, decimalY, insideX, insideY⟩,
      ⟨x', y', rfl, decimalX', decimalY', insideX', insideY'⟩, area⟩
    have read {digits : List Char} {number : Nat} (decimal : Text.IsDecimal digits number)
        (inside : number < gridSize) : readCoordinate digits = .ok number :=
      (readCoordinate_eq_ok_iff (decimalDigits_of_isDecimal decimal)).mpr ⟨decimal, inside⟩
    unfold readInstruction
    rw [splitInstruction?_append _ decimalX decimalY decimalX' decimalY']
    simp only [List.mapM_cons, List.mapM_nil, read decimalX insideX, read decimalY insideY,
      read decimalX' insideX', read decimalY' insideY', bind, Except.bind, pure, Except.pure,
      ← area]

theorem parse_readsEachLine : Text.ReadsEachLine parse WritesInstruction :=
  Text.readsEachLine_of_reads readInstruction_eq_ok_iff fun _ => rfl

end Advent.Lights
