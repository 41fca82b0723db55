import Advent.Text.Blank
import Advent.Text.Numeral
import Mathlib.Data.Nat.Basic

/-!
# Numerals that are read

A numeral is read if and only if it consists of ASCII digits, at least one, after a plus sign or none,
and its value is within the bound. Leading zeroes are allowed, any number of them, because digits
that go past the bound never come back to it.
-/
namespace Advent.Text

theorem isDigit_iff (c : Char) : c.isDigit = true ↔ '0' ≤ c ∧ c ≤ '9' := by
  change (decide ('0'.val ≤ c.val) && decide (c.val ≤ '9'.val)) = true ↔ _
  rw [Bool.and_eq_true, decide_eq_true_eq, decide_eq_true_eq]
  rfl

theorem isLower_iff (c : Char) : c.isLower = true ↔ 'a' ≤ c ∧ c ≤ 'z' := by
  change (decide ('a'.val ≤ c.val) && decide (c.val ≤ 'z'.val)) = true ↔ _
  rw [Bool.and_eq_true, decide_eq_true_eq, decide_eq_true_eq]
  rfl

theorem isDigit_of_isLower {c : Char} (lower : c.isLower = true) : c.isDigit = false := by
  by_contra digit
  have below := ((isDigit_iff c).mp (by simpa using digit)).2
  exact absurd (Char.le_trans ((isLower_iff c).mp lower).1 below) (by decide)

/-- Blanks are the control characters and the space, or lie beyond ASCII. -/
theorem toNat_of_isBlank {c : Char} (blank : isBlank c = true) : c.toNat ≤ 32 ∨ 128 ≤ c.toNat := by
  simp only [isBlank, Bool.or_eq_true, Bool.and_eq_true, decide_eq_true_eq, or_assoc] at blank
  rcases blank with rfl | ⟨_, below⟩ | rfl | rfl | rfl | ⟨above, _⟩ | rest
  · decide
  · have last : c.toNat ≤ 13 := below
    omega
  · decide
  · decide
  · decide
  · have first : 0x2000 ≤ c.toNat := above
    omega
  · rcases rest with rfl | rfl | rfl | rfl | rfl <;> decide

theorem isBlank_of_isLower {c : Char} (lower : c.isLower = true) : isBlank c = false := by
  by_contra blank
  have bounds := toNat_of_isBlank (by simpa using blank)
  obtain ⟨above, below⟩ := (isLower_iff c).mp lower
  have first : 97 ≤ c.toNat := above
  have last : c.toNat ≤ 122 := below
  omega

theorem isBlank_of_isDigit {c : Char} (digit : c.isDigit = true) : isBlank c = false := by
  by_contra blank
  have bounds := toNat_of_isBlank (by simpa using blank)
  obtain ⟨above, below⟩ := (isDigit_iff c).mp digit
  have first : 48 ≤ c.toNat := above
  have last : c.toNat ≤ 57 := below
  omega

theorem isAsciiDigit_eq_isDigit (c : Char) : isAsciiDigit c = c.isDigit := by
  unfold isAsciiDigit digit?
  by_cases digit : c.isDigit = true
  · rw [if_pos ((isDigit_iff c).mp digit), digit]
    rfl
  · rw [if_neg ((isDigit_iff c).not.mp digit), (Bool.not_eq_true _).mp digit]
    rfl

theorem digit?_of_isDigit {c : Char} (digit : c.isDigit = true) :
    digit? c = some (c.toNat - '0'.toNat) := by
  have ascii : (digit? c).isSome = true := (isAsciiDigit_eq_isDigit c).trans digit
  unfold digit? at ascii ⊢
  split
  · rfl
  next outside =>
    rw [if_neg outside] at ascii
    cases ascii

theorem digit?_eq_none_iff (c : Char) : digit? c = none ↔ c.isDigit = false := by
  rw [← isAsciiDigit_eq_isDigit, isAsciiDigit, Option.isSome_eq_false_iff, Option.isNone_iff_eq_none]

theorem le_ofDigitChars (start : Nat) (digits : List Char) :
    start ≤ Nat.ofDigitChars 10 digits start := by
  rw [Nat.ofDigitChars_eq_ofDigitChars_zero]
  exact Nat.le_trans (Nat.le_mul_of_pos_left start (Nat.pow_pos (by decide)))
    (Nat.le_add_right _ _)

theorem readDigits_eq_ok_iff {highest start value : Nat} {digits : List Char}
    (within : start ≤ highest) :
    readDigits highest start digits = .ok value ↔
      (∀ c ∈ digits, c.isDigit = true) ∧ Nat.ofDigitChars 10 digits start = value ∧
        value ≤ highest := by
  induction digits generalizing start with
  | nil =>
    rw [readDigits, Except.ok.injEq, Nat.ofDigitChars_nil]
    constructor
    · rintro rfl
      exact ⟨by simp, rfl, within⟩
    · rintro ⟨_, same, _⟩
      exact same
  | cons c rest ih =>
    rw [Nat.ofDigitChars_cons, List.forall_mem_cons]
    by_cases digit : c.isDigit = true
    · simp only [readDigits, digit?_of_isDigit digit, digit, true_and]
      by_cases bounded : 10 * start + (c.toNat - '0'.toNat) ≤ highest
      · rw [if_pos bounded]
        exact ih bounded
      · -- More digits never make a value smaller.
        rw [if_neg bounded]
        have larger := le_ofDigitChars (10 * start + (c.toNat - '0'.toNat)) rest
        constructor
        · intro read
          cases read
        · rintro ⟨_, same, below⟩
          omega
    · have unknown : digit? c = none := (digit?_eq_none_iff c).mpr (by simpa using digit)
      simp [readDigits, unknown, digit]

/-- ASCII digits, at least one, that make a number. -/
structure IsDecimal (digits : List Char) (number : Nat) : Prop where
  not_empty : digits ≠ []
  digits_only : ∀ c ∈ digits, c.isDigit = true
  value_eq : Nat.ofDigitChars 10 digits 0 = number

theorem isDecimal_toDigits (number : Nat) : IsDecimal (Nat.toDigits 10 number) number where
  not_empty := Nat.toDigits_ne_nil
  digits_only _ member := Nat.isDigit_of_mem_toDigits (by decide) (by decide) member
  value_eq := Nat.ofDigitChars_ten_toDigits

/-- A number is known by its decimal text. -/
theorem eq_of_toString_eq {number other : Nat} (same : toString number = toString other) :
    number = other := by
  have digits := congrArg String.toList same
  rw [Nat.toString_eq_ofList_toDigits, Nat.toString_eq_ofList_toDigits, String.toList_ofList,
    String.toList_ofList] at digits
  rw [← @Nat.ofDigitChars_ten_toDigits number, digits, Nat.ofDigitChars_ten_toDigits]

theorem readNat_eq_ok_iff_of_unsigned {highest value : Nat} {text : List Char}
    (unsigned : text.head? ≠ some '+') :
    readNat highest text = .ok value ↔ IsDecimal text value ∧ value ≤ highest := by
  have read : readDigits highest 0 text = .ok value ↔ _ :=
    readDigits_eq_ok_iff (Nat.zero_le highest)
  unfold readNat
  split
  · constructor
    · intro read
      cases read
    · exact fun ⟨decimal, _⟩ => (decimal.not_empty rfl).elim
  · exact (unsigned rfl).elim
  · exact (unsigned rfl).elim
  next filled _ _ =>
    rw [read]
    exact ⟨fun ⟨digits, same, below⟩ => ⟨⟨filled, digits, same⟩, below⟩,
      fun ⟨decimal, below⟩ => ⟨decimal.digits_only, decimal.value_eq, below⟩⟩

/-- What is read as a number: digits after a plus sign or none. -/
theorem readNat_eq_ok_iff {highest value : Nat} {text : List Char} :
    readNat highest text = .ok value ↔
      ∃ digits, (text = digits ∨ text = '+' :: digits) ∧ IsDecimal digits value ∧
        value ≤ highest := by
  have no_plus {digits : List Char} (decimal : IsDecimal digits value) :
      digits.head? ≠ some '+' := by
    intro plus
    exact absurd (decimal.digits_only '+' (List.mem_of_head? plus)) (by decide)
  by_cases signed : ∃ digits, text = '+' :: digits
  · obtain ⟨digits, rfl⟩ := signed
    have after : readNat highest ('+' :: digits) = .ok value ↔
        IsDecimal digits value ∧ value ≤ highest := by
      cases digits with
      | nil =>
        constructor
        · intro read
          cases read
        · exact fun ⟨decimal, _⟩ => (decimal.not_empty rfl).elim
      | cons c rest =>
        have read : readDigits highest 0 (c :: rest) = .ok value ↔ _ :=
          readDigits_eq_ok_iff (Nat.zero_le highest)
        refine read.trans ?_
        exact ⟨fun ⟨digits, same, below⟩ => ⟨⟨List.cons_ne_nil _ _, digits, same⟩, below⟩,
          fun ⟨decimal, below⟩ => ⟨decimal.digits_only, decimal.value_eq, below⟩⟩
    rw [after]
    constructor
    · exact fun read => ⟨digits, Or.inr rfl, read⟩
    · rintro ⟨_, rfl | same, decimal, below⟩
      · exact (no_plus decimal rfl).elim
      · exact (List.cons.inj same).2 ▸ ⟨decimal, below⟩
  · have unsigned : text.head? ≠ some '+' := fun plus => signed (List.head?_eq_some_iff.mp plus)
    rw [readNat_eq_ok_iff_of_unsigned unsigned]
    constructor
    · exact fun read => ⟨text, Or.inl rfl, read⟩
    · rintro ⟨digits, rfl | same, read⟩
      · exact read
      · exact (signed ⟨digits, same⟩).elim

end Advent.Text
