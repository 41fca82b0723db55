import Advent.Text.Digit

/-!
# Numerals with a bound

A numeral is a sign, if any, and ASCII digits, read from the left. Reading stops at the first
character that is no digit or that takes the value past the bound, and the error names which of the
two it was. A sign alone is an invalid digit, and so is a minus where no negative number is allowed.
-/
namespace Advent.Text

inductive NumeralError
  | empty
  | invalidDigit
  | tooLarge
  | tooSmall
  deriving Repr, DecidableEq

def NumeralError.message : NumeralError → String
  | .empty => "cannot parse integer from empty string"
  | .invalidDigit => "invalid digit found in string"
  | .tooLarge => "number too large to fit in target type"
  | .tooSmall => "number too small to fit in target type"

/-- Continues a value with more digits, as long as it stays within `highest`. -/
def readDigits (highest : Nat) : Nat → List Char → Except NumeralError Nat
  | value, [] => .ok value
  | value, c :: rest =>
    match digit? c with
    | none => .error .invalidDigit
    | some digit =>
      if 10 * value + digit ≤ highest then readDigits highest (10 * value + digit) rest
      else .error .tooLarge

/-- A number from zero to `highest`. -/
def readNat (highest : Nat) : List Char → Except NumeralError Nat
  | [] => .error .empty
  | ['+'] => .error .invalidDigit
  | '+' :: digits => readDigits highest 0 digits
  | digits => readDigits highest 0 digits

/-- A number from minus `depth` to `highest`. -/
def readInt (depth highest : Nat) : List Char → Except NumeralError Int
  | ['-'] => .error .invalidDigit
  | '-' :: digits =>
    match readDigits depth 0 digits with
    | .ok value => .ok (-(value : Int))
    | .error .tooLarge => .error .tooSmall
    | .error cause => .error cause
  | text => (readNat highest text).map Int.ofNat

theorem readDigits_le (highest : Nat) (digits : List Char) (start value : Nat)
    (within : start ≤ highest) (read : readDigits highest start digits = .ok value) :
    value ≤ highest := by
  induction digits generalizing start with
  | nil =>
    have same : start = value := by simpa [readDigits] using read
    omega
  | cons c rest ih =>
    unfold readDigits at read
    split at read
    · simp at read
    · split at read
      next bounded => exact ih _ bounded read
      · simp at read

theorem readNat_le (highest : Nat) (text : List Char) (value : Nat)
    (read : readNat highest text = .ok value) : value ≤ highest := by
  unfold readNat at read
  split at read
  · simp at read
  · simp at read
  · exact readDigits_le highest _ 0 value (Nat.zero_le _) read
  · exact readDigits_le highest _ 0 value (Nat.zero_le _) read

end Advent.Text
