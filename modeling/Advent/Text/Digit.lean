/-!
# Decimal digits

`digit?` gives the value of the ten ASCII digits, and `hexDigit?` that of the hexadecimal ones.
`isDecimalDigit` is the wider property Nd, whose characters come in blocks of ten, one block for each
script.
-/
namespace Advent.Text

/-- The value of an ASCII digit. -/
def digit? (c : Char) : Option Nat :=
  if '0' ≤ c ∧ c ≤ '9' then some (c.toNat - '0'.toNat) else none

def isAsciiDigit (c : Char) : Bool :=
  (digit? c).isSome

/-- The value of a hexadecimal digit in either case. -/
def hexDigit? (c : Char) : Option Nat :=
  if 'a' ≤ c ∧ c ≤ 'f' then some (c.toNat - 'a'.toNat + 10)
  else if 'A' ≤ c ∧ c ≤ 'F' then some (c.toNat - 'A'.toNat + 10)
  else digit? c

/-- The zeroes of the scripts that have digits of their own. -/
def digitZeroes : List Nat := [
  0x30, 0x660, 0x6F0, 0x7C0, 0x966, 0x9E6, 0xA66, 0xAE6, 0xB66, 0xBE6, 0xC66, 0xCE6, 0xD66, 0xDE6,
  0xE50, 0xED0, 0xF20, 0x1040, 0x1090, 0x17E0, 0x1810, 0x1946, 0x19D0, 0x1A80, 0x1A90, 0x1B50,
  0x1BB0, 0x1C40, 0x1C50, 0xA620, 0xA8D0, 0xA900, 0xA9D0, 0xA9F0, 0xAA50, 0xABF0, 0xFF10, 0x104A0,
  0x10D30, 0x10D40, 0x11066, 0x110F0, 0x11136, 0x111D0, 0x112F0, 0x11450, 0x114D0, 0x11650, 0x116C0,
  0x116D0, 0x116DA, 0x11730, 0x118E0, 0x11950, 0x11BF0, 0x11C50, 0x11D50, 0x11DA0, 0x11F50, 0x16130,
  0x16A60, 0x16AC0, 0x16B50, 0x16D70, 0x1CCF0, 0x1D7CE, 0x1D7D8, 0x1D7E2, 0x1D7EC, 0x1D7F6, 0x1E140,
  0x1E2F0, 0x1E4F0, 0x1E5F1, 0x1E950, 0x1FBF0]

/-- A character of Nd. -/
def isDecimalDigit (c : Char) : Bool :=
  digitZeroes.any fun first => first ≤ c.toNat && c.toNat < first + 10

theorem digit?_lt_ten (c : Char) (digit : Nat) (found : digit? c = some digit) : digit < 10 := by
  unfold digit? at found
  split at found
  next range =>
    have above : '0'.toNat ≤ c.toNat := range.1
    have below : c.toNat ≤ '9'.toNat := range.2
    have value : c.toNat - '0'.toNat = digit := by simpa using found
    have nine : '9'.toNat = 57 := rfl
    have zero : '0'.toNat = 48 := rfl
    omega
  · simp at found

theorem isDecimalDigit_of_isAsciiDigit (c : Char) (ascii : isAsciiDigit c = true) :
    isDecimalDigit c = true := by
  unfold isAsciiDigit digit? at ascii
  split at ascii
  next range =>
    have above : '0'.toNat ≤ c.toNat := range.1
    have below : c.toNat ≤ '9'.toNat := range.2
    have nine : '9'.toNat = 57 := rfl
    have zero : '0'.toNat = 48 := rfl
    refine List.any_eq_true.mpr ⟨0x30, by simp [digitZeroes], ?_⟩
    simp
    omega
  · simp at ascii

end Advent.Text
