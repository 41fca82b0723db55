/-!
# Circuits

A circuit lists wires with the gate that drives each. A gate reads wires or constant signals of 16
bits, and has an output as soon as all of its inputs have one. Shifts by the width or more clear the
signal.
-/
namespace Advent.Circuits

abbrev Wire := String

abbrev Signal := UInt16

inductive Operand
  | wire (name : Wire)
  | value (signal : Signal)
  deriving Repr, DecidableEq

inductive Gate
  | assign (input : Operand)
  | not (input : Operand)
  | and (left right : Operand)
  | or (left right : Operand)
  | leftShift (input amount : Operand)
  | rightShift (input amount : Operand)
  deriving Repr, DecidableEq

structure Connection where
  wire : Wire
  gate : Gate
  deriving Repr, DecidableEq

/-- Connections in listing order; well formed circuits drive each wire once. -/
abbrev Circuit := List Connection

namespace Circuit

def wires (circuit : Circuit) : List Wire :=
  circuit.map Connection.wire

def WellFormed (circuit : Circuit) : Prop :=
  circuit.wires.Nodup

instance (circuit : Circuit) : Decidable circuit.WellFormed := by
  unfold WellFormed
  infer_instance

def gate? (circuit : Circuit) (wire : Wire) : Option Gate :=
  (circuit.find? fun connection => connection.wire = wire).map Connection.gate

/-- Drives a wire by a gate, in place of the gate that drove it before. -/
def connect (circuit : Circuit) (wire : Wire) (gate : Gate) : Circuit :=
  if wire ∈ circuit.wires then
    circuit.map fun connection => if connection.wire = wire then ⟨wire, gate⟩ else connection
  else circuit ++ [⟨wire, gate⟩]

end Circuit

def shiftLeft (signal amount : Signal) : Signal :=
  if amount < 16 then signal <<< amount else 0

def shiftRight (signal amount : Signal) : Signal :=
  if amount < 16 then signal >>> amount else 0

def Operand.read (signals : Wire → Option Signal) : Operand → Option Signal
  | .wire name => signals name
  | .value signal => some signal

/-- The output, unless an input is still unknown. -/
def Gate.output (signals : Wire → Option Signal) : Gate → Option Signal
  | .assign input => input.read signals
  | .not input => (input.read signals).map (~~~ ·)
  | .and left right => do return (← left.read signals) &&& (← right.read signals)
  | .or left right => do return (← left.read signals) ||| (← right.read signals)
  | .leftShift input amount => do return shiftLeft (← input.read signals) (← amount.read signals)
  | .rightShift input amount => do return shiftRight (← input.read signals) (← amount.read signals)

theorem shiftLeft_toNat (signal amount : Signal) :
    (shiftLeft signal amount).toNat = signal.toNat <<< amount.toNat % 65536 := by
  unfold shiftLeft
  split
  next small =>
    have below : amount.toNat < 16 := small
    simp [UInt16.toNat_shiftLeft, Nat.mod_eq_of_lt below]
  next large =>
    have above : 16 ≤ amount.toNat := Nat.le_of_not_lt large
    obtain ⟨extra, split⟩ := Nat.exists_eq_add_of_le above
    rw [split, Nat.shiftLeft_eq, Nat.pow_add, ← Nat.mul_assoc, Nat.mul_right_comm]
    simp

theorem shiftRight_toNat (signal amount : Signal) :
    (shiftRight signal amount).toNat = signal.toNat >>> amount.toNat := by
  unfold shiftRight
  split
  next small =>
    have below : amount.toNat < 16 := small
    simp [UInt16.toNat_shiftRight, Nat.mod_eq_of_lt below]
  next large =>
    have above : 16 ≤ amount.toNat := Nat.le_of_not_lt large
    have size := signal.toNat_lt
    have enough : 2 ^ 16 ≤ 2 ^ amount.toNat := Nat.pow_le_pow_right (by omega) above
    rw [Nat.shiftRight_eq_div_pow, Nat.div_eq_of_lt (by omega)]
    rfl

end Advent.Circuits
