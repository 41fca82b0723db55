import Advent.Puzzle.Circuit.Basic
import Mathlib.Data.Set.Card

/-!
# Derivations of signals

A wire is derivable if a gate drives it all of whose source wires are derivable. All wires of a
circuit are derivable if and only if none depends on an undriven wire or on a cycle. Solutions are
stated in natural numbers, apart from the words of 16 bits that gates compute with. A gate puts out
exactly its number once its sources are known, so two solutions agree on every derivable wire.
-/
namespace Advent.Circuits

/-! ### Gates -/

def Operand.wires : Operand → List Wire
  | .wire name => [name]
  | .value _ => []

def Gate.wires : Gate → List Wire
  | .assign input | .not input => input.wires
  | .and left right | .or left right => left.wires ++ right.wires
  | .leftShift input amount | .rightShift input amount => input.wires ++ amount.wires

def Operand.number (signals : Wire → Signal) : Operand → Nat
  | .wire name => (signals name).toNat
  | .value signal => signal.toNat

/-- What a gate puts out, in natural numbers. -/
def Gate.number (signals : Wire → Signal) : Gate → Nat
  | .assign input => input.number signals
  | .not input => 65535 - input.number signals
  | .and left right => left.number signals &&& right.number signals
  | .or left right => left.number signals ||| right.number signals
  | .leftShift input amount => input.number signals * 2 ^ amount.number signals % 2 ^ 16
  | .rightShift input amount => input.number signals / 2 ^ amount.number signals

section Gates

variable {known : Wire → Option Signal}

theorem Operand.read_isSome_iff (operand : Operand) :
    (operand.read known).isSome = true ↔
      ∀ source ∈ operand.wires, (known source).isSome = true := by
  cases operand <;> simp [Operand.read, Operand.wires]

theorem Operand.read_of_known {signals : Wire → Signal} {operand : Operand}
    (agree : ∀ source ∈ operand.wires, known source = some (signals source)) :
    ∃ signal, operand.read known = some signal ∧ signal.toNat = operand.number signals := by
  cases operand with
  | wire name => exact ⟨signals name, agree name (by simp [Operand.wires]), rfl⟩
  | value signal => exact ⟨signal, rfl, rfl⟩

/-- A gate has an output once every wire that it reads is known. -/
theorem Gate.output_isSome_iff (gate : Gate) :
    (gate.output known).isSome = true ↔ ∀ source ∈ gate.wires, (known source).isSome = true := by
  cases gate with
  | assign input => exact input.read_isSome_iff
  | not input => simpa [Gate.output, Gate.wires] using input.read_isSome_iff
  | and left right | or left right | leftShift left right | rightShift left right =>
    rw [Gate.wires, List.forall_mem_append, ← Operand.read_isSome_iff, ← Operand.read_isSome_iff]
    simp only [Gate.output]
    cases left.read known <;> cases right.read known <;> simp

/-- Once the sources are known, the output is the number that they give. -/
theorem Gate.output_of_known {signals : Wire → Signal} {gate : Gate}
    (agree : ∀ source ∈ gate.wires, known source = some (signals source)) :
    ∃ signal, gate.output known = some signal ∧ signal.toNat = gate.number signals := by
  cases gate with
  | assign input => exact Operand.read_of_known agree
  | not input =>
    obtain ⟨signal, read, value⟩ : ∃ signal, input.read known = some signal ∧
        signal.toNat = input.number signals := Operand.read_of_known agree
    exact ⟨~~~signal, by simp [Gate.output, read], by simp [Gate.number, UInt16.toNat_not, value]⟩
  | and left right | or left right | leftShift left right | rightShift left right =>
    rw [Gate.wires, List.forall_mem_append] at agree
    obtain ⟨first, read, value⟩ := Operand.read_of_known agree.1
    obtain ⟨second, read', value'⟩ := Operand.read_of_known agree.2
    simp only [Gate.output, read, read', Gate.number, ← value, ← value']
    refine ⟨_, rfl, ?_⟩
    simp [shiftLeft_toNat, shiftRight_toNat, Nat.shiftLeft_eq, Nat.shiftRight_eq_div_pow]

/-- An output stays as more wires become known. -/
theorem Gate.output_mono {later : Wire → Option Signal}
    (extended : ∀ wire signal, known wire = some signal → later wire = some signal) {gate : Gate}
    {signal : Signal} (output : gate.output known = some signal) :
    gate.output later = some signal := by
  -- Both outputs are the number that the known sources give.
  let signals wire := (known wire).getD 0
  have sources := gate.output_isSome_iff.mp (Option.isSome_of_eq_some output)
  have agree : ∀ source ∈ gate.wires, known source = some (signals source) := by
    intro source member
    obtain ⟨value, found⟩ := Option.isSome_iff_exists.mp (sources source member)
    simp [signals, found]
  obtain ⟨first, output', value⟩ := Gate.output_of_known agree
  obtain ⟨second, later', value'⟩ := Gate.output_of_known fun source member =>
    extended source _ (agree source member)
  cases output.symm.trans output'
  rw [later', UInt16.toNat_inj.mp (value'.trans value.symm)]

end Gates

/-! ### Circuits -/

namespace Circuit

variable {circuit : Circuit}

theorem WellFormed.eq_of_wire_eq (wellFormed : circuit.WellFormed) {first second : Connection}
    (present : first ∈ circuit) (present' : second ∈ circuit) (same : first.wire = second.wire) :
    first = second :=
  List.inj_on_of_nodup_map wellFormed present present' same

/-- A circuit that drives each wire once is known by the gates of its wires. -/
theorem WellFormed.gate?_eq_some_iff (wellFormed : circuit.WellFormed) (wire : Wire)
    (gate : Gate) : circuit.gate? wire = some gate ↔ ⟨wire, gate⟩ ∈ circuit := by
  unfold gate?
  rw [Option.map_eq_some_iff]
  constructor
  · rintro ⟨connection, found, rfl⟩
    obtain rfl : connection.wire = wire := by simpa using List.find?_some found
    exact List.mem_of_find?_eq_some found
  · intro member
    cases found : circuit.find? fun connection => connection.wire = wire with
    | none =>
      have missing := List.find?_eq_none.mp found ⟨wire, gate⟩ member
      simp at missing
    | some connection =>
      have same : connection.wire = wire := by simpa using List.find?_some found
      exact ⟨connection, rfl, congrArg Connection.gate
        (wellFormed.eq_of_wire_eq (List.mem_of_find?_eq_some found) member same)⟩

theorem mem_wires {connection : Connection} (present : connection ∈ circuit) :
    connection.wire ∈ circuit.wires :=
  List.mem_map_of_mem present

/-- A gate that reads the source drives the wire. -/
def Feeds (circuit : Circuit) (source wire : Wire) : Prop :=
  ∃ connection ∈ circuit, connection.wire = wire ∧ source ∈ connection.gate.wires

/-- The wire has a finite derivation. -/
inductive Derivable (circuit : Circuit) : Wire → Prop
  | driven (connection : Connection) (present : connection ∈ circuit)
      (sources : ∀ source ∈ connection.gate.wires, Derivable circuit source) :
      Derivable circuit connection.wire

/-- The signals satisfy the equation of every gate. -/
def Solves (circuit : Circuit) (signals : Wire → Signal) : Prop :=
  ∀ connection ∈ circuit, (signals connection.wire).toNat = connection.gate.number signals

theorem WellFormed.source_of_feeds (wellFormed : circuit.WellFormed) {connection : Connection}
    (present : connection ∈ circuit) {source : Wire}
    (feeds : circuit.Feeds source connection.wire) : source ∈ connection.gate.wires := by
  obtain ⟨other, present', same, member⟩ := feeds
  cases wellFormed.eq_of_wire_eq present' present same
  exact member

theorem Derivable.mem_wires {wire : Wire} (derivable : circuit.Derivable wire) :
    wire ∈ circuit.wires := by
  cases derivable with
  | driven connection present _ => exact Circuit.mem_wires present

theorem Derivable.of_feeds (wellFormed : circuit.WellFormed) {source wire : Wire}
    (derivable : circuit.Derivable wire) (feeds : circuit.Feeds source wire) :
    circuit.Derivable source := by
  cases derivable with
  | driven connection present sources =>
    exact sources source (wellFormed.source_of_feeds present feeds)

theorem Derivable.of_transGen (wellFormed : circuit.WellFormed) {source wire : Wire}
    (derivable : circuit.Derivable wire) (feeds : Relation.TransGen circuit.Feeds source wire) :
    circuit.Derivable source := by
  induction feeds with
  | single feeds => exact derivable.of_feeds wellFormed feeds
  | tail _ feeds ih => exact ih (derivable.of_feeds wellFormed feeds)

theorem Derivable.acc (wellFormed : circuit.WellFormed) {wire : Wire}
    (derivable : circuit.Derivable wire) : Acc circuit.Feeds wire := by
  induction derivable with
  | driven connection present sources ih =>
    exact Acc.intro _ fun source feeds =>
      ih source (wellFormed.source_of_feeds present feeds)

theorem Derivable.not_cyclic (wellFormed : circuit.WellFormed) {wire : Wire}
    (derivable : circuit.Derivable wire) : ¬ Relation.TransGen circuit.Feeds wire wire := by
  induction (derivable.acc wellFormed).transGen with
  | intro wire _ ih => exact fun cycle => ih wire cycle derivable cycle

/-- No wire depends, directly or through others, on an undriven wire or on a cycle. -/
def Grounded (circuit : Circuit) : Prop :=
  ∀ wire ∈ circuit.wires, ∀ source, Relation.TransGen circuit.Feeds source wire →
    source ∈ circuit.wires ∧ ¬ Relation.TransGen circuit.Feeds source source

theorem Grounded.wellFounded (grounded : circuit.Grounded) :
    WellFounded fun source wire : { wire // wire ∈ circuit.wires } =>
      Relation.TransGen circuit.Feeds source.val wire.val := by
  -- A finite relation is well founded if its transitive closure has no loop.
  have : IsTrans { wire // wire ∈ circuit.wires } fun source wire =>
      Relation.TransGen circuit.Feeds source.val wire.val := ⟨fun _ _ _ => Relation.TransGen.trans⟩
  have : Std.Irrefl fun source wire : { wire // wire ∈ circuit.wires } =>
      Relation.TransGen circuit.Feeds source.val wire.val :=
    ⟨fun wire cycle => (grounded wire.val wire.property wire.val cycle).2 cycle⟩
  exact Finite.wellFounded_of_trans_of_irrefl _

theorem all_derivable_iff (wellFormed : circuit.WellFormed) :
    (∀ wire ∈ circuit.wires, circuit.Derivable wire) ↔ circuit.Grounded := by
  constructor
  · intro all wire driven source feeds
    have derivable := (all wire driven).of_transGen wellFormed feeds
    exact ⟨derivable.mem_wires, derivable.not_cyclic wellFormed⟩
  · intro grounded wire driven
    have derive (wire : { wire // wire ∈ circuit.wires }) : circuit.Derivable wire.val := by
      induction wire using grounded.wellFounded.induction with
      | _ wire ih =>
        obtain ⟨connection, present, same⟩ := List.mem_map.mp wire.property
        refine same ▸ Derivable.driven connection present fun source member => ?_
        have feeds : Relation.TransGen circuit.Feeds source wire.val :=
          .single ⟨connection, present, same, member⟩
        exact ih ⟨source, (grounded wire.val wire.property source feeds).1⟩ feeds
    exact derive ⟨wire, driven⟩

end Circuit

end Advent.Circuits
