import Advent.Proofs.Puzzle.Circuit.Derivations
import Advent.Puzzle.Circuit.Solver

/-!
# Settling gives the only solution

Whatever the order of the connections, the known wires are derivable, each has the output of its
gate, and exactly the wires that still wait are unknown. Firing one gate keeps this, hence so do
sweeps. A sweep that fires nothing has found every derivable wire known, so what waits then is what
has no derivation.
-/
namespace Advent.Circuits

theorem lookup_insert (signals : Signals) (wire other : Wire) (signal : Signal) :
    lookup (signals.insert wire signal) other =
      if wire = other then some signal else lookup signals other := by
  simp [lookup, Std.HashMap.getElem?_insert]

/-! ### What sweeps keep -/

/-- The signals are those of all wires but the waiting ones, each derivable and put out by its
gate. -/
structure Spreads (circuit : Circuit) (signals : Signals) (waiting : Circuit) : Prop where
  among : ∀ connection ∈ waiting, connection ∈ circuit
  distinct : waiting.WellFormed
  known_iff : ∀ wire, (lookup signals wire).isSome = true ↔
    wire ∈ circuit.wires ∧ wire ∉ waiting.wires
  derivable : ∀ wire, (lookup signals wire).isSome = true → circuit.Derivable wire
  output_eq : ∀ connection ∈ circuit, connection ∉ waiting →
    connection.gate.output (lookup signals) = lookup signals connection.wire

variable {circuit waiting : Circuit} {signals : Signals}

theorem Spreads.start (wellFormed : circuit.WellFormed) {order : Circuit}
    (listed : order.Perm circuit) : Spreads circuit ∅ order where
  among _ member := listed.mem_iff.mp member
  distinct := ((listed.map Connection.wire).nodup_iff).mpr wellFormed
  known_iff wire := by
    have same : wire ∈ order.wires ↔ wire ∈ circuit.wires :=
      (listed.map Connection.wire).mem_iff
    simp [lookup, same]
  derivable wire known := by simp [lookup] at known
  output_eq connection present fired := absurd (listed.mem_iff.mpr present) fired

theorem Spreads.of_perm {waiting' : Circuit} (spreads : Spreads circuit signals waiting)
    (same : waiting.Perm waiting') : Spreads circuit signals waiting' where
  among connection member := spreads.among connection (same.mem_iff.mpr member)
  distinct := ((same.map Connection.wire).nodup_iff).mp spreads.distinct
  known_iff wire := by
    have left : wire ∈ waiting.wires ↔ wire ∈ waiting'.wires :=
      (same.map Connection.wire).mem_iff
    rw [spreads.known_iff, left]
  derivable := spreads.derivable
  output_eq connection present fired :=
    spreads.output_eq connection present fun member => fired (same.mem_iff.mp member)

theorem Spreads.unknown_of_waiting (spreads : Spreads circuit signals waiting) {wire : Wire}
    (waits : wire ∈ waiting.wires) : lookup signals wire = none := by
  have held := (spreads.known_iff wire).not.mpr fun known => known.2 waits
  simpa using held

/-- A wire is driven once, so what waits for it is the connection that drives it. -/
theorem Spreads.mem_of_wire_mem (wellFormed : circuit.WellFormed)
    (spreads : Spreads circuit signals waiting) {connection : Connection}
    (present : connection ∈ circuit) (waits : connection.wire ∈ waiting.wires) :
    connection ∈ waiting := by
  obtain ⟨other, member, equal⟩ := List.mem_map.mp waits
  exact wellFormed.eq_of_wire_eq (spreads.among other member) present equal ▸ member

/-- What does not wait has fired: its wire carries the output of its gate. -/
theorem Spreads.output_of_fired (wellFormed : circuit.WellFormed)
    (spreads : Spreads circuit signals waiting) {connection : Connection}
    (present : connection ∈ circuit) (fired : connection ∉ waiting) :
    ∃ signal, lookup signals connection.wire = some signal ∧
      connection.gate.output (lookup signals) = some signal := by
  have unheld : connection.wire ∉ waiting.wires := fun waits =>
    fired (spreads.mem_of_wire_mem wellFormed present waits)
  have known := (spreads.known_iff connection.wire).mpr ⟨Circuit.mem_wires present, unheld⟩
  obtain ⟨signal, found⟩ := Option.isSome_iff_exists.mp known
  exact ⟨signal, found, (spreads.output_eq connection present fired).trans found⟩

/-- A gate with an output fires. -/
theorem Spreads.fire (wellFormed : circuit.WellFormed) {connection : Connection} {signal : Signal}
    (spreads : Spreads circuit signals (connection :: waiting))
    (output : connection.gate.output (lookup signals) = some signal) :
    Spreads circuit (signals.insert connection.wire signal) waiting := by
  have present := spreads.among connection (by simp)
  obtain ⟨single, distinct⟩ := List.nodup_cons.mp spreads.distinct
  -- The new wire was unknown, so no signal that was known is overwritten.
  have extended : ∀ wire value, lookup signals wire = some value →
      lookup (signals.insert connection.wire signal) wire = some value := by
    intro wire value known
    have different : connection.wire ≠ wire := by
      rintro rfl
      simp [spreads.unknown_of_waiting (Circuit.mem_wires (List.mem_cons_self ..))] at known
    rw [lookup_insert, if_neg different, known]
  refine ⟨fun other member => spreads.among other (by simp [member]), distinct, ?_, ?_, ?_⟩
  · intro wire
    rw [lookup_insert]
    split
    next same =>
      subst same
      exact iff_of_true rfl ⟨Circuit.mem_wires present, single⟩
    next different =>
      have others : wire ∈ Circuit.wires (connection :: waiting) ↔ wire ∈ waiting.wires := by
        simp [Circuit.wires, Ne.symm different]
      rw [spreads.known_iff, others]
  · intro wire known
    rw [lookup_insert] at known
    split at known
    next same =>
      -- The gate has an output, so its sources are known and by that derivable.
      have sources := connection.gate.output_isSome_iff.mp (Option.isSome_of_eq_some output)
      exact same ▸ .driven connection present fun source member =>
        spreads.derivable source (sources source member)
    next different => exact spreads.derivable wire known
  · intro other present' fired
    by_cases same : other = connection
    · subst same
      rw [lookup_insert, if_pos rfl]
      exact Gate.output_mono extended output
    · have earlier : other ∉ connection :: waiting := by simp [same, fired]
      obtain ⟨value, found, before⟩ := spreads.output_of_fired wellFormed present' earlier
      rw [Gate.output_mono extended before, extended other.wire value found]

/-! ### Sweeps -/

theorem sweep_spreads (wellFormed : circuit.WellFormed) (connections skipped : Circuit)
    (signals : Signals) (spreads : Spreads circuit signals (skipped ++ connections)) :
    Spreads circuit (sweep signals connections).1 (skipped ++ (sweep signals connections).2) := by
  -- What was scanned in vain still waits, in front of what is still to be scanned.
  induction connections generalizing signals skipped with
  | nil => exact spreads
  | cons connection rest ih =>
    unfold sweep
    split
    next signal output =>
      have fired := (spreads.of_perm List.perm_middle).fire wellFormed output
      exact ih skipped _ fired
    next =>
      have later := ih (skipped ++ [connection]) signals (by simpa using spreads)
      simpa using later

/-- A sweep that leaves all connections waiting has fired nothing. -/
theorem sweep_stalled (signals : Signals) (connections : Circuit)
    (stalled : connections.length ≤ (sweep signals connections).2.length) :
    sweep signals connections = (signals, connections) ∧
      ∀ connection ∈ connections, connection.gate.output (lookup signals) = none := by
  induction connections with
  | nil => exact ⟨rfl, by simp⟩
  | cons connection rest ih =>
    unfold sweep at stalled ⊢
    split
    next signal output =>
      have shorter := sweep_length_le (signals.insert connection.wire signal) rest
      simp only [output, List.length_cons] at stalled
      omega
    next output =>
      simp only [output, List.length_cons, Nat.add_le_add_iff_right] at stalled
      obtain ⟨same, none_fires⟩ := ih stalled
      rw [same]
      exact ⟨rfl, List.forall_mem_cons.mpr ⟨output, none_fires⟩⟩

/-! ### The end -/

/-- Where no waiting gate has an output, the known wires are the derivable ones. -/
theorem Spreads.derivable_iff (wellFormed : circuit.WellFormed)
    (spreads : Spreads circuit signals waiting)
    (stalled : ∀ connection ∈ waiting, connection.gate.output (lookup signals) = none)
    (wire : Wire) : circuit.Derivable wire ↔ (lookup signals wire).isSome = true := by
  refine ⟨fun derivable => ?_, spreads.derivable wire⟩
  induction derivable with
  | driven connection present _ ih =>
    refine (spreads.known_iff _).mpr ⟨Circuit.mem_wires present, fun waits => ?_⟩
    -- All sources are known by induction, so the gate has an output and cannot be waiting.
    have fires := connection.gate.output_isSome_iff.mpr ih
    have member := spreads.mem_of_wire_mem wellFormed present waits
    simp [stalled connection member] at fires

theorem settle_cases (wellFormed : circuit.WellFormed) (signals : Signals) (waiting : Circuit)
    (rounds : Nat) (spreads : Spreads circuit signals waiting) :
    (∃ settled total, settle signals waiting rounds = .ok (settled, total) ∧
        total ≤ rounds + waiting.length ∧ Spreads circuit settled []) ∨
      ∃ settled left, settle signals waiting rounds = .error left ∧ left ≠ [] ∧
        Spreads circuit settled left ∧
        ∀ connection ∈ left, connection.gate.output (lookup settled) = none := by
  fun_induction settle signals waiting rounds with
  | case1 signals waiting rounds done =>
    have empty := List.isEmpty_iff.mp done
    subst empty
    exact Or.inl ⟨signals, rounds, rfl, Nat.le_refl _, spreads⟩
  | case2 signals waiting rounds more settled left swept shorter ih =>
    have later := sweep_spreads wellFormed waiting [] signals spreads
    rw [swept] at later
    rcases ih later with ⟨final, total, reached, bound, complete⟩ | stuck
    · exact Or.inl ⟨final, total, reached, by omega, complete⟩
    · exact Or.inr stuck
  | case3 signals waiting rounds more settled left swept stalled =>
    -- As many connections wait as before, so the sweep has changed nothing.
    have whole : waiting.length ≤ (sweep signals waiting).2.length := by
      rw [swept]
      exact Nat.not_lt.mp stalled
    obtain ⟨same, none_fires⟩ := sweep_stalled signals waiting whole
    cases swept.symm.trans same
    exact Or.inr ⟨signals, waiting, rfl, by simpa using more, spreads, none_fires⟩

/-! ### Solutions -/

theorem Spreads.mem_wires_iff (complete : Spreads circuit signals []) (wire : Wire) :
    (lookup signals wire).isSome = true ↔ wire ∈ circuit.wires := by
  simpa [Circuit.wires] using complete.known_iff wire

/-- The settled signals are the only solution on the wires of the circuit. -/
theorem Spreads.solves_iff (complete : Spreads circuit signals []) (solution : Wire → Signal) :
    circuit.Solves solution ↔
      ∀ wire ∈ circuit.wires, lookup signals wire = some (solution wire) := by
  constructor
  · intro solves wire driven
    have derivable := complete.derivable wire ((complete.mem_wires_iff wire).mpr driven)
    -- A solution is forced along the derivation: by induction it agrees on the sources of a gate.
    induction derivable with
    | driven connection present sources ih =>
      have agree : ∀ source ∈ connection.gate.wires,
          lookup signals source = some (solution source) :=
        fun source member => ih source member (sources source member).mem_wires
      obtain ⟨signal, output, value⟩ := Gate.output_of_known agree
      rw [← complete.output_eq connection present List.not_mem_nil, output,
        UInt16.toNat_inj.mp (value.trans (solves connection present).symm)]
  · intro agree connection present
    have known := agree connection.wire (Circuit.mem_wires present)
    have output := (complete.output_eq connection present List.not_mem_nil).trans known
    have sources := connection.gate.output_isSome_iff.mp (Option.isSome_of_eq_some output)
    obtain ⟨signal, output', value⟩ := Gate.output_of_known fun source member =>
      agree source ((complete.mem_wires_iff source).mp (sources source member))
    cases output.symm.trans output'
    exact value

/-- The settled signals are themselves a solution. -/
theorem Spreads.exists_solution (complete : Spreads circuit signals []) :
    ∃ solution, circuit.Solves solution ∧
      ∀ wire ∈ circuit.wires, lookup signals wire = some (solution wire) := by
  let solution wire := (lookup signals wire).getD 0
  have agree : ∀ wire ∈ circuit.wires, lookup signals wire = some (solution wire) := by
    intro wire driven
    have known := (complete.mem_wires_iff wire).mpr driven
    obtain ⟨signal, found⟩ := Option.isSome_iff_exists.mp known
    simp [solution, found]
  exact ⟨solution, (complete.solves_iff solution).mpr agree, agree⟩

theorem Spreads.lookup_eq {signals' : Signals} (complete : Spreads circuit signals [])
    (complete' : Spreads circuit signals' []) : lookup signals = lookup signals' := by
  -- Either map is a solution where it is defined, and the other one is the only solution.
  obtain ⟨solution, solves, agree⟩ := complete.exists_solution
  have agree' := (complete'.solves_iff solution).mp solves
  funext wire
  by_cases driven : wire ∈ circuit.wires
  · rw [agree wire driven, agree' wire driven]
  · have unknown := (complete.mem_wires_iff wire).not.mpr driven
    have unknown' := (complete'.mem_wires_iff wire).not.mpr driven
    rw [Option.not_isSome_iff_eq_none.mp unknown, Option.not_isSome_iff_eq_none.mp unknown']

/-! ### Resolving -/

/-- The wires without a derivation. -/
def Circuit.Stuck (circuit : Circuit) : Set Wire :=
  { wire | wire ∈ circuit.wires ∧ ¬ circuit.Derivable wire }

theorem resolve_cases (wellFormed : circuit.WellFormed) {order : Circuit}
    (listed : order.Perm circuit) :
    (∃ signals rounds, resolve order = .ok (signals, rounds) ∧ rounds ≤ circuit.length ∧
        Spreads circuit signals []) ∨
      ∃ waiting : Circuit, resolve order = .error (stuckError waiting) ∧ waiting ≠ [] ∧
        waiting.WellFormed ∧ ∀ wire, wire ∈ waiting.wires ↔ wire ∈ circuit.Stuck := by
  unfold resolve
  rcases settle_cases wellFormed ∅ order 0 (.start wellFormed listed) with
    ⟨signals, rounds, reached, bound, complete⟩ |
      ⟨signals, waiting, reached, remain, spreads, stalled⟩
  · rw [reached]
    rw [Nat.zero_add, listed.length_eq] at bound
    exact Or.inl ⟨signals, rounds, rfl, bound, complete⟩
  · rw [reached]
    refine Or.inr ⟨waiting, rfl, remain, spreads.distinct, fun wire => ?_⟩
    have derivable_iff := spreads.derivable_iff wellFormed stalled wire
    rw [spreads.known_iff] at derivable_iff
    constructor
    · intro waits
      obtain ⟨connection, member, same⟩ := List.mem_map.mp waits
      exact ⟨same ▸ Circuit.mem_wires (spreads.among connection member),
        fun derivable => (derivable_iff.mp derivable).2 waits⟩
    · rintro ⟨driven, stuck⟩
      by_contra fired
      exact stuck (derivable_iff.mpr ⟨driven, fired⟩)

theorem resolve_of_derivable (wellFormed : circuit.WellFormed) {order : Circuit}
    (listed : order.Perm circuit) (all : ∀ wire ∈ circuit.wires, circuit.Derivable wire) :
    ∃ signals rounds, resolve order = .ok (signals, rounds) ∧ rounds ≤ circuit.length ∧
      Spreads circuit signals [] := by
  rcases resolve_cases wellFormed listed with settled | ⟨waiting, _, remain, _, stuck_iff⟩
  · exact settled
  · obtain ⟨connection, member⟩ := List.exists_mem_of_ne_nil waiting remain
    obtain ⟨driven, stuck⟩ := (stuck_iff connection.wire).mp (Circuit.mem_wires member)
    exact absurd (all connection.wire driven) stuck

theorem resolve_of_not_derivable (wellFormed : circuit.WellFormed) {order : Circuit}
    (listed : order.Perm circuit) (some_stuck : ¬ ∀ wire ∈ circuit.wires, circuit.Derivable wire) :
    ∃ waiting : Circuit, resolve order = .error (stuckError waiting) ∧ waiting.WellFormed ∧
      ∀ wire, wire ∈ waiting.wires ↔ wire ∈ circuit.Stuck := by
  rcases resolve_cases wellFormed listed with
    ⟨signals, _, _, _, complete⟩ | ⟨waiting, failed, _, distinct, stuck_iff⟩
  · refine absurd (fun wire driven => ?_) some_stuck
    exact complete.derivable wire ((complete.mem_wires_iff wire).mpr driven)
  · exact ⟨waiting, failed, distinct, stuck_iff⟩

theorem ncard_stuck {waiting : Circuit} (distinct : waiting.WellFormed)
    (all : ∀ wire, wire ∈ waiting.wires ↔ wire ∈ circuit.Stuck) :
    circuit.Stuck.ncard = waiting.length := by
  have stuck_eq : circuit.Stuck = (waiting.wires.toFinset : Set Wire) := by
    ext wire
    simp [← all]
  rw [stuck_eq, Set.ncard_coe_finset, List.toFinset_card_of_nodup distinct]
  exact List.length_map _

/-- Names of stuck wires, each of another one: all of them if they are few. -/
def Circuit.Samples (circuit : Circuit) (sample : List String) : Prop :=
  ∃ wires : List Wire, wires.Nodup ∧ wires.length = min sampleSize circuit.Stuck.ncard ∧
    (∀ wire ∈ wires, wire ∈ circuit.Stuck) ∧
    sample = wires.map fun wire => Text.quote wire.toList

theorem exists_samples {waiting : Circuit} (distinct : waiting.WellFormed)
    (all : ∀ wire, wire ∈ waiting.wires ↔ wire ∈ circuit.Stuck) :
    ∃ sample, circuit.Samples sample ∧
      stuckError waiting = .stuck circuit.Stuck.ncard sample := by
  have first : (waiting.wires.take sampleSize).Sublist waiting.wires := List.take_sublist ..
  refine ⟨_, ⟨waiting.wires.take sampleSize, List.Nodup.sublist first distinct, ?_, ?_, rfl⟩, ?_⟩
  · rw [ncard_stuck distinct all]
    simp [Circuit.wires]
  · exact fun wire member => (all wire).mp (first.subset member)
  · rw [ncard_stuck distinct all, stuckError, Circuit.wires]
    simp only [List.map_take, List.map_map, Function.comp_def]

/-- The same outcome, but for the stuck wires that are named. -/
inductive SameButForSample {α : Type} : Except CircuitError α → Except CircuitError α → Prop
  | same (outcome : Except CircuitError α) : SameButForSample outcome outcome
  | stuck (count : Nat) (sample sample' : List String) :
    SameButForSample (.error (.stuck count sample)) (.error (.stuck count sample'))

/-- The outcome is the same for every order of the connections: the signals, or the count of stuck
wires. Which of these are named is up to the order. -/
theorem resolve_of_perm (wellFormed : circuit.WellFormed) {order order' : Circuit}
    (listed : order.Perm circuit) (listed' : order'.Perm circuit) :
    SameButForSample ((resolve order).map fun result => lookup result.1)
      ((resolve order').map fun result => lookup result.1) := by
  by_cases all : ∀ wire ∈ circuit.wires, circuit.Derivable wire
  · obtain ⟨signals, _, reached, _, complete⟩ := resolve_of_derivable wellFormed listed all
    obtain ⟨signals', _, reached', _, complete'⟩ := resolve_of_derivable wellFormed listed' all
    rw [reached, reached']
    simp only [Except.map, complete.lookup_eq complete']
    apply SameButForSample.same
  · obtain ⟨waiting, failed, distinct, stuck⟩ := resolve_of_not_derivable wellFormed listed all
    obtain ⟨waiting', failed', distinct', stuck'⟩ :=
      resolve_of_not_derivable wellFormed listed' all
    obtain ⟨sample, _, error⟩ := exists_samples distinct stuck
    obtain ⟨sample', _, error'⟩ := exists_samples distinct' stuck'
    rw [failed, failed', error, error']
    apply SameButForSample.stuck

theorem solvePart_of_stuck {order : Circuit} {count : Nat} {sample : List String}
    (stuck : resolve order = .error (.stuck count sample)) (part : Nat) :
    (solvePart part ⟨order, none⟩).answer = .error (.failed (toString count ++
      " wires never receive a signal (e.g. [" ++ ", ".intercalate sample ++ "])")) := by
  simp only [solvePart, originalSignal, signalOn, stuck]
  rfl

/-- Resolving succeeds if and only if no wire depends on an undriven wire or on a cycle. It then
gives the only solution, and otherwise the count of wires without a derivation and the names of a
few of them. The outcome is the same in every order of the connections, but for these names. -/
theorem resolve_gives_only_solution (wellFormed : circuit.WellFormed) :
    ((∀ wire ∈ circuit.wires, circuit.Derivable wire) ↔ circuit.Grounded) ∧
    (∀ order : Circuit, order.Perm circuit →
      (circuit.Grounded →
        ∃ signals rounds, resolve order = .ok (signals, rounds) ∧ rounds ≤ circuit.length ∧
          (∀ wire, (lookup signals wire).isSome = true ↔ wire ∈ circuit.wires) ∧
          ∀ solution, circuit.Solves solution ↔
            ∀ wire ∈ circuit.wires, lookup signals wire = some (solution wire)) ∧
      (¬ circuit.Grounded →
        ∃ sample, circuit.Samples sample ∧
          resolve order = .error (.stuck circuit.Stuck.ncard sample) ∧
          ∀ part, (solvePart part ⟨order, none⟩).answer =
            .error (.failed (toString circuit.Stuck.ncard ++
              " wires never receive a signal (e.g. [" ++ ", ".intercalate sample ++ "])")))) ∧
    ∀ order order' : Circuit, order.Perm circuit → order'.Perm circuit →
      SameButForSample ((resolve order).map fun result => lookup result.1)
        ((resolve order').map fun result => lookup result.1) := by
  have grounded_iff := Circuit.all_derivable_iff wellFormed
  refine ⟨grounded_iff, fun order listed => ⟨fun grounded => ?_, fun ungrounded => ?_⟩,
    fun order order' => resolve_of_perm wellFormed⟩
  · obtain ⟨signals, rounds, reached, bound, complete⟩ :=
      resolve_of_derivable wellFormed listed (grounded_iff.mpr grounded)
    exact ⟨signals, rounds, reached, bound, complete.mem_wires_iff, complete.solves_iff⟩
  · obtain ⟨waiting, failed, distinct, stuck⟩ :=
      resolve_of_not_derivable wellFormed listed (grounded_iff.not.mpr ungrounded)
    obtain ⟨sample, samples, error⟩ := exists_samples distinct stuck
    rw [error] at failed
    exact ⟨sample, samples, failed, solvePart_of_stuck failed⟩

/-- A circuit that settles, and two wires that feed each other, in both orders. -/
theorem small_circuit_settles_and_cycle_sticks :
    let circuit : Circuit := [⟨"x", .assign (.value 123)⟩, ⟨"y", .assign (.value 456)⟩,
      ⟨"d", .and (.wire "x") (.wire "y")⟩, ⟨"f", .leftShift (.wire "x") (.value 2)⟩,
      ⟨"h", .not (.wire "x")⟩]
    let cycle : Circuit := [⟨"a", .assign (.wire "b")⟩, ⟨"b", .assign (.wire "a")⟩]
    (circuit.WellFormed ∧ circuit.Grounded ∧
      ∃ signals rounds, resolve circuit.reverse = .ok (signals, rounds) ∧
        lookup signals "d" = some 72 ∧ lookup signals "f" = some 492 ∧
        lookup signals "h" = some 65412) ∧
      cycle.WellFormed ∧ ¬ cycle.Grounded ∧
        (∃ sample, cycle.Samples sample ∧ resolve cycle.reverse = .error (.stuck 2 sample)) ∧
        SameButForSample ((resolve cycle).map fun result => lookup result.1)
          ((resolve cycle.reverse).map fun result => lookup result.1) := by
  intro circuit cycle
  constructor
  · have wellFormed : circuit.WellFormed := by decide
    obtain ⟨grounded_iff, resolved, _⟩ := resolve_gives_only_solution wellFormed
    have grounded : circuit.Grounded := by
      have x : circuit.Derivable "x" :=
        .driven ⟨"x", .assign (.value 123)⟩ (by decide) (by simp [Gate.wires, Operand.wires])
      have y : circuit.Derivable "y" :=
        .driven ⟨"y", .assign (.value 456)⟩ (by decide) (by simp [Gate.wires, Operand.wires])
      have d : circuit.Derivable "d" :=
        .driven ⟨"d", .and (.wire "x") (.wire "y")⟩ (by decide)
          (by simp [Gate.wires, Operand.wires, x, y])
      have f : circuit.Derivable "f" :=
        .driven ⟨"f", .leftShift (.wire "x") (.value 2)⟩ (by decide)
          (by simp [Gate.wires, Operand.wires, x])
      have h : circuit.Derivable "h" :=
        .driven ⟨"h", .not (.wire "x")⟩ (by decide) (by simp [Gate.wires, Operand.wires, x])
      refine grounded_iff.mp ?_
      simp [circuit, Circuit.wires, x, y, d, f, h]
    obtain ⟨signals, rounds, reached, _, _, only⟩ :=
      (resolved circuit.reverse (List.reverse_perm circuit)).1 grounded
    let solution (wire : Wire) : Signal :=
      if wire = "x" then 123 else if wire = "y" then 456 else if wire = "d" then 72
      else if wire = "f" then 492 else 65412
    have solves : circuit.Solves solution := by
      unfold Circuit.Solves
      decide
    have known := (only solution).mp solves
    exact ⟨wellFormed, grounded, signals, rounds, reached, known "d" (by decide),
      known "f" (by decide), known "h" (by decide)⟩
  · have wellFormed : cycle.WellFormed := by decide
    have feeds : cycle.Feeds "b" "a" := ⟨⟨"a", .assign (.wire "b")⟩, by decide, rfl, by decide⟩
    have feeds' : cycle.Feeds "a" "b" := ⟨⟨"b", .assign (.wire "a")⟩, by decide, rfl, by decide⟩
    have a_again : Relation.TransGen cycle.Feeds "a" "a" := .tail (.single feeds') feeds
    have b_again : Relation.TransGen cycle.Feeds "b" "b" := .tail (.single feeds) feeds'
    have stuck : cycle.Stuck = {"a", "b"} := by
      ext wire
      simp only [Circuit.Stuck, Set.mem_ofPred_eq, Set.mem_insert_iff, Set.mem_singleton_iff]
      constructor
      · rintro ⟨driven, _⟩
        simpa [cycle, Circuit.wires] using driven
      · rintro (rfl | rfl)
        · exact ⟨by decide, fun derivable => derivable.not_cyclic wellFormed a_again⟩
        · exact ⟨by decide, fun derivable => derivable.not_cyclic wellFormed b_again⟩
    have ungrounded : ¬ cycle.Grounded := fun grounded =>
      (grounded "a" (by decide) "a" a_again).2 a_again
    obtain ⟨_, resolved, orders⟩ := resolve_gives_only_solution wellFormed
    obtain ⟨sample, samples, failed, _⟩ :=
      (resolved cycle.reverse (List.reverse_perm cycle)).2 ungrounded
    rw [stuck, Set.ncard_pair (by decide)] at failed
    exact ⟨wellFormed, ungrounded, ⟨sample, samples, failed⟩,
      orders _ _ (.refl _) (List.reverse_perm cycle)⟩

end Advent.Circuits
