import Advent.Proofs.Puzzle.Circuit.Connections
import Advent.Proofs.Puzzle.Circuit.Memory
import Advent.Proofs.Puzzle.Circuit.Settling

/-!
# A wire driven by a constant

Where every wire of a circuit has a derivation, it still has one after a constant is put in place of
the gate of one wire: the constant needs no sources, and the other gates are as they were. So the
rewired circuit settles whenever the original one does, and it keeps its wires. Its only solution
satisfies the equations of the other gates from the constant on, whatever the signals were before.
-/
namespace Advent.Circuits

namespace Circuit

variable {circuit : Circuit} {wire : Wire} {gate : Gate}

/-! ### One gate in place of another -/

theorem wires_connect (driven : wire ∈ circuit.wires) :
    (circuit.connect wire gate).wires = circuit.wires := by
  rw [connect, if_pos driven, wires, wires, List.map_map]
  refine List.map_congr_left fun connection _ => ?_
  by_cases same : connection.wire = wire <;> simp [same]

theorem mem_connect_iff (driven : wire ∈ circuit.wires) (connection : Connection) :
    connection ∈ circuit.connect wire gate ↔
      connection = ⟨wire, gate⟩ ∨ connection ∈ circuit ∧ connection.wire ≠ wire := by
  rw [connect, if_pos driven, List.mem_map]
  constructor
  · rintro ⟨old, present, rfl⟩
    by_cases same : old.wire = wire
    · exact Or.inl (if_pos same)
    · rw [if_neg same]
      exact Or.inr ⟨present, same⟩
  · rintro (rfl | ⟨present, other⟩)
    · obtain ⟨old, present, same⟩ := List.mem_map.mp driven
      exact ⟨old, present, if_pos same⟩
    · exact ⟨connection, present, if_neg other⟩

theorem WellFormed.connect (wellFormed : circuit.WellFormed) (driven : wire ∈ circuit.wires) :
    (circuit.connect wire gate).WellFormed := by
  rw [WellFormed, wires_connect driven]
  exact wellFormed

/-- A gate without sources takes no derivation away. -/
theorem Derivable.connect (driven : wire ∈ circuit.wires) (constant : gate.wires = [])
    {target : Wire} (derivable : circuit.Derivable target) :
    (circuit.connect wire gate).Derivable target := by
  induction derivable with
  | driven connection present _ ih =>
    by_cases same : connection.wire = wire
    · have replaced : ⟨wire, gate⟩ ∈ circuit.connect wire gate :=
        (mem_connect_iff driven _).mpr (Or.inl rfl)
      rw [same]
      exact Derivable.driven ⟨wire, gate⟩ replaced (by simp [constant])
    · have kept : connection ∈ circuit.connect wire gate :=
        (mem_connect_iff driven _).mpr (Or.inr ⟨present, same⟩)
      exact Derivable.driven connection kept ih

/-- The signals satisfy the equation of every gate but that of one wire, which carries a constant. -/
def SolvesWith (circuit : Circuit) (wire : Wire) (constant : Signal) (signals : Wire → Signal) :
    Prop :=
  signals wire = constant ∧ ∀ connection ∈ circuit, connection.wire ≠ wire →
    (signals connection.wire).toNat = connection.gate.number signals

theorem solves_connect_iff (driven : wire ∈ circuit.wires) (constant : Signal)
    (signals : Wire → Signal) :
    (circuit.connect wire (.assign (.value constant))).Solves signals ↔
      circuit.SolvesWith wire constant signals := by
  constructor
  · intro solves
    constructor
    · exact UInt16.toNat_inj.mp (solves _ ((mem_connect_iff driven _).mpr (Or.inl rfl)))
    · intro connection present other
      exact solves connection ((mem_connect_iff driven _).mpr (Or.inr ⟨present, other⟩))
  · rintro ⟨carried, others⟩ connection member
    rcases (mem_connect_iff driven connection).mp member with rfl | ⟨present, other⟩
    · exact congrArg UInt16.toNat carried
    · exact others connection present other

end Circuit

/-! ### Signals -/

variable {circuit : Circuit}

/-- A signal is given if and only if the circuit settles and has the wire; it is the one that the
solutions have there. -/
theorem signalOn_eq_ok_iff (wellFormed : circuit.WellFormed) (wire : Wire) (signal : Signal) :
    (signalOn circuit wire).1 = .ok signal ↔
      (∀ target ∈ circuit.wires, circuit.Derivable target) ∧ wire ∈ circuit.wires ∧
        ∃ solution, circuit.Solves solution ∧ solution wire = signal := by
  constructor
  · intro found
    rcases resolve_cases wellFormed (List.Perm.refl circuit) with
      ⟨signals, rounds, reached, _, complete⟩ | ⟨waiting, failed, _⟩
    · have known : lookup signals wire = some signal := by
        cases value : lookup signals wire with
        | none => simp [signalOn, reached, value] at found
        | some other => simpa [signalOn, reached, value] using found
      have driven := (complete.mem_wires_iff wire).mp (Option.isSome_of_eq_some known)
      obtain ⟨solution, solves, agree⟩ := complete.exists_solution
      refine ⟨fun target member => ?_, driven, solution, solves, ?_⟩
      · exact complete.derivable target ((complete.mem_wires_iff target).mpr member)
      · exact Option.some.inj ((agree wire driven).symm.trans known)
    · simp [signalOn, failed] at found
  · rintro ⟨all, driven, solution, solves, rfl⟩
    obtain ⟨signals, rounds, reached, _, complete⟩ :=
      resolve_of_derivable wellFormed (List.Perm.refl circuit) all
    have known := (complete.solves_iff solution).mp solves wire driven
    simp [signalOn, reached, known]

theorem Circuit.Solves.unique (wellFormed : circuit.WellFormed)
    (all : ∀ target ∈ circuit.wires, circuit.Derivable target) {solution other : Wire → Signal}
    (solves : circuit.Solves solution) (solves' : circuit.Solves other) :
    ∀ wire ∈ circuit.wires, other wire = solution wire := by
  intro wire driven
  obtain ⟨signals, _, _, _, complete⟩ :=
    resolve_of_derivable wellFormed (List.Perm.refl circuit) all
  have known := (complete.solves_iff solution).mp solves wire driven
  have known' := (complete.solves_iff other).mp solves' wire driven
  exact Option.some.inj (known'.symm.trans known)

/-- Once the circuit has settled with an `a`, the rewired one does too. -/
theorem exists_signalOn_rewired (wellFormed : circuit.WellFormed) {first : Signal}
    (resolved : (signalOn circuit "a").1 = .ok first) (driven : "b" ∈ circuit.wires) :
    ∃ solution, circuit.SolvesWith "b" first solution ∧
      (∀ other, circuit.SolvesWith "b" first other →
        ∀ wire ∈ circuit.wires, other wire = solution wire) ∧
      (signalOn (rewired circuit first) "a").1 = .ok (solution "a") := by
  obtain ⟨all, named, _⟩ := (signalOn_eq_ok_iff wellFormed ..).mp resolved
  have wellFormed' : (rewired circuit first).WellFormed := wellFormed.connect driven
  have same : (rewired circuit first).wires = circuit.wires := Circuit.wires_connect driven
  have all' : ∀ target ∈ (rewired circuit first).wires, (rewired circuit first).Derivable target := by
    intro target member
    rw [same] at member
    exact (all target member).connect driven rfl
  obtain ⟨signals, _, _, _, complete⟩ :=
    resolve_of_derivable wellFormed' (List.Perm.refl _) all'
  obtain ⟨solution, solves, _⟩ := complete.exists_solution
  refine ⟨solution, (Circuit.solves_connect_iff driven ..).mp solves, ?_, ?_⟩
  · intro other solves'
    rw [← same]
    exact solves.unique wellFormed' all' ((Circuit.solves_connect_iff driven ..).mpr solves')
  · refine (signalOn_eq_ok_iff wellFormed' ..).mpr ⟨all', ?_, solution, solves, rfl⟩
    rwa [same]

/-! ### Answers -/

theorem answerFor_one (circuit : Circuit) (text : String) :
    answerFor circuit 1 = .ok text ↔
      ∃ first, (signalOn circuit "a").1 = .ok first ∧ toString first.toNat = text := by
  cases resolved : (signalOn circuit "a").1 <;> simp [answerFor, resolved]

theorem answerFor_two (circuit : Circuit) (text : String) :
    answerFor circuit 2 = .ok text ↔
      ∃ first, (signalOn circuit "a").1 = .ok first ∧ "b" ∈ circuit.wires ∧
        ∃ second, (signalOn (rewired circuit first) "a").1 = .ok second ∧
          toString second.toNat = text := by
  cases resolved : (signalOn circuit "a").1 with
  | error error => simp [answerFor, resolved]
  | ok first =>
    by_cases driven : "b" ∈ circuit.wires
    · cases again : (signalOn (rewired circuit first) "a").1 <;>
        simp [answerFor, resolved, driven, again]
    · simp [answerFor, resolved, driven]

/-- The second part has an answer if and only if the first has one and there is a `b` to override. -/
theorem exists_answerFor_two (wellFormed : circuit.WellFormed) :
    (∃ text, answerFor circuit 2 = .ok text) ↔
      (∃ text, answerFor circuit 1 = .ok text) ∧ "b" ∈ circuit.wires := by
  simp only [answerFor_one, answerFor_two]
  constructor
  · rintro ⟨_, first, resolved, driven, _⟩
    exact ⟨⟨_, first, resolved, rfl⟩, driven⟩
  · rintro ⟨⟨_, first, resolved, _⟩, driven⟩
    obtain ⟨solution, _, _, settled⟩ := exists_signalOn_rewired wellFormed resolved driven
    exact ⟨_, first, resolved, driven, _, settled, rfl⟩

/-- What the answers to both parts are taken from: the solution of the circuit, and the only one of
its equations with that signal of `a` on wire `b`. -/
theorem solutions_of_answerFor_two (wellFormed : circuit.WellFormed) {text : String}
    (answered : answerFor circuit 2 = .ok text) :
    ∃ original overridden, circuit.Solves original ∧
      circuit.SolvesWith "b" (original "a") overridden ∧
      (∀ other, circuit.SolvesWith "b" (original "a") other →
        ∀ wire ∈ circuit.wires, other wire = overridden wire) ∧
      "a" ∈ circuit.wires ∧ answerFor circuit 1 = .ok (toString (original "a").toNat) ∧
      text = toString (overridden "a").toNat := by
  obtain ⟨first, resolved, driven, second, settled, rfl⟩ := (answerFor_two ..).mp answered
  obtain ⟨_, named, original, solves, rfl⟩ := (signalOn_eq_ok_iff wellFormed ..).mp resolved
  obtain ⟨overridden, solves', unique, settled'⟩ :=
    exists_signalOn_rewired wellFormed resolved driven
  obtain rfl := Except.ok.inj (settled'.symm.trans settled)
  exact ⟨original, overridden, solves, solves', unique, named,
    (answerFor_one ..).mpr ⟨_, resolved, rfl⟩, rfl⟩

/-- After any calls and for every order of the connections, the second part answers if and only if
the first does and a line drives `b`. It answers with the signal of `a` once `b` carries the first
answer in place of its gate and every other wire is recomputed. -/
theorem second_part_solves_overridden {input : String} {board : Board}
    (read : parse input = .ok board) {order : Circuit} (listed : order.Perm board.circuit)
    (calls : List Nat) :
    let answer part :=
      (solver.solveChecked (solver.stateAfter (⟨order, none⟩ : Board) calls) part).answer
    ((∃ text, answer 2 = .ok text) ↔ (∃ text, answer 1 = .ok text) ∧
        ∃ line ∈ Text.contents (input.toList.splitOn '\n'), Drives line "b") ∧
      ∀ text, answer 2 = .ok text → ∃ original overridden, order.Solves original ∧
        order.SolvesWith "b" (original "a") overridden ∧
        (∀ other, order.SolvesWith "b" (original "a") other →
          ∀ wire ∈ order.wires, other wire = overridden wire) ∧
        "a" ∈ order.wires ∧ answer 1 = .ok (toString (original "a").toNat) ∧
        text = toString (overridden "a").toNat := by
  intro answer
  have wellFormed : order.WellFormed :=
    (listed.map Connection.wire).nodup_iff.mpr ((parse_eq_ok_iff ..).mp read).2.1
  have later := stateAfter_remembers order calls
  have answer_eq (part : Nat) (within : 1 ≤ part ∧ part ≤ 2) :
      answer part = answerFor order part :=
    (congrArg Step.answer (Dispatch.solveChecked_of_within parse solvePart _ within)).trans
      (later.answer_eq part)
  have driven_iff : "b" ∈ order.wires ↔
      ∃ line ∈ Text.contents (input.toList.splitOn '\n'), Drives line "b" :=
    (listed.map Connection.wire).mem_iff.trans (mem_wires_of_parse read "b")
  rw [answer_eq 1 (by decide), answer_eq 2 (by decide), ← driven_iff]
  exact ⟨exists_answerFor_two wellFormed, fun _ => solutions_of_answerFor_two wellFormed⟩

theorem overridden_wire_recomputed :
    ∃ board, parse "b LSHIFT 1 -> a\n5 -> b" = .ok board ∧
      let order : Board := ⟨board.circuit.reverse, none⟩
      (solver.solveChecked (solver.stateAfter order [1]) 2).answer = .ok "20" := by
  let circuit : Circuit := [⟨"a", .leftShift (.wire "b") (.value 1)⟩, ⟨"b", .assign (.value 5)⟩]
  have read : parse "b LSHIFT 1 -> a\n5 -> b" = .ok ⟨circuit, none⟩ := rfl
  have resolved : (signalOn circuit.reverse "a").1 = .ok 10 := by
    simp [circuit, signalOn, resolve, settle, sweep, Gate.output, Operand.read, lookup,
      Except.mapError, shiftLeft]
    rfl
  obtain ⟨answered_iff, found⟩ :=
    second_part_solves_overridden read (List.reverse_perm circuit) [1]
  let start : Board := ⟨circuit.reverse, none⟩
  have later := stateAfter_remembers circuit.reverse [1]
  have first : (solver.solveChecked (solver.stateAfter start [1]) 1).answer = .ok "10" :=
    (later.answer_eq 1).trans ((answerFor_one _ _).mpr ⟨10, resolved, rfl⟩)
  have line := (mem_wires_of_parse read "b").mp (by decide)
  obtain ⟨text, second⟩ := answered_iff.mpr ⟨⟨_, first⟩, line⟩
  obtain ⟨original, overridden, solves, carried, _, _, _, rfl⟩ := found text second
  have source : original "b" = 5 :=
    UInt16.toNat_inj.mp (solves ⟨"b", .assign (.value 5)⟩ (by decide))
  have signal : original "a" = 10 := by
    refine UInt16.toNat_inj.mp ?_
    rw [solves ⟨"a", .leftShift (.wire "b") (.value 1)⟩ (by decide)]
    simp only [Gate.number, Operand.number, source]
    rfl
  refine ⟨_, read, second.trans ?_⟩
  have shifted := carried.2 ⟨"a", .leftShift (.wire "b") (.value 1)⟩ (by decide) (by decide)
  rw [shifted]
  simp only [Gate.number, Operand.number, carried.1, signal]
  rfl

end Advent.Circuits
