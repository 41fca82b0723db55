import Advent.Proofs.Puzzle.Circuit.Orders
import Advent.Proofs.Puzzle.Instructions
import Advent.Proofs.Puzzle.Lines
import Advent.Proofs.Text.Layout

/-!
# Layout makes no difference

The five puzzles that are read line by line only depend on the content of their input. Where two
inputs have the same content, a solver reads the same from both and answers all calls alike, or it
refuses both for the same reason. What is read of a circuit may be listed in any order: the answers
are those of every listing, but for which stuck wires they name.
-/
namespace Advent

/-- The layout of its input makes no difference to a solver. -/
structure Solver.IgnoresLayout (solver : Solver) : Prop where
  parse_same : ∀ first second : String, Text.content first.toList = Text.content second.toList →
    Text.SameButForNumber (solver.parse first) (solver.parse second)
  answers_same : ∀ first second : String, Text.content first.toList = Text.content second.toList →
    ∀ calls, Text.SameButForNumber ((solver.parse first).map fun state => solver.answers state calls)
      ((solver.parse second).map fun state => solver.answers state calls)

section Readers

variable {α ε : Type} {parts : Nat}

/-- A solver whose reader goes through the lines, whatever it makes of their values. -/
theorem Dispatch.ignoresLayout_of_reader {σ : Type} (read : List α → List Char → Except ε α)
    (keep : List α → σ) (describe : ε → String) {parse : String → Except ParseError σ}
    (parses : ∀ input, parse input =
      ((Text.readLinesAfter read input.toList).map keep).mapError fun error =>
        .invalidFormat (error.message describe)) (family : Nat → σ → Step σ) :
    ((upTo parts).solver parse family).IgnoresLayout where
  parse_same _ _ same := Text.sameButForNumber_of_content parses same
  answers_same _ _ same _ := (Text.sameButForNumber_of_content parses same).map _

/-- A solver whose reader takes each line by itself. -/
theorem Dispatch.ignoresLayout_of_lines {read : List Char → Except ε α} {describe : ε → String}
    {parse : String → Except ParseError (List α)}
    (parses : ∀ input, parse input = (Text.readLines read input.toList).mapError fun error =>
      .invalidFormat (error.message describe)) (family : Nat → List α → Step (List α)) :
    ((upTo parts).solver parse family).IgnoresLayout := by
  refine ignoresLayout_of_reader (fun _ => read) id describe (fun input => ?_) family
  rw [parses, Text.readLines]
  cases Text.readLinesAfter (fun _ => read) input.toList <;> rfl

end Readers

/-! ### The readers of lines -/

/-- Blanks at the ends of lines are no content, and the solvers of presents, strings, lights,
circuits and literals see nothing else of their input. What two such inputs tell of a circuit may be
listed in an order of its own for each: all calls are answered alike, but for the stuck wires that
an answer names. -/
theorem layout_makes_no_difference :
    (∀ before blanks after, (∀ c ∈ blanks, Text.isBlank c = true) → Text.AtLineEdge before after →
      Text.content (before ++ blanks ++ after) = Text.content (before ++ after)) ∧
    (∀ solver ∈ [Presents.solver, NiceStrings.solver, Lights.solver, Circuits.solver,
      Literals.solver], solver.IgnoresLayout) ∧
    ∀ first second : String, Text.content first.toList = Text.content second.toList →
      ∀ board board', Circuits.parse first = .ok board → Circuits.parse second = .ok board' →
        ∀ order order' : Circuits.Circuit, order.Perm board.circuit → order'.Perm board'.circuit →
          ∀ calls, List.Forall₂ Circuits.AnsweredAlike
            (Circuits.solver.answers (⟨order, none⟩ : Circuits.Board) calls)
            (Circuits.solver.answers (⟨order', none⟩ : Circuits.Board) calls) := by
  -- The reader of circuits looks back at the lines before; the others do not.
  have circuits : Circuits.solver.IgnoresLayout := by
    refine Dispatch.ignoresLayout_of_reader Circuits.readConnection
      (fun circuit => ⟨circuit, none⟩) Circuits.ConnectionError.message (fun input => ?_) _
    rw [Circuits.parse_eq, Text.readLinesAfter, Text.contentLines_eq_contentFrom]
  refine ⟨fun _ _ _ => Text.content_of_blanks, ?_, ?_⟩
  · simp only [List.forall_mem_cons, List.not_mem_nil, false_imp_iff, implies_true, and_true]
    refine ⟨?_, ?_, ?_, circuits, ?_⟩
    all_goals exact Dispatch.ignoresLayout_of_lines (fun _ => rfl) _
  · intro first second same board board' read read' order order' listed listed' calls
    have alike := circuits.parse_same first second same
    rw [show Circuits.solver.parse first = _ from read,
      show Circuits.solver.parse second = _ from read'] at alike
    obtain rfl := alike.eq_of_ok
    obtain ⟨_, wellFormed, _⟩ := (Circuits.parse_eq_ok_iff ..).mp read
    exact Circuits.answers_of_perm wellFormed listed listed' calls

/-- Two presents in two layouts, a string that is refused on other lines, and a cycle of two wires
that is listed in both orders. -/
theorem two_layouts_read_alike :
    let dense := "2x3x4\n1x1x10"
    let loose := "\r\n  2x3x4\r\n \n\t1x1x10 \r\n"
    Text.content dense.toList = Text.content loose.toList ∧
      Presents.parse loose = .ok [⟨2, 3, 4⟩, ⟨1, 1, 10⟩] ∧
      Text.SameButForNumber (Presents.parse dense) (Presents.parse loose) ∧
      Text.content "a1".toList = Text.content "\n\r\n a1".toList ∧
      NiceStrings.parse "\n\r\n a1" = .error (.invalidFormat
        "(line 3) expected lowercase letters, got \"a1\"") ∧
      Text.SameButForNumber (NiceStrings.parse "a1") (NiceStrings.parse "\n\r\n a1") ∧
      let circuit : Circuits.Circuit := [⟨"a", .assign (.wire "b")⟩, ⟨"b", .assign (.wire "a")⟩]
      Circuits.parse "b -> a\na -> b" = .ok ⟨circuit, none⟩ ∧
        List.Forall₂ Circuits.AnsweredAlike
          (Circuits.solver.answers (⟨circuit, none⟩ : Circuits.Board) [1, 2])
          (Circuits.solver.answers (⟨circuit.reverse, none⟩ : Circuits.Board) [1, 2]) := by
  intro dense loose
  have same : Text.content dense.toList = Text.content loose.toList := by decide +kernel
  have same' : Text.content "a1".toList = Text.content "\n\r\n a1".toList := by decide +kernel
  obtain ⟨_, alike, orders⟩ := layout_makes_no_difference
  refine ⟨same, by decide +kernel, ?_, same', by decide +kernel, ?_, rfl, ?_⟩
  · exact (alike Presents.solver (by simp)).parse_same dense loose same
  · exact (alike NiceStrings.solver (by simp)).parse_same _ _ same'
  · have spread : Text.content "b -> a\na -> b".toList =
        Text.content "\tb -> a\r\na -> b\n".toList := by
      decide +kernel
    exact orders _ _ spread _ _ rfl rfl _ _ (.refl _) (List.reverse_perm _) [1, 2]

end Advent
