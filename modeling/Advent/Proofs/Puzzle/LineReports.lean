import Advent.Proofs.Puzzle.Circuit.Connections
import Advent.Proofs.Puzzle.Instructions
import Advent.Proofs.Puzzle.Lines

/-!
# What the readers of lines report

Five puzzles are read line by line. Each reader succeeds if and only if every line that is not blank
is well formed, which in a circuit includes that no line before drives the same wire. Otherwise the
error has the number of the first line that is not, counted with the blank ones, whatever follows. On
success there is one value for each line that is not blank, in their order.
-/
namespace Advent

/-- The readers of presents, words, instructions, literals and circuits. -/
theorem first_bad_line_reported :
    Text.ReadsEachLine Presents.parse Presents.WritesPresent ∧
      Text.ReadsEachLine NiceStrings.parse NiceStrings.WritesWord ∧
      Text.ReadsEachLine Lights.parse Lights.WritesInstruction ∧
      Text.ReadsEachLine Literals.parse Literals.WritesLiteral ∧
      Text.ReportsFirstBad Circuits.parse Circuits.MayFollow ∧
      (∀ input board, Circuits.parse input = .ok board ↔
        List.Forall₂ Circuits.WritesConnection (Text.contents (input.toList.splitOn '\n'))
            board.circuit ∧ board.circuit.WellFormed ∧ board.signalOfA = none) ∧
      ∀ input board, Circuits.parse input = .ok board → ∀ wire gate,
        (board.circuit.gate? wire = some gate ↔
          ∃ line ∈ Text.contents (input.toList.splitOn '\n'),
            Circuits.WritesConnection line ⟨wire, gate⟩) := by
  refine ⟨Presents.parse_readsEachLine, NiceStrings.parse_readsEachLine,
    Lights.parse_readsEachLine, Literals.parse_readsEachLine, Circuits.parse_reportsFirstBad,
    Circuits.parse_eq_ok_iff, ?_⟩
  intro input board done wire gate
  exact Circuits.gate?_of_parse done wire gate

/-- The blank line counts, and the line after the bad one is not looked at. -/
example : NiceStrings.parse "abc\n \na1\nB" =
    .error (.invalidFormat "(line 3) expected lowercase letters, got \"a1\"") := by
  decide +kernel

end Advent
