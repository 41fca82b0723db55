import Advent.Calendar
import Advent.Proofs.Puzzle.Floors
import Advent.Proofs.Puzzle.Houses
import Advent.Proofs.Puzzle.Lights
import Advent.Proofs.Puzzle.Literals
import Advent.Proofs.Puzzle.NiceStrings
import Advent.Proofs.Puzzle.Presents

/-!
# Short inputs never lead to a fault

On a text of fewer than 2 ^ 31 bytes no solver of the calendar faults, in whatever order and
however often its parts are called, and days 3, 5, 6 and 8 give an answer to every call of a part
that they have. Reading the text has no step that could fault: a byte that is refused is taken from
the position that the error names, and no line number leaves its word. Day 1 does fault on a text of
2 ^ 31 bytes.
-/
namespace Advent

namespace Coins

theorem solvePart_completes (hash : List UInt8 → List UInt8) (part : Nat) (prospect : Prospect) :
    (solvePart hash part prospect).Completes := by
  intro cause
  unfold solvePart
  split
  · simp [failedStep]
  · split
    · simp
    · split <;> simp [failedStep]

theorem solver_completesOn (input : String) : solver.CompletesOn input :=
  Dispatch.completesOn_of_family (fun _ _ => trivial) fun prospect part _ =>
    ⟨solvePart_completes Hash.Md5.digest part prospect, trivial⟩

end Coins

namespace Circuits

theorem solvePart_completes (part : Nat) (board : Board) : (solvePart part board).Completes := by
  intro cause
  unfold solvePart
  split
  · simp [failedStep]
  · split
    · simp [solvedStep]
    · split
      · split <;> simp [failedStep, solvedStep]
      · simp [failedStep]

theorem solver_completesOn (input : String) : solver.CompletesOn input :=
  Dispatch.completesOn_of_family (fun _ _ => trivial) fun board part _ =>
    ⟨solvePart_completes part board, trivial⟩

end Circuits

namespace Calendar

theorem plugins_completeOn {input : String} (short : input.utf8ByteSize < Word.size 31) :
    ∀ plugin ∈ plugins, plugin.solver.CompletesOn input := by
  simp only [plugins, List.forall_mem_cons, List.not_mem_nil, false_imp_iff, implies_true,
    and_true]
  exact ⟨Floors.solver_completesOn short, Presents.solver_completesOn input,
    Houses.solver_completesOn short, Coins.solver_completesOn input,
    NiceStrings.solver_completesOn input, Lights.solver_completesOn short,
    Circuits.solver_completesOn input, Literals.solver_completesOn short⟩

theorem plugins_answerOn {input : String} (short : input.utf8ByteSize < Word.size 31) :
    ∀ plugin ∈ plugins, plugin.day ∈ [3, 5, 6, 8] → plugin.solver.AnswersOn input := by
  simp only [plugins, List.forall_mem_cons, List.not_mem_nil, false_imp_iff, implies_true,
    and_true]
  refine ⟨?_, ?_, ?_, ?_, ?_, ?_, ?_, ?_⟩
  case refine_3 => exact fun _ => Houses.solver_answersOn short
  case refine_5 => exact fun _ => NiceStrings.solver_answersOn input
  case refine_6 => exact fun _ => Lights.solver_answersOn short
  case refine_8 => exact fun _ => Literals.solver_answersOn short
  all_goals exact fun listed => absurd listed (by decide)

/-- No call faults, whatever its part, and days that cannot fail give an answer to every call; nor
has reading a step that could fault. -/
theorem no_call_faults_on_short_input (input : String) (short : input.utf8ByteSize < 2 ^ 31) :
    (∀ plugin ∈ plugins, plugin.solver.CompletesOn input) ∧
    (∀ plugin ∈ plugins, plugin.day ∈ [3, 5, 6, 8] → plugin.solver.AnswersOn input) ∧
    (∀ stray, Floors.readMoves input.toList = .error stray ∨
        Houses.readDirections input.toList = .error stray →
      1 ≤ stray.position ∧ stray.position < 2 ^ 31 ∧
        (Text.bytes (Text.trim input.toList))[stray.position - 1]? = some stray.byte) ∧
    ∀ {α ε : Type} (read : List α → List Char → Except ε α) (error : Text.LineError ε),
      Text.readLinesAfter read input.toList = .error error → error.line ≤ 2 ^ 31 := by
  have size_eq : Word.size 31 = 2 ^ 31 := by decide
  refine ⟨plugins_completeOn (size_eq ▸ short), plugins_answerOn (size_eq ▸ short),
    fun stray refused => ?_, fun read error refused => ?_⟩
  · have found : 1 ≤ stray.position ∧
        (Text.bytes (Text.trim input.toList))[stray.position - 1]? = some stray.byte :=
      refused.elim Text.getElem?_of_readBytes_error Text.getElem?_of_readBytes_error
    obtain ⟨inside, _⟩ := List.getElem?_eq_some_iff.mp found.2
    -- Positions count bytes of the trimmed text, which is no longer than the text.
    have trimmed := Text.byteLength_trim_le input.toList
    rw [Text.byteLength_toList, Text.byteLength] at trimmed
    exact ⟨found.1, by omega, found.2⟩
  · obtain ⟨line, listed, same⟩ := Text.line_of_readNumbered_error refused
    have numbered := Text.number_le_of_mem_contentLines listed
    rw [Text.byteLength_toList] at numbered
    omega

/-- On one literal with an escape. -/
theorem no_call_faults_on_one_literal :
    "\"a\\x27\"\n".utf8ByteSize < 2 ^ 31 ∧
      ∃ literals, Literals.solver.parse "\"a\\x27\"\n" = .ok literals ∧
        (∀ parts, ∀ answer ∈ Literals.solver.partAnswers literals parts,
          ∀ cause, answer ≠ .error (.fault cause)) ∧
        ∀ answer ∈ Literals.solver.partAnswers literals [2, 1, 2], ∃ text, answer = .ok text := by
  have short : "\"a\\x27\"\n".utf8ByteSize < 2 ^ 31 := by decide
  have member : (⟨2015, 8, Literals.solver, ["2015", "strings"]⟩ : Plugin) ∈ plugins := by
    simp [plugins]
  obtain ⟨completes, answers, _⟩ := no_call_faults_on_short_input _ short
  exact ⟨short, _, rfl, completes _ member _ rfl,
    answers _ member (by decide) _ rfl [2, 1, 2] (by decide)⟩

/-- The bound is sharp. -/
theorem exists_fault_at_bound :
    ∃ input : String, input.utf8ByteSize = 2 ^ 31 ∧ ¬ Floors.solver.CompletesOn input := by
  have brackets (count : Nat) : Text.byteLength (List.replicate count '(') = count := by
    induction count with
    | zero => rfl
    | succ count ih =>
      rw [List.replicate_succ, Text.byteLength_cons, ih]
      exact Nat.add_comm 1 count
  refine ⟨String.ofList (List.replicate (2 ^ 31) '('), ?_, ?_⟩
  · rw [← Text.byteLength_toList, String.toList_ofList, brackets]
  · exact Floors.not_completesOn_replicate (by decide)

end Calendar

end Advent
