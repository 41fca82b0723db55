import Advent.Proofs.Solver.Faults
import Advent.Proofs.Text.Ascii
import Advent.Proofs.Text.Reading
import Advent.Puzzle.Floors

/-!
# Floors within a word

After so many moves the floor is at most that far from zero. A text has no more moves than bytes, so
no floor on the way leaves the word of 32 bits if the text is short enough. The bound is sharp: on
opening brackets alone the floor is as far from zero as it can be.
-/
namespace Advent.Floors

theorem Move.apply_of_near {floor : Int} {taken : Nat} (near : floor.natAbs ≤ taken)
    (short : taken + 1 < Word.size 31) (move : Move) :
    ∃ next, move.apply floor = some next ∧ next.natAbs ≤ taken + 1 := by
  have close : (floor + move.delta).natAbs ≤ taken + 1 := by
    cases move <;> simp only [Move.delta] <;> omega
  exact ⟨_, Word.signed32?_of_natAbs_lt (Nat.lt_of_le_of_lt close short), close⟩

theorem lastFloor_of_short {moves : List Move} (short : moves.length < Word.size 31) :
    ∃ floor, lastFloor moves = some floor ∧ floor.natAbs ≤ moves.length :=
  foldlM_of_steps (fun taken floor => Int.natAbs floor ≤ taken)
    (fun _ _ move _ near within => move.apply_of_near near (by omega)) (Nat.le_refl 0)

theorem entryFrom_of_near {moves : List Move} {floor : Int} {taken : Nat}
    (near : floor.natAbs ≤ taken) (short : taken + moves.length < Word.size 31) :
    entryFrom floor taken moves ≠ .error .overflow := by
  induction moves generalizing floor taken with
  | nil => simp [entryFrom]
  | cons move rest ih =>
    rw [List.length_cons] at short
    obtain ⟨next, moved, close⟩ := move.apply_of_near near (by omega)
    simp only [entryFrom, moved]
    -- The search ends at the basement and otherwise goes on with one move less to take.
    split
    · simp
    · exact ih close (by omega)

theorem answer_of_short {moves : List Move} (short : moves.length < Word.size 31) (part : Nat) :
    (Step.ofAnswer moves (answer moves part)).Completes := by
  intro cause
  unfold Step.ofAnswer answer
  split
  · obtain ⟨floor, last, _⟩ := lastFloor_of_short short
    simp [last, Word.orOverflow, Except.map]
  · have within : basementEntry moves ≠ .error .overflow :=
      entryFrom_of_near (Nat.le_refl 0) (by omega)
    -- Never to enter the basement is an error of its own and no fault.
    cases entered : basementEntry moves with
    | ok taken => simp [Except.mapError, Except.map]
    | error error =>
      cases error with
      | neverEntered => simp [Except.mapError, Except.map, BasementError.toSolveError]
      | overflow => exact absurd entered within

theorem length_le_of_parse {input : String} {moves : List Move} (read : parse input = .ok moves) :
    moves.length ≤ input.utf8ByteSize :=
  Text.length_le_of_readTrimmed (Text.of_mapError_eq_ok read)

theorem solver_completesOn {input : String} (short : input.utf8ByteSize < Word.size 31) :
    solver.CompletesOn input :=
  Dispatch.completesOn_of_stateless (fun _ _ => rfl) fun _ read =>
    answer_of_short (Nat.lt_of_le_of_lt (length_le_of_parse read) short)

/-! ### The bound is sharp -/

theorem foldlM_apply_up {floor : Int} {count : Nat} (inside : floor < Word.size 31)
    (nonneg : 0 ≤ floor) (past : Word.size 31 ≤ floor + count) :
    (List.replicate count Move.up).foldlM Move.apply floor = none := by
  induction count generalizing floor with
  | zero => omega
  | succ count ih =>
    rw [List.replicate_succ, List.foldlM_cons]
    by_cases next : floor + 1 < Word.size 31
    · have moved : Move.apply floor .up = some (floor + 1) :=
        Word.signed32?_of_natAbs_lt (show (floor + 1).natAbs < Word.size 31 by omega)
      rw [moved]
      exact ih next (by omega) (by omega)
    · have stuck : Move.apply floor .up = none := if_neg (by simp [Move.delta]; omega)
      rw [stuck]
      rfl

theorem parse_replicate (count : Nat) :
    parse (String.ofList (List.replicate count '(')) = .ok (List.replicate count .up) := by
  have each {Holds : Char → Prop} (opening : Holds '(') : ∀ c ∈ List.replicate count '(', Holds c :=
    fun c member => List.eq_of_mem_replicate member ▸ opening
  have filled : ∀ c ∈ List.replicate count '(', Text.isBlank c = false := each (by decide)
  have ascii : ∀ c ∈ List.replicate count '(', c.toNat ≤ 0x7f := each (by decide)
  have known : ∀ byte ∈ List.replicate count '('.toUInt8, Move.ofByte? byte = some .up := by
    intro byte member
    rw [List.eq_of_mem_replicate member]
    decide
  rw [parse, readMoves, String.toList_ofList, Text.trim_of_not_blank filled,
    Text.bytes_of_ascii ascii, List.map_replicate,
    Text.readBytes_of_forall (fun _ => Move.up) known, List.map_replicate]
  rfl

theorem not_completesOn_replicate {count : Nat} (past : Word.size 31 ≤ count) :
    ¬ solver.CompletesOn (String.ofList (List.replicate count '(')) := by
  intro completes
  have stuck : lastFloor (List.replicate count .up) = none :=
    foldlM_apply_up (by decide) (Int.le_refl 0) (by omega)
  have answered : (solver.solve (List.replicate count .up) 1).answer =
      .error (.fault .overflow) := by
    change (Word.orOverflow (lastFloor (List.replicate count .up))).map toString = _
    rw [stuck]
    rfl
  have reader : solver.parse = parse := rfl
  have read : solver.parse (String.ofList (List.replicate count '(')) =
      .ok (List.replicate count Move.up) := by
    rw [reader]
    exact parse_replicate count
  exact completes _ read [1] _ (by simp [Solver.partAnswers]) .overflow answered

end Advent.Floors
