import Advent.Proofs.Puzzle.Circuit.Derivations
import Advent.Proofs.Text.BadLines
import Advent.Proofs.Text.Numerals
import Advent.Proofs.Text.Splitting
import Advent.Puzzle.Circuit.Solver
import Mathlib.Data.List.Nodup

/-!
# Lines that connect wires

A line connects a wire if it is an expression, the arrow and the name of the wire. The words of the
expression are operands, which are names or numbers of 16 bits, and at most one operator. No operand
and no operator has a dash in it, so the first arrow of such a line is the one after its expression.
The reader takes these lines, as long as no line before drives the same wire.
-/
namespace Advent.Circuits

/-! ### Operands -/

/-- A token that is a wire name or a signal in decimal. -/
def WritesOperand (token : List Char) : Operand → Prop
  | .wire name => token = name.toList ∧ isWireName token = true
  | .value signal => Text.IsDecimal token signal.toNat

theorem isWireName_iff (token : List Char) :
    isWireName token = true ↔ token ≠ [] ∧ ∀ c ∈ token, c.isLower = true := by
  simp [isWireName]

theorem readNat_of_digits {token : List Char} (digits : ∀ c ∈ token, c.isDigit = true)
    (value : Nat) : Text.readNat (Word.greatest 16) token = .ok value ↔
      Text.IsDecimal token value ∧ value ≤ Word.greatest 16 :=
  Text.readNat_eq_ok_iff_of_unsigned fun plus =>
    absurd (digits '+' (List.mem_of_head? plus)) (by decide)

theorem readOperand_eq_ok_iff (token : List Char) (operand : Operand) :
    readOperand token = .ok operand ↔ WritesOperand token operand := by
  have digits_iff : token.all Text.isAsciiDigit = true ↔ ∀ c ∈ token, c.isDigit = true := by
    simp only [List.all_eq_true, Text.isAsciiDigit_eq_isDigit]
  constructor
  · intro read
    unfold readOperand at read
    by_cases digits : token.all Text.isAsciiDigit = true
    · rw [if_pos digits] at read
      cases found : Text.readNat (Word.greatest 16) token with
      | error cause => simp [found] at read
      | ok value =>
        obtain ⟨decimal, below⟩ := (readNat_of_digits (digits_iff.mp digits) value).mp found
        have small : value < 2 ^ 16 := Nat.lt_of_le_of_lt below (by decide)
        obtain rfl : .value (UInt16.ofNat value) = operand := by simpa [found] using read
        change Text.IsDecimal token (UInt16.ofNat value).toNat
        rw [UInt16.toNat_ofNat_of_lt' small]
        exact decimal
    · rw [if_neg digits] at read
      have filled : token ≠ [] := by
        rintro rfl
        exact digits rfl
      split at read
      next lower =>
        obtain rfl : .wire (String.ofList token) = operand := Except.ok.inj read
        exact ⟨String.toList_ofList.symm,
          (isWireName_iff token).mpr ⟨filled, List.all_eq_true.mp lower⟩⟩
      · cases read
  · intro writes
    unfold readOperand
    cases operand with
    | wire name =>
      obtain ⟨rfl, named⟩ := writes
      obtain ⟨filled, lower⟩ := (isWireName_iff _).mp named
      have not_digits : ¬ name.toList.all Text.isAsciiDigit = true := by
        -- The first letter of the name is no digit.
        intro digits
        obtain ⟨c, rest, whole⟩ := List.exists_cons_of_ne_nil filled
        have member : c ∈ name.toList := whole ▸ List.mem_cons_self
        have digit := digits_iff.mp digits c member
        rw [Text.isDigit_of_isLower (lower c member)] at digit
        cases digit
      rw [if_neg not_digits, if_pos (List.all_eq_true.mpr lower), String.ofList_toList]
    | value signal =>
      have digits := Text.IsDecimal.digits_only writes
      have below : signal.toNat ≤ Word.greatest 16 := Nat.le_of_lt_succ signal.toNat_lt
      rw [if_pos (digits_iff.mpr digits), (readNat_of_digits digits _).mpr ⟨writes, below⟩]
      simp

/-! ### Gates -/

/-- Words that are two operands with an operator between them. -/
def WritesBinary (operator : String) (tokens : List (List Char)) (left right : Operand) : Prop :=
  ∃ first second, tokens = [first, operator.toList, second] ∧ WritesOperand first left ∧
    WritesOperand second right

/-- Words that are the expression of a gate. -/
def WritesGate (tokens : List (List Char)) : Gate → Prop
  | .assign input => ∃ token, tokens = [token] ∧ WritesOperand token input
  | .not input => ∃ token, tokens = ["NOT".toList, token] ∧ WritesOperand token input
  | .and left right => WritesBinary "AND" tokens left right
  | .or left right => WritesBinary "OR" tokens left right
  | .leftShift input amount => WritesBinary "LSHIFT" tokens input amount
  | .rightShift input amount => WritesBinary "RSHIFT" tokens input amount

theorem writesGate_of_binaryGate? {first operator second : List Char} {left right : Operand}
    (writes : WritesOperand first left) (writes' : WritesOperand second right) {gate : Gate}
    (found : binaryGate? operator left right = some gate) :
    WritesGate [first, operator, second] gate := by
  unfold binaryGate? at found
  split at found
  next same => cases found; exact ⟨first, second, by rw [same], writes, writes'⟩
  split at found
  next same => cases found; exact ⟨first, second, by rw [same], writes, writes'⟩
  split at found
  next same => cases found; exact ⟨first, second, by rw [same], writes, writes'⟩
  split at found
  next same => cases found; exact ⟨first, second, by rw [same], writes, writes'⟩
  cases found

theorem readGate_of_binary {operator : String} {expression : List Char} {left right : Operand}
    (writes : WritesBinary operator (Text.words expression) left right) {gate : Gate}
    (known : binaryGate? operator.toList left right = some gate) :
    readGate expression = .ok gate := by
  obtain ⟨first, second, tokens, written, written'⟩ := writes
  unfold readGate
  rw [tokens]
  simp only [(readOperand_eq_ok_iff ..).mpr written, (readOperand_eq_ok_iff ..).mpr written', known,
    bind, Except.bind]
  rfl

theorem readGate_eq_ok_iff (expression : List Char) (gate : Gate) :
    readGate expression = .ok gate ↔ WritesGate (Text.words expression) gate := by
  constructor
  · intro read
    unfold readGate at read
    split at read
    next input tokens =>
      cases found : readOperand input with
      | error cause => simp [found, Except.map] at read
      | ok operand =>
        obtain rfl : .assign operand = gate := by simpa [found, Except.map] using read
        exact ⟨input, tokens, (readOperand_eq_ok_iff ..).mp found⟩
    next first second tokens =>
      split at read
      next negation =>
        cases found : readOperand second with
        | error cause => simp [found, Except.map] at read
        | ok operand =>
          obtain rfl : .not operand = gate := by simpa [found, Except.map] using read
          exact ⟨second, by rw [tokens, negation], (readOperand_eq_ok_iff ..).mp found⟩
      · cases read
    next left operator right tokens =>
      cases found : readOperand left with
      | error cause => simp [found, bind, Except.bind] at read
      | ok first =>
        cases found' : readOperand right with
        | error cause => simp [found, found', bind, Except.bind] at read
        | ok second =>
          simp only [found, found', bind, Except.bind] at read
          split at read
          next other known =>
            obtain rfl : other = gate := Except.ok.inj read
            rw [tokens]
            exact writesGate_of_binaryGate? ((readOperand_eq_ok_iff ..).mp found)
              ((readOperand_eq_ok_iff ..).mp found') known
          · cases read
    · cases read
  · intro writes
    cases gate with
    | assign input =>
      obtain ⟨token, tokens, written⟩ := writes
      unfold readGate
      simp only [tokens, (readOperand_eq_ok_iff ..).mpr written]
      rfl
    | not input =>
      obtain ⟨token, tokens, written⟩ := writes
      unfold readGate
      simp only [tokens, if_pos, (readOperand_eq_ok_iff ..).mpr written]
      rfl
    | and left right => exact readGate_of_binary writes rfl
    | or left right => exact readGate_of_binary writes rfl
    | leftShift input amount => exact readGate_of_binary writes rfl
    | rightShift input amount => exact readGate_of_binary writes rfl

/-- What holds of operands and of operators holds of all words of an expression. -/
theorem WritesGate.forall_mem {Holds : List Char → Prop}
    (operands : ∀ token operand, WritesOperand token operand → Holds token)
    (operators : ∀ operator ∈ ["NOT", "AND", "OR", "LSHIFT", "RSHIFT"], Holds operator.toList)
    {tokens : List (List Char)} {gate : Gate} (writes : WritesGate tokens gate) :
    ∀ token ∈ tokens, Holds token := by
  have binary {operator : String} (known : Holds operator.toList) {left right : Operand}
      (written : WritesBinary operator tokens left right) : ∀ token ∈ tokens, Holds token := by
    obtain ⟨first, second, rfl, writes, writes'⟩ := written
    simp only [List.forall_mem_cons, List.not_mem_nil, false_implies, implies_true, and_true]
    exact ⟨operands _ _ writes, known, operands _ _ writes'⟩
  cases gate with
  | assign input =>
    obtain ⟨token, rfl, written⟩ := writes
    simpa using operands _ _ written
  | not input =>
    obtain ⟨token, rfl, written⟩ := writes
    simp only [List.forall_mem_cons, List.not_mem_nil, false_implies, implies_true, and_true]
    exact ⟨operators _ (by simp), operands _ _ written⟩
  | and left right => exact binary (operators _ (by simp)) writes
  | or left right => exact binary (operators _ (by simp)) writes
  | leftShift input amount => exact binary (operators _ (by simp)) writes
  | rightShift input amount => exact binary (operators _ (by simp)) writes

/-! ### Connections -/

/-- A line that connects a wire. -/
def WritesConnection (line : List Char) (connection : Connection) : Prop :=
  ∃ expression rest, line = expression ++ arrow ++ rest ∧
    WritesGate (Text.words expression) connection.gate ∧
      Text.trim rest = connection.wire.toList ∧ isWireName connection.wire.toList = true

theorem WritesOperand.no_dash {token : List Char} {operand : Operand}
    (writes : WritesOperand token operand) : '-' ∉ token := by
  intro dash
  cases operand with
  | wire name => exact absurd (((isWireName_iff _).mp writes.2).2 '-' dash) (by decide)
  | value signal => exact absurd (Text.IsDecimal.digits_only writes '-' dash) (by decide)

theorem splitOnce_arrow {expression : List Char} {gate : Gate}
    (writes : WritesGate (Text.words expression) gate) (rest : List Char) :
    Text.splitOnce arrow (expression ++ arrow ++ rest) = some (expression, rest) := by
  -- The arrow cannot begin within the expression, whose words have no dash.
  have dash : '-' ∈ arrow := by decide
  refine Text.splitOnce_of_notMem dash (fun member => ?_) rest
  obtain ⟨word, listed, inside⟩ := Text.exists_word_of_mem member (by decide)
  exact writes.forall_mem (fun _ _ => WritesOperand.no_dash) (by decide) word listed inside

theorem readConnection_eq_ok_iff (earlier : List Connection) (line : List Char)
    (connection : Connection) :
    readConnection earlier line = .ok connection ↔
      WritesConnection line connection ∧
        ∀ other ∈ earlier, other.wire ≠ connection.wire := by
  constructor
  · intro read
    unfold readConnection at read
    cases split : Text.splitOnce arrow line with
    | none => simp [split] at read
    | some pieces =>
      obtain ⟨expression, rest⟩ := pieces
      simp only [split] at read
      split at read
      next named =>
        cases found : readGate expression with
        | error cause => simp [found] at read
        | ok gate =>
          simp only [found] at read
          split at read
          · cases read
          next fresh =>
            obtain rfl := Except.ok.inj read
            have wire : (String.ofList (Text.trim rest)).toList = Text.trim rest :=
              String.toList_ofList
            refine ⟨⟨expression, rest, Text.splitOnce_append _ _ _ _ split,
              (readGate_eq_ok_iff ..).mp found, wire.symm, wire.symm ▸ named⟩, ?_⟩
            simpa using fresh
      · cases read
  · rintro ⟨⟨expression, rest, rfl, writes, wire, named⟩, fresh⟩
    have unused : ¬ (earlier.any fun other => other.wire = connection.wire) = true := by
      simpa using fresh
    unfold readConnection
    simp only [splitOnce_arrow writes, wire, named, if_true, (readGate_eq_ok_iff ..).mpr writes,
      String.ofList_toList, if_neg unused]

theorem WritesConnection.unique {line : List Char} {first second : Connection}
    (writes : WritesConnection line first) (writes' : WritesConnection line second) :
    first = second := by
  have read := (readConnection_eq_ok_iff [] line first).mpr ⟨writes, by simp⟩
  have read' := (readConnection_eq_ok_iff [] line second).mpr ⟨writes', by simp⟩
  exact Except.ok.inj (read.symm.trans read')

theorem WritesConnection.not_empty {line : List Char} {connection : Connection}
    (writes : WritesConnection line connection) : line ≠ [] := by
  obtain ⟨expression, rest, rfl, _⟩ := writes
  simp [arrow]

/-! ### Circuits -/

/-- A line that drives a wire. -/
def Drives (line : List Char) (wire : Wire) : Prop :=
  ∃ gate, WritesConnection line ⟨wire, gate⟩

/-- A line may follow lines if it drives a wire that none of them drives. -/
def MayFollow (before : List (List Char)) (line : List Char) : Prop :=
  ∃ wire, Drives line wire ∧ ∀ earlier ∈ Text.contents before, ¬ Drives earlier wire

theorem pairs_of_readNumbered {lines : List (List Char)} {circuit : Circuit}
    (done : Text.readNumbered readConnection [] (Text.contentFrom 1 lines) = .ok circuit) :
    List.Forall₂ WritesConnection (Text.contents lines) circuit :=
  Text.forall₂_contents
    (fun _ line connection read => ((readConnection_eq_ok_iff _ line connection).mp read).1) done

theorem readConnection_judges : Text.Judges readConnection MayFollow := by
  intro before values line done
  have pairs := pairs_of_readNumbered done
  constructor
  · rintro ⟨connection, read⟩
    obtain ⟨writes, fresh⟩ := (readConnection_eq_ok_iff ..).mp read
    refine ⟨connection.wire, ⟨connection.gate, writes⟩, ?_⟩
    rintro earlier listed ⟨gate, driven⟩
    obtain ⟨other, member, written⟩ := Text.exists_of_forall₂ pairs.flip earlier listed
    obtain rfl := WritesConnection.unique written driven
    exact fresh _ (List.mem_reverse.mpr member) rfl
  · rintro ⟨wire, ⟨gate, writes⟩, fresh⟩
    refine ⟨⟨wire, gate⟩, (readConnection_eq_ok_iff ..).mpr ⟨writes, ?_⟩⟩
    rintro ⟨_, gate'⟩ member rfl
    obtain ⟨earlier, listed, written⟩ :=
      Text.exists_of_forall₂ pairs _ (List.mem_reverse.mp member)
    exact fresh earlier listed ⟨gate', written⟩

theorem wellFormed_of_readNumbered {earlier circuit : List Connection}
    {lines : List (Nat × List Char)} (distinct : (earlier.map Connection.wire).Nodup)
    (done : Text.readNumbered readConnection earlier lines = .ok circuit) :
    Circuit.WellFormed circuit := by
  induction lines generalizing earlier with
  | nil =>
    cases done
    unfold Circuit.WellFormed Circuit.wires
    rwa [List.map_reverse, List.nodup_reverse]
  | cons line rest ih =>
    unfold Text.readNumbered at done
    split at done
    next connection read =>
      obtain ⟨_, fresh⟩ := (readConnection_eq_ok_iff ..).mp read
      have next : ((connection :: earlier).map Connection.wire).Nodup := by
        refine List.nodup_cons.mpr ⟨fun member => ?_, distinct⟩
        obtain ⟨other, listed, same⟩ := List.mem_map.mp member
        exact fresh other listed same
      exact ih next done
    · cases done

theorem allAllowed_of_wellFormed {lines : List (List Char)} {circuit : Circuit}
    (pairs : List.Forall₂ WritesConnection (Text.contents lines) circuit)
    (wellFormed : circuit.WellFormed) : Text.AllAllowed MayFollow lines := by
  rintro before line after rfl filled
  rw [Text.contents_append, Text.contents_cons_of_not_blank filled] at pairs
  obtain ⟨early, late, rfl, first, second⟩ := Text.exists_append_of_forall₂ pairs
  obtain ⟨connection, later, writes, _, rfl⟩ := List.forall₂_cons_left_iff.mp second
  refine ⟨connection.wire, ⟨connection.gate, writes⟩, ?_⟩
  rintro earlier listed ⟨gate, driven⟩
  obtain ⟨other, member, written⟩ := Text.exists_of_forall₂ first.flip earlier listed
  obtain rfl := WritesConnection.unique written driven
  -- Two connections of one wire would stand on both sides of the cut.
  unfold Circuit.WellFormed Circuit.wires at wellFormed
  rw [List.map_append, List.nodup_append] at wellFormed
  exact wellFormed.2.2 _ (List.mem_map_of_mem member) _ (by simp) rfl

/-- Lines are read as a circuit if and only if they write its connections, one each and in order. -/
theorem readNumbered_eq_ok_iff (lines : List (List Char)) (circuit : Circuit) :
    Text.readNumbered readConnection [] (Text.contentFrom 1 lines) = .ok circuit ↔
      List.Forall₂ WritesConnection (Text.contents lines) circuit ∧ circuit.WellFormed := by
  have none_before : (([] : List Connection).map Connection.wire).Nodup := List.nodup_nil
  constructor
  · intro done
    exact ⟨pairs_of_readNumbered done, wellFormed_of_readNumbered none_before done⟩
  · rintro ⟨pairs, wellFormed⟩
    obtain ⟨other, done⟩ := (Text.exists_ok_iff readConnection_judges lines).mpr
      (allAllowed_of_wellFormed pairs wellFormed)
    have unique : Relator.RightUnique WritesConnection := fun _ _ _ => WritesConnection.unique
    rw [done, List.right_unique_forall₂' unique (pairs_of_readNumbered done) pairs]

theorem parse_eq (input : String) :
    parse input =
      ((Text.readNumbered readConnection []
        (Text.contentFrom 1 (input.toList.splitOn '\n'))).map fun circuit =>
          (⟨circuit, none⟩ : Board)).mapError fun error =>
            .invalidFormat (error.message ConnectionError.message) := by
  rw [← Text.contentLines_eq_contentFrom]
  unfold parse readCircuit Text.readLinesAfter
  cases Text.readNumbered readConnection [] (Text.contentLines input.toList) <;> rfl

theorem parse_reportsFirstBad : Text.ReportsFirstBad parse MayFollow := by
  refine Text.reportsFirstBad_of_judges readConnection_judges (fun circuit => ⟨circuit, none⟩)
    ConnectionError.message fun input => ?_
  rw [parse_eq, Text.readLinesAfter, Text.contentLines_eq_contentFrom]

/-- The circuit that is read has one connection for each line that is not blank. -/
theorem parse_eq_ok_iff (input : String) (board : Board) :
    parse input = .ok board ↔
      List.Forall₂ WritesConnection (Text.contents (input.toList.splitOn '\n')) board.circuit ∧
        board.circuit.WellFormed ∧ board.signalOfA = none := by
  obtain ⟨circuit, signal⟩ := board
  rw [parse_eq, ← and_assoc, ← readNumbered_eq_ok_iff]
  cases Text.readNumbered readConnection []
      (Text.contentFrom 1 (input.toList.splitOn '\n')) with
  | ok other => simp [Except.map, Except.mapError, eq_comm]
  | error error => simp [Except.map, Except.mapError]

/-- The wires of the circuit that is read are those that the lines drive. -/
theorem mem_wires_of_parse {input : String} {board : Board} (done : parse input = .ok board)
    (wire : Wire) : wire ∈ board.circuit.wires ↔
      ∃ line ∈ Text.contents (input.toList.splitOn '\n'), Drives line wire := by
  obtain ⟨pairs, _⟩ := (parse_eq_ok_iff ..).mp done
  constructor
  · intro driven
    obtain ⟨connection, present, rfl⟩ := List.mem_map.mp driven
    obtain ⟨line, listed, writes⟩ := Text.exists_of_forall₂ pairs connection present
    exact ⟨line, listed, connection.gate, writes⟩
  · rintro ⟨line, listed, gate, writes⟩
    obtain ⟨connection, member, written⟩ := Text.exists_of_forall₂ pairs.flip line listed
    obtain rfl := WritesConnection.unique written writes
    exact Circuit.mem_wires member

/-- As a map, the circuit that is read has the gates that the lines write. -/
theorem gate?_of_parse {input : String} {board : Board} (done : parse input = .ok board)
    (wire : Wire) (gate : Gate) :
    board.circuit.gate? wire = some gate ↔
      ∃ line ∈ Text.contents (input.toList.splitOn '\n'), WritesConnection line ⟨wire, gate⟩ := by
  obtain ⟨pairs, wellFormed, _⟩ := (parse_eq_ok_iff ..).mp done
  rw [wellFormed.gate?_eq_some_iff]
  constructor
  · exact Text.exists_of_forall₂ pairs ⟨wire, gate⟩
  · rintro ⟨line, listed, writes⟩
    obtain ⟨connection, member, written⟩ := Text.exists_of_forall₂ pairs.flip line listed
    obtain rfl := WritesConnection.unique written writes
    exact member

end Advent.Circuits
