import Advent.Proofs.Puzzle.Circuit.Connections

/-!
# Writing circuits and reading them again

A listing of connections is laid out as a text with a line for each connection, blank lines anywhere
and blanks around what is written on a line. Reading the text gives the listing back if no wire is
listed twice. Otherwise the first line that drives a wire again is reported.
-/
namespace Advent.Circuits

/-! ### What is written -/

/-- A connection whose wires have names that can be written. -/
def Connection.WellNamed (connection : Connection) : Prop :=
  ∀ wire ∈ connection.wire :: connection.gate.wires, isWireName wire.toList = true

theorem writesOperand_written {operand : Operand}
    (named : ∀ wire ∈ operand.wires, isWireName wire.toList = true) :
    WritesOperand operand.written operand := by
  cases operand with
  | wire name => exact ⟨rfl, named name (by simp [Operand.wires])⟩
  | value signal => exact Text.isDecimal_toDigits signal.toNat

theorem WritesOperand.isWord {token : List Char} {operand : Operand}
    (writes : WritesOperand token operand) : Text.IsWord token := by
  cases operand with
  | wire name =>
    obtain ⟨filled, letters⟩ := (isWireName_iff token).mp writes.2
    exact ⟨filled, fun c member => Text.isBlank_of_isLower (letters c member)⟩
  | value signal =>
    have decimal : Text.IsDecimal token signal.toNat := writes
    exact ⟨decimal.not_empty, fun c member => Text.isBlank_of_isDigit (decimal.digits_only c member)⟩

/-- The words of an expression. -/
def Gate.tokens : Gate → List (List Char)
  | .assign input => [input.written]
  | .not input => ["NOT".toList, input.written]
  | .and left right => [left.written, "AND".toList, right.written]
  | .or left right => [left.written, "OR".toList, right.written]
  | .leftShift input amount => [input.written, "LSHIFT".toList, amount.written]
  | .rightShift input amount => [input.written, "RSHIFT".toList, amount.written]

theorem Gate.written_eq (gate : Gate) : gate.written = Text.unwords gate.tokens := by
  cases gate <;> simp [Gate.written, Gate.tokens, binaryWritten, Text.unwords]

theorem Gate.tokens_ne_nil (gate : Gate) : gate.tokens ≠ [] := by
  cases gate <;> exact List.cons_ne_nil _ _

section Named

variable {gate : Gate} (named : ∀ wire ∈ gate.wires, isWireName wire.toList = true)

include named

theorem writesGate_tokens : WritesGate gate.tokens gate := by
  have operands {left right : Operand}
      (names : ∀ wire ∈ left.wires ++ right.wires, isWireName wire.toList = true) :
      WritesOperand left.written left ∧ WritesOperand right.written right :=
    ⟨writesOperand_written fun wire member => names wire (List.mem_append_left _ member),
      writesOperand_written fun wire member => names wire (List.mem_append_right _ member)⟩
  cases gate with
  | assign input => exact ⟨_, rfl, writesOperand_written named⟩
  | not input => exact ⟨_, rfl, writesOperand_written named⟩
  | and left right => exact ⟨_, _, rfl, operands named⟩
  | or left right => exact ⟨_, _, rfl, operands named⟩
  | leftShift input amount => exact ⟨_, _, rfl, operands named⟩
  | rightShift input amount => exact ⟨_, _, rfl, operands named⟩

theorem isWord_of_mem_tokens : ∀ token ∈ gate.tokens, Text.IsWord token := by
  refine (writesGate_tokens named).forall_mem (fun _ _ => WritesOperand.isWord) ?_
  intro operator member
  have plain : operator.toList ≠ [] ∧ operator.toList.any Text.isBlank = false := by
    revert operator
    decide
  exact ⟨plain.1, by simpa using plain.2⟩

end Named

theorem Connection.WellNamed.writes {connection : Connection} (named : connection.WellNamed) :
    WritesConnection connection.written connection := by
  obtain ⟨name, names⟩ := List.forall_mem_cons.mp named
  have letters := ((isWireName_iff _).mp name).2
  refine ⟨connection.gate.written, connection.wire.toList, rfl, ?_, ?_, name⟩
  · rw [connection.gate.written_eq, Text.words_unwords (isWord_of_mem_tokens names)]
    exact writesGate_tokens names
  · exact Text.trim_of_not_blank fun c member => Text.isBlank_of_isLower (letters c member)

/-! ### Layout -/

/-- Blanks within a line. -/
def IsSpace (text : List Char) : Prop :=
  ∀ c ∈ text, Text.isBlank c = true ∧ c ≠ '\n'

/-- The connections of a listing on lines of their own, in order. -/
inductive LaidOut : List Connection → List (List Char) → Prop
  | nil : LaidOut [] []
  | blank {listing : List Connection} {lines : List (List Char)} {space : List Char} :
    IsSpace space → LaidOut listing lines → LaidOut listing (space :: lines)
  | line {connection : Connection} {listing : List Connection} {lines : List (List Char)}
    {left right : List Char} : IsSpace left → IsSpace right → LaidOut listing lines →
      LaidOut (connection :: listing) ((left ++ connection.written ++ right) :: lines)

/-- Lines as one text. -/
def joinLines (lines : List (List Char)) : String :=
  String.ofList (['\n'].intercalate lines)

theorem Connection.WellNamed.trim_written {connection : Connection} (named : connection.WellNamed)
    {left right : List Char} (space : IsSpace left) (space' : IsSpace right) :
    Text.trim (left ++ connection.written ++ right) = connection.written := by
  obtain ⟨name, names⟩ := List.forall_mem_cons.mp named
  obtain ⟨filled, letters⟩ := (isWireName_iff _).mp name
  refine Text.trim_of_blanks (fun c member => (space c member).1)
    (fun c member => (space' c member).1) ?_ ?_
  · obtain ⟨first, rest, whole, not_blank⟩ :=
      Text.exists_first_of_unwords (isWord_of_mem_tokens names) connection.gate.tokens_ne_nil
    intro c same
    rw [Connection.written, connection.gate.written_eq, whole] at same
    obtain rfl : first = c := Option.some.inj same
    exact not_blank
  · intro c same
    rw [Connection.written, List.getLast?_append_of_ne_nil _ filled] at same
    exact Text.isBlank_of_isLower (letters c (List.mem_of_getLast? same))

theorem Connection.WellNamed.no_feed {connection : Connection} (named : connection.WellNamed)
    {left right : List Char} (space : IsSpace left) (space' : IsSpace right) :
    '\n' ∉ left ++ connection.written ++ right := by
  obtain ⟨name, names⟩ := List.forall_mem_cons.mp named
  have letters := ((isWireName_iff _).mp name).2
  have gate : '\n' ∉ connection.gate.written := by
    rw [connection.gate.written_eq]
    exact fun feed => absurd
      (Text.eq_space_of_mem_unwords (isWord_of_mem_tokens names) feed (by decide)) (by decide)
  have plain : '\n' ∉ arrow := by decide
  have wire : '\n' ∉ connection.wire.toList := fun feed => absurd (letters _ feed) (by decide)
  simp only [Connection.written, List.mem_append, not_or]
  exact ⟨⟨fun feed => (space _ feed).2 rfl, ⟨gate, plain⟩, wire⟩, fun feed => (space' _ feed).2 rfl⟩

theorem LaidOut.contents_eq {listing : List Connection} {lines : List (List Char)}
    (layout : LaidOut listing lines) (named : ∀ connection ∈ listing, connection.WellNamed) :
    Text.contents lines = listing.map Connection.written := by
  induction layout with
  | nil => rfl
  | blank space _ ih =>
    rw [← ih named, Text.contents, Text.contents, List.map_cons,
      Text.trim_of_blank fun c member => (space c member).1]
    rfl
  | line space space' _ ih =>
    obtain ⟨first, others⟩ := List.forall_mem_cons.mp named
    have trimmed := first.trim_written space space'
    have filled : Text.trim _ ≠ [] := trimmed.trans_ne first.writes.not_empty
    rw [Text.contents_cons_of_not_blank filled, trimmed, ih others, List.map_cons]

theorem LaidOut.no_feed {listing : List Connection} {lines : List (List Char)}
    (layout : LaidOut listing lines) (named : ∀ connection ∈ listing, connection.WellNamed) :
    ∀ line ∈ lines, '\n' ∉ line := by
  induction layout with
  | nil => simp
  | blank space _ ih =>
    exact List.forall_mem_cons.mpr ⟨fun feed => (space _ feed).2 rfl, ih named⟩
  | line space space' _ ih =>
    obtain ⟨first, others⟩ := List.forall_mem_cons.mp named
    exact List.forall_mem_cons.mpr ⟨first.no_feed space space', ih others⟩

/-- A layout can be cut where the listing is cut after a connection. -/
theorem LaidOut.exists_cut {earlier later : List Connection} {again : Connection}
    {lines : List (List Char)} (layout : LaidOut (earlier ++ again :: later) lines) :
    ∃ before left right after, lines = before ++ (left ++ again.written ++ right) :: after ∧
      LaidOut earlier before ∧ IsSpace left ∧ IsSpace right := by
  -- The induction is on the layout; a blank line moves the cut, a written one may be the cut.
  generalize whole : earlier ++ again :: later = listing at layout
  induction layout generalizing earlier with
  | nil => simp at whole
  | @blank listing lines space blank _ ih =>
    obtain ⟨before, left, right, after, rfl, first, spaces⟩ := ih whole
    exact ⟨space :: before, left, right, after, rfl, .blank blank first, spaces⟩
  | @line connection listing lines left right space space' _ ih =>
    cases earlier with
    | nil =>
      obtain ⟨rfl, rfl⟩ := List.cons.inj whole
      exact ⟨[], left, right, lines, rfl, .nil, space, space'⟩
    | cons first others =>
      obtain ⟨rfl, rest_eq⟩ := List.cons.inj whole
      obtain ⟨before, left', right', after, rfl, start, spaces⟩ := ih rest_eq
      exact ⟨_ :: before, left', right', after, rfl, .line space space' start, spaces⟩

theorem splitOn_joinLines {lines : List (List Char)} (single : ∀ line ∈ lines, '\n' ∉ line)
    (filled : lines ≠ []) : (joinLines lines).toList.splitOn '\n' = lines := by
  rw [joinLines, String.toList_ofList, List.splitOn_intercalate '\n' single filled]

theorem contents_joinLines {lines : List (List Char)} (single : ∀ line ∈ lines, '\n' ∉ line) :
    Text.contents ((joinLines lines).toList.splitOn '\n') = Text.contents lines := by
  by_cases filled : lines = []
  · rw [filled]
    rfl
  · rw [splitOn_joinLines single filled]

/-! ### Repeated wires -/

theorem exists_first_repeat {listing : Circuit} (repeated : ¬ listing.WellFormed) :
    ∃ earlier again later, listing = earlier ++ again :: later ∧
      Circuit.WellFormed earlier ∧ again.wire ∈ Circuit.wires earlier := by
  -- If the listing without its last connection repeats a wire, so does the listing, earlier.
  induction listing using List.reverseRecOn with
  | nil => exact (repeated List.nodup_nil).elim
  | append_singleton earlier last ih =>
    by_cases distinct : Circuit.WellFormed earlier
    · by_cases driven : last.wire ∈ Circuit.wires earlier
      · exact ⟨earlier, last, [], rfl, distinct, driven⟩
      · refine (repeated ?_).elim
        unfold Circuit.WellFormed Circuit.wires at *
        rw [List.map_append, List.nodup_append_comm]
        exact List.nodup_cons.mpr ⟨driven, distinct⟩
    · obtain ⟨start, again, later, rfl, found⟩ := ih distinct
      exact ⟨start, again, later ++ [last], by simp, found⟩

theorem readConnection_of_driven {earlier : List Connection} {line : List Char}
    {connection : Connection} (writes : WritesConnection line connection)
    (driven : ∃ other ∈ earlier, other.wire = connection.wire) :
    readConnection earlier line = .error (.repeatedWire connection.wire.toList) := by
  obtain ⟨expression, rest, rfl, gate, wire, named⟩ := writes
  have used : (earlier.any fun other => other.wire = connection.wire) = true := by
    simpa using driven
  unfold readConnection
  simp only [splitOnce_arrow gate, wire, named, if_true, (readGate_eq_ok_iff ..).mpr gate,
    String.ofList_toList, used]

theorem gate?_of_perm {circuit listing : Circuit} (same : circuit.Perm listing)
    (wellFormed : listing.WellFormed) (wire : Wire) :
    circuit.gate? wire = listing.gate? wire := by
  have wellFormed' : circuit.WellFormed :=
    (same.map Connection.wire).nodup_iff.mpr wellFormed
  refine Option.ext fun gate => ?_
  rw [wellFormed'.gate?_eq_some_iff, wellFormed.gate?_eq_some_iff]
  exact same.mem_iff

/-! ### Reading what was written -/

/-- The first connection of a listing whose wire was driven before, with its line in a layout. -/
structure FirstRepeat (listing : List Connection) (lines : List (List Char))
    (earlier : List Connection) (again : Connection) (before : List (List Char)) : Prop where
  listed : ∃ later, listing = earlier ++ again :: later
  distinct : Circuit.WellFormed earlier
  driven : again.wire ∈ Circuit.wires earlier
  layout : LaidOut earlier before
  line : ∃ left right after, IsSpace left ∧ IsSpace right ∧
    lines = before ++ (left ++ again.written ++ right) :: after

theorem exists_firstRepeat {listing : Circuit} (repeated : ¬ listing.WellFormed)
    {lines : List (List Char)} (layout : LaidOut listing lines) :
    ∃ earlier again before, FirstRepeat listing lines earlier again before := by
  obtain ⟨earlier, again, later, rfl, distinct, driven⟩ := exists_first_repeat repeated
  obtain ⟨before, left, right, after, rfl, start, space, space'⟩ := layout.exists_cut
  exact ⟨earlier, again, before, ⟨later, rfl⟩, distinct, driven, start, left, right, after, space,
    space', rfl⟩

theorem forall₂_written {listing : List Connection}
    (named : ∀ connection ∈ listing, connection.WellNamed) :
    List.Forall₂ WritesConnection (listing.map Connection.written) listing := by
  rw [List.forall₂_map_left_iff, List.forall₂_same]
  exact fun connection member => (named connection member).writes

/-- A line that drives a wire again is refused, whatever follows. -/
theorem readNumbered_of_firstRepeat {listing : List Connection}
    (named : ∀ connection ∈ listing, connection.WellNamed) {lines : List (List Char)}
    {earlier : List Connection} {again : Connection} {before : List (List Char)}
    (first : FirstRepeat listing lines earlier again before) :
    Text.readNumbered readConnection [] (Text.contentFrom 1 lines) =
      .error ⟨before.length + 1, .repeatedWire again.wire.toList⟩ := by
  obtain ⟨later, rfl⟩ := first.listed
  obtain ⟨left, right, after, space, space', rfl⟩ := first.line
  have start_named : ∀ connection ∈ earlier, connection.WellNamed := fun connection member =>
    named connection (List.mem_append_left _ member)
  have again_named : again.WellNamed := named again (by simp)
  have read : Text.readNumbered readConnection [] (Text.contentFrom 1 before) = .ok earlier :=
    (readNumbered_eq_ok_iff before earlier).mpr
      ⟨first.layout.contents_eq start_named ▸ forall₂_written start_named, first.distinct⟩
  -- The lines before are read as the earlier connections, one of which drives the wire.
  obtain ⟨other, member, same⟩ := List.mem_map.mp first.driven
  have trimmed := again_named.trim_written space space'
  refine Text.readNumbered_stops read (trimmed.trans_ne again_named.writes.not_empty) ?_ after
  rw [trimmed]
  exact readConnection_of_driven again_named.writes ⟨other, List.mem_reverse.mpr member, same⟩

/-- A listing is read back from every layout, unless it drives a wire twice. -/
theorem written_listing_read_back {listing : Circuit}
    (named : ∀ connection ∈ listing, connection.WellNamed) {lines : List (List Char)}
    (layout : LaidOut listing lines) :
    (listing.WellFormed → parse (joinLines lines) = .ok ⟨listing, none⟩ ∧
        ∀ circuit : Circuit, circuit.Perm listing → ∀ wire,
          circuit.gate? wire = listing.gate? wire) ∧
      (¬ listing.WellFormed → ∃ earlier again before,
        FirstRepeat listing lines earlier again before ∧
          let reason := (ConnectionError.repeatedWire again.wire.toList).message
          parse (joinLines lines) =
            .error (.invalidFormat s!"(line {before.length + 1}) {reason}")) := by
  have single := layout.no_feed named
  constructor
  · intro wellFormed
    refine ⟨(parse_eq_ok_iff ..).mpr ⟨?_, wellFormed, rfl⟩, fun circuit same =>
      gate?_of_perm same wellFormed⟩
    rw [contents_joinLines single, layout.contents_eq named]
    exact forall₂_written named
  · intro repeated
    obtain ⟨earlier, again, before, first⟩ := exists_firstRepeat repeated layout
    refine ⟨earlier, again, before, first, ?_⟩
    have filled : lines ≠ [] := by
      obtain ⟨_, _, _, _, _, split⟩ := first.line
      simp [split]
    rw [parse_eq, splitOn_joinLines single filled, readNumbered_of_firstRepeat named first]
    rfl

/-- Two lines in a loose layout, and four lines of which the last drives a wire again. -/
theorem lines_read_back_and_repeat_refused :
    parse "\t7 AND x -> y\r\n \n123 -> x" =
        .ok ⟨[⟨"y", .and (.value 7) (.wire "x")⟩, ⟨"x", .assign (.value 123)⟩], none⟩ ∧
      parse "1 -> a\n\n2 -> b\n3 -> a" =
        .error (.invalidFormat "(line 4) wire \"a\" has more than one source") := by
  have tab : IsSpace ['\t'] := by simp [IsSpace, Text.isBlank]
  have space : IsSpace [' '] := by simp [IsSpace, Text.isBlank]
  have carriage : IsSpace ['\r'] := by simp [IsSpace, Text.isBlank]
  have none_there : IsSpace [] := by simp [IsSpace]
  constructor
  · have layout : LaidOut [⟨"y", .and (.value 7) (.wire "x")⟩, ⟨"x", .assign (.value 123)⟩] _ :=
      .line tab carriage (.blank space (.line none_there none_there .nil))
    have named : ∀ connection ∈ ([⟨"y", .and (.value 7) (.wire "x")⟩, ⟨"x", .assign (.value 123)⟩] :
        Circuit), connection.WellNamed := by
      simp [Connection.WellNamed, Gate.wires, Operand.wires, isWireName]
    exact ((written_listing_read_back named layout).1 (by decide)).1
  · have layout : LaidOut [⟨"a", .assign (.value 1)⟩, ⟨"b", .assign (.value 2)⟩,
        ⟨"a", .assign (.value 3)⟩] _ :=
      .line none_there none_there (.blank none_there
        (.line none_there none_there (.line none_there none_there .nil)))
    have named : ∀ connection ∈ ([⟨"a", .assign (.value 1)⟩, ⟨"b", .assign (.value 2)⟩,
        ⟨"a", .assign (.value 3)⟩] : Circuit), connection.WellNamed := by
      simp [Connection.WellNamed, Gate.wires, Operand.wires, isWireName]
    obtain ⟨earlier, again, before, first, refused⟩ :=
      (written_listing_read_back named layout).2 (by decide)
    obtain ⟨later, listed⟩ := first.listed
    have driven := first.driven
    -- Neither the first nor the second of the connections drives a wire again.
    rcases earlier with _ | ⟨one, _ | ⟨two, _ | ⟨three, more⟩⟩⟩
    · simp [Circuit.wires] at driven
    · simp only [List.cons_append, List.nil_append, List.cons.injEq] at listed
      obtain ⟨rfl, rfl, _⟩ := listed
      simp [Circuit.wires] at driven
    · simp only [List.cons_append, List.nil_append, List.cons.injEq] at listed
      obtain ⟨rfl, rfl, rfl, _⟩ := listed
      obtain ⟨left, right, after, _, _, split⟩ := first.line
      -- Of the four lines only the last has a three in it.
      have marked : '3' ∈ left ++ Connection.written ⟨"a", .assign (.value 3)⟩ ++ right :=
        List.mem_append_left _ (List.mem_append_right _ (by decide))
      have fourth : before.length = 3 := by
        rcases before with _ | ⟨_, _ | ⟨_, _ | ⟨_, _ | ⟨_, more⟩⟩⟩⟩
        all_goals simp only [List.cons_append, List.nil_append, List.cons.injEq] at split
        · exact absurd (split.1 ▸ marked) (by decide)
        · exact absurd (split.2.1 ▸ marked) (by decide)
        · exact absurd (split.2.2.1 ▸ marked) (by decide)
        · rfl
        · simp at split
      rw [fourth] at refused
      exact refused.trans (by decide +kernel)
    · simp at listed

end Advent.Circuits
