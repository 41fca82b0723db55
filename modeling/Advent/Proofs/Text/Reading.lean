import Advent.Text.Bytes
import Advent.Text.Lines
import Mathlib.Algebra.BigOperators.Group.List.Basic
import Mathlib.Algebra.GroupWithZero.Nat
import Mathlib.Data.List.Forall2

/-!
# What readers take from a text

A reader of bytes gives one value for each byte, and a reader of lines one for each content line.
The content lines together are no longer than the text, and there are no more of them than bytes,
so whatever is bounded by the number or the length of the values is bounded by the length of the
text. The position or the line number in an error lies within the text as well.
-/
namespace Advent.Text

/-! ### Lengths in bytes -/

theorem byteLength_toList (text : String) : byteLength text.toList = text.utf8ByteSize := by
  rw [String.utf8ByteSize, ← String.utf8Encode_toList, List.utf8Encode, List.size_toByteArray]
  rfl

@[simp] theorem byteLength_nil : byteLength [] = 0 := rfl

@[simp] theorem byteLength_cons (c : Char) (rest : List Char) :
    byteLength (c :: rest) = c.utf8Size + byteLength rest := by
  simp [byteLength, bytes]

@[simp] theorem byteLength_append (first second : List Char) :
    byteLength (first ++ second) = byteLength first + byteLength second := by
  simp [byteLength, bytes_append]

theorem byteLength_le_of_sublist {part text : List Char} (sublist : part.Sublist text) :
    byteLength part ≤ byteLength text := by
  induction sublist with
  | slnil => exact Nat.le_refl _
  | cons c _ ih => exact Nat.le_trans ih (by simp)
  | cons_cons c _ ih => simpa using ih

theorem trim_sublist (text : List Char) : (trim text).Sublist text := by
  have start : (trimStart text).Sublist text := List.dropWhile_sublist isBlank
  have finish : (trim text).Sublist (trimStart text) := by
    simpa [trim, trimEnd] using
      (List.dropWhile_sublist isBlank (l := (trimStart text).reverse)).reverse
  exact finish.trans start

theorem byteLength_trim_le (text : List Char) : byteLength (trim text) ≤ byteLength text :=
  byteLength_le_of_sublist (trim_sublist text)

theorem trim_of_not_blank {text : List Char} (filled : ∀ c ∈ text, isBlank c = false) :
    trim text = text := by
  have kept (part : List Char) (inside : ∀ c ∈ part, isBlank c = false) :
      part.dropWhile isBlank = part := by
    cases part with
    | nil => rfl
    | cons c rest => rw [List.dropWhile_cons_of_neg (by simp [inside c List.mem_cons_self])]
  rw [trim, trimEnd, trimStart, kept text filled, kept text.reverse (by simpa using filled),
    List.reverse_reverse]

theorem length_le_byteLength (text : List Char) : text.length ≤ byteLength text := by
  induction text with
  | nil => exact Nat.le_refl 0
  | cons c rest ih =>
    have positive := c.utf8Size_pos
    rw [byteLength_cons, List.length_cons]
    omega

/-! ### Readers -/

/-- Wording the error does not change what was read. -/
theorem of_mapError_eq_ok {α ε ε' : Type} {word : ε → ε'} {read : Except ε α} {value : α}
    (done : read.mapError word = .ok value) : read = .ok value := by
  cases read with
  | ok other => exact congrArg _ (Except.ok.inj done)
  | error cause => cases done

theorem exists_of_forall₂ {α β : Type} {Reads : α → β → Prop} {items : List α} {values : List β}
    (pairs : List.Forall₂ Reads items values) :
    ∀ value ∈ values, ∃ item ∈ items, Reads item value := by
  induction pairs with
  | nil => simp
  | cons first _ ih =>
    refine List.forall_mem_cons.mpr ⟨⟨_, List.mem_cons_self, first⟩, fun value member => ?_⟩
    obtain ⟨item, listed, found⟩ := ih value member
    exact ⟨item, List.mem_cons_of_mem _ listed, found⟩

theorem forall₂_of_mapM {α β ε : Type} {read : α → Except ε β} {items : List α} {values : List β}
    (done : items.mapM read = .ok values) :
    List.Forall₂ (fun item value => read item = .ok value) items values := by
  induction items generalizing values with
  | nil =>
    cases done
    exact .nil
  | cons item rest ih =>
    rw [List.mapM_cons] at done
    cases first : read item with
    | error cause => simp [first, bind, Except.bind] at done
    | ok value =>
      cases later : rest.mapM read with
      | error cause => simp [first, later, bind, Except.bind] at done
      | ok others =>
        simp only [first, later, bind, Except.bind, pure, Except.pure, Except.ok.injEq] at done
        exact done ▸ .cons first (ih later)

theorem forall_of_mapM {α β ε : Type} {read : α → Except ε β} {Holds : β → Prop}
    (each : ∀ item value, read item = .ok value → Holds value) {items : List α} {values : List β}
    (done : items.mapM read = .ok values) : ∀ value ∈ values, Holds value := by
  intro value member
  obtain ⟨item, _, found⟩ := exists_of_forall₂ (forall₂_of_mapM done) value member
  exact each item value found

theorem error_of_mapM {α β ε : Type} {read : α → Except ε β} {items : List α} {cause : ε}
    (refused : items.mapM read = .error cause) : ∃ item ∈ items, read item = .error cause := by
  induction items with
  | nil => cases refused
  | cons item rest ih =>
    rw [List.mapM_cons] at refused
    cases first : read item with
    | error other =>
      obtain rfl : other = cause := by simpa [first, bind, Except.bind] using refused
      exact ⟨item, List.mem_cons_self, first⟩
    | ok value =>
      cases later : rest.mapM read with
      | ok others => simp [first, later, bind, Except.bind, pure, Except.pure] at refused
      | error other =>
        obtain rfl : other = cause := by simpa [first, later, bind, Except.bind] using refused
        obtain ⟨item, member, found⟩ := ih later
        exact ⟨item, List.mem_cons_of_mem _ member, found⟩

/-! ### Readers of bytes -/

section Bytes

variable {α : Type} {read : UInt8 → Option α} {input : List UInt8}

theorem readBytes_length {values : List α} (done : readBytes read input = .ok values) :
    values.length = input.length := by
  simpa using (forall₂_of_mapM done).length_eq.symm

theorem forall₂_of_readBytes {values : List α} (done : readBytes read input = .ok values) :
    List.Forall₂ (fun byte value => read byte = some value) input values := by
  have pairs := forall₂_of_mapM done
  rw [← List.zipIdx_map_fst 1 input, List.forall₂_map_left_iff]
  refine pairs.imp fun numbered value found => ?_
  cases known : read numbered.1 with
  | none => simp [known] at found
  | some other => simpa [known] using found

theorem readBytes_of_forall (value : UInt8 → α)
    (known : ∀ byte ∈ input, read byte = some (value byte)) :
    readBytes read input = .ok (input.map value) := by
  unfold readBytes
  generalize 1 = position
  induction input generalizing position with
  | nil => rfl
  | cons byte rest ih =>
    obtain ⟨first, others⟩ := List.forall_mem_cons.mp known
    rw [List.zipIdx_cons, List.mapM_cons, ih others]
    simp only [first]
    rfl

theorem length_le_of_readTrimmed {text : String} {values : List α}
    (done : readBytes read (bytes (trim text.toList)) = .ok values) :
    values.length ≤ text.utf8ByteSize := by
  rw [← byteLength_toList, readBytes_length done]
  exact byteLength_trim_le text.toList

/-- The byte that an error shows stands at the position that it names. -/
theorem getElem?_of_readBytes_error {stray : StrayByte}
    (refused : readBytes read input = .error stray) :
    1 ≤ stray.position ∧ input[stray.position - 1]? = some stray.byte := by
  obtain ⟨⟨byte, position⟩, member, found⟩ := error_of_mapM refused
  -- The numbers start at one, so the byte with a number stands at the index before it.
  obtain ⟨positive, below, here⟩ := List.mem_zipIdx member
  cases value : read byte with
  | some value => simp [value] at found
  | none =>
    simp only [value, Except.error.injEq] at found
    subst found
    refine ⟨positive, ?_⟩
    change input[position - 1]? = some byte
    rw [here]
    exact List.getElem?_eq_getElem _

end Bytes

/-! ### Readers of lines -/

-- The text is its pieces with line feeds between them, so lengths can be compared with it.
private theorem sum_byteLength_le_intercalate (lines : List (List Char)) :
    (lines.map byteLength).sum ≤ byteLength (['\n'].intercalate lines) := by
  induction lines with
  | nil => simp
  | cons line rest ih =>
    cases rest with
    | nil => simp
    | cons next rest =>
      rw [List.intercalate_cons_cons, List.map_cons, List.sum_cons]
      simp only [byteLength_append]
      omega

private theorem length_le_intercalate (lines : List (List Char)) :
    lines.length ≤ byteLength (['\n'].intercalate lines) + 1 := by
  induction lines with
  | nil => simp
  | cons line rest ih =>
    cases rest with
    | nil => simp
    | cons next rest =>
      have feed : 1 ≤ byteLength ['\n'] := by decide
      rw [List.intercalate_cons_cons, List.length_cons]
      simp only [byteLength_append]
      omega

/-- The content lines among lines that are numbered from a number on. -/
def contentFrom (number : Nat) : List (List Char) → List (Nat × List Char)
  | [] => []
  | line :: rest =>
    if (trim line).isEmpty then contentFrom (number + 1) rest
    else (number, trim line) :: contentFrom (number + 1) rest

theorem contentLines_eq_contentFrom (text : List Char) :
    contentLines text = contentFrom 1 (text.splitOn '\n') := by
  unfold contentLines
  generalize text.splitOn '\n' = lines
  -- The numbers start at one, and the rest of the lines is numbered from the next.
  generalize 1 = number
  induction lines generalizing number with
  | nil => rfl
  | cons line rest ih =>
    rw [List.zipIdx_cons, List.filterMap_cons, ih, contentFrom]
    by_cases blank : (trim line).isEmpty = true <;> simp [blank]

theorem of_mem_contentFrom {number : Nat} {lines : List (List Char)} {line : Nat × List Char}
    (member : line ∈ contentFrom number lines) :
    line.1 < number + lines.length ∧ 1 ≤ byteLength line.2 := by
  induction lines generalizing number with
  | nil => cases member
  | cons first rest ih =>
    rw [List.length_cons]
    unfold contentFrom at member
    split at member
    next =>
      obtain ⟨below, filled⟩ := ih member
      exact ⟨by omega, filled⟩
    next filled =>
      rcases List.mem_cons.mp member with rfl | later
      · have longer := length_le_byteLength (trim first)
        have not_blank := List.length_pos_iff.mpr (by simpa using filled)
        exact ⟨Nat.lt_add_of_pos_right (Nat.succ_pos _), Nat.le_trans not_blank longer⟩
      · obtain ⟨below, filled⟩ := ih later
        exact ⟨by omega, filled⟩

private theorem sum_contentFrom_le (number : Nat) (lines : List (List Char)) :
    ((contentFrom number lines).map fun line => byteLength line.2).sum ≤
      (lines.map byteLength).sum := by
  induction lines generalizing number with
  | nil => exact Nat.le_refl 0
  | cons line rest ih =>
    have tail := ih (number + 1)
    have trimmed := byteLength_trim_le line
    unfold contentFrom
    rw [List.map_cons, List.sum_cons]
    split
    · omega
    · rw [List.map_cons, List.sum_cons]
      simp only
      omega

theorem sum_byteLength_contentLines_le (text : List Char) :
    ((contentLines text).map fun line => byteLength line.2).sum ≤ byteLength text := by
  have pieces := sum_byteLength_le_intercalate (text.splitOn '\n')
  rw [List.intercalate_splitOn] at pieces
  rw [contentLines_eq_contentFrom]
  exact Nat.le_trans (sum_contentFrom_le 1 _) pieces

/-- The lines of a text are at most one more than its bytes, and so are their numbers. -/
theorem number_le_of_mem_contentLines {text : List Char} {line : Nat × List Char}
    (member : line ∈ contentLines text) : line.1 ≤ byteLength text + 1 := by
  rw [contentLines_eq_contentFrom] at member
  have numbered := (of_mem_contentFrom member).1
  have pieces := length_le_intercalate (text.splitOn '\n')
  rw [List.intercalate_splitOn] at pieces
  omega

theorem length_contentLines_le (text : List Char) :
    (contentLines text).length ≤ byteLength text := by
  refine Nat.le_trans ?_ (sum_byteLength_contentLines_le text)
  have filled : ∀ size ∈ (contentLines text).map fun line => byteLength line.2, 1 ≤ size := by
    intro size member
    obtain ⟨line, listed, rfl⟩ := List.mem_map.mp member
    exact (of_mem_contentFrom (contentLines_eq_contentFrom text ▸ listed)).2
  simpa using List.length_le_sum_of_one_le _ filled

section Lines

variable {α ε : Type} {text : List Char}

theorem forall₂_of_readNumbered {read : List α → List Char → Except ε α} {earlier : List α}
    {lines : List (Nat × List Char)} {values : List α}
    (done : readNumbered read earlier lines = .ok values) :
    ∃ later, values = earlier.reverse ++ later ∧
      List.Forall₂ (fun line value => ∃ before, read before line.2 = .ok value) lines later := by
  induction lines generalizing earlier with
  | nil =>
    cases done
    exact ⟨[], by simp, .nil⟩
  | cons line rest ih =>
    unfold readNumbered at done
    split at done
    -- What was read so far is kept the latest first, so the new value goes in front.
    next value first =>
      obtain ⟨later, rfl, others⟩ := ih done
      exact ⟨value :: later, by simp, .cons ⟨earlier, first⟩ others⟩
    next => cases done

/-- Every value is read from a content line of its own, in the order of the lines. -/
theorem forall₂_of_readLines {read : List Char → Except ε α} {values : List α}
    (done : readLines read text = .ok values) :
    List.Forall₂ (fun line value => read line.2 = .ok value) (contentLines text) values := by
  obtain ⟨later, rfl, pairs⟩ := forall₂_of_readNumbered done
  exact pairs.imp fun _ _ ⟨_, found⟩ => found

theorem forall_of_readLines {read : List Char → Except ε α} {Holds : α → Prop}
    (each : ∀ line value, read line = .ok value → Holds value) {values : List α}
    (done : readLines read text = .ok values) : ∀ value ∈ values, Holds value := by
  intro value member
  obtain ⟨line, _, found⟩ := exists_of_forall₂ (forall₂_of_readLines done) value member
  exact each line.2 value found

theorem line_of_readNumbered_error {read : List α → List Char → Except ε α} {earlier : List α}
    {lines : List (Nat × List Char)} {error : LineError ε}
    (refused : readNumbered read earlier lines = .error error) :
    ∃ line ∈ lines, line.1 = error.line := by
  induction lines generalizing earlier with
  | nil => cases refused
  | cons line rest ih =>
    unfold readNumbered at refused
    split at refused
    next =>
      obtain ⟨other, member, same⟩ := ih refused
      exact ⟨other, List.mem_cons_of_mem _ member, same⟩
    next =>
      cases refused
      exact ⟨line, List.mem_cons_self, rfl⟩

end Lines

end Advent.Text
