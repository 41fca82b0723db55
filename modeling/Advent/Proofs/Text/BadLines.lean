import Advent.Proofs.Text.Reading
import Advent.Solver.Error
import Mathlib.Data.List.Induction
import Mathlib.Data.List.Perm.Basic

/-!
# The first bad line

Whether a line is well formed may depend on the lines before it. A reader of lines that takes exactly
the well formed ones succeeds on a text if and only if every line that is not blank is well formed.
Otherwise it reports the first line that is not, by its number among all lines, and does not look at
the lines after it.
-/
namespace Advent.Text

/-- The lines that are not blank, trimmed. -/
def contents (lines : List (List Char)) : List (List Char) :=
  (lines.map trim).filter fun line => !line.isEmpty

theorem map_snd_contentFrom (number : Nat) (lines : List (List Char)) :
    (contentFrom number lines).map Prod.snd = contents lines := by
  induction lines generalizing number with
  | nil => rfl
  | cons line rest ih =>
    unfold contentFrom
    by_cases blank : (trim line).isEmpty = true
    · rw [if_pos blank, ih, contents, contents, List.map_cons,
        List.filter_cons_of_neg (by simp [blank])]
    · rw [if_neg blank, List.map_cons, ih, contents, contents, List.map_cons,
        List.filter_cons_of_pos (by simpa using blank)]

theorem contents_append (before after : List (List Char)) :
    contents (before ++ after) = contents before ++ contents after := by
  rw [contents, List.map_append, List.filter_append]
  rfl

theorem contents_cons_of_not_blank {line : List Char} (filled : trim line ≠ [])
    (rest : List (List Char)) : contents (line :: rest) = trim line :: contents rest := by
  rw [contents, List.map_cons, List.filter_cons_of_pos (by simpa using filled)]
  rfl

theorem contentFrom_append (number : Nat) (before after : List (List Char)) :
    contentFrom number (before ++ after) =
      contentFrom number before ++ contentFrom (number + before.length) after := by
  induction before generalizing number with
  | nil => rfl
  | cons line rest ih =>
    have next : number + 1 + rest.length = number + (rest.length + 1) := by omega
    simp only [List.cons_append, contentFrom, ih, List.length_cons, next]
    split <;> rfl

/-! ### Lines in order -/

section Order

variable {Allowed : List (List Char) → List Char → Prop}

/-- Every line that is not blank is allowed after the lines before it. -/
def AllAllowed (Allowed : List (List Char) → List Char → Prop) (lines : List (List Char)) : Prop :=
  ∀ before line after, lines = before ++ line :: after → trim line ≠ [] →
    Allowed before (trim line)

/-- A line that is not allowed after lines that are. -/
structure FirstBad (Allowed : List (List Char) → List Char → Prop) (before : List (List Char))
    (line : List Char) : Prop where
  all_allowed : AllAllowed Allowed before
  not_blank : trim line ≠ []
  not_allowed : ¬ Allowed before (trim line)

theorem allAllowed_concat (before : List (List Char)) (line : List Char) :
    AllAllowed Allowed (before ++ [line]) ↔
      AllAllowed Allowed before ∧ (trim line ≠ [] → Allowed before (trim line)) := by
  constructor
  · intro all
    refine ⟨fun earlier other between split => ?_, all before line [] rfl⟩
    exact all earlier other (between ++ [line]) (by rw [split]; simp)
  · -- A line of the longer text is its last line, or a line of the shorter one.
    rintro ⟨all, last⟩ earlier other after split
    rcases List.eq_nil_or_concat after with rfl | ⟨between, final, rfl⟩
    · obtain ⟨rfl, same⟩ := List.append_inj' split rfl
      obtain rfl := (List.cons.inj same).1
      exact last
    · rw [List.concat_eq_append, ← List.cons_append, ← List.append_assoc] at split
      exact all earlier other between (List.append_inj' split rfl).1

/-- Lines that are not all allowed have a first one that is not. -/
theorem exists_firstBad {lines : List (List Char)} (bad : ¬ AllAllowed Allowed lines) :
    ∃ before line after, lines = before ++ line :: after ∧ FirstBad Allowed before line := by
  induction lines using List.reverseRecOn with
  | nil => exact (bad fun before line after split => by simp at split).elim
  | append_singleton before line ih =>
    by_cases earlier : AllAllowed Allowed before
    · rw [allAllowed_concat] at bad
      have last : ¬ (trim line ≠ [] → Allowed before (trim line)) := fun allowed =>
        bad ⟨earlier, allowed⟩
      obtain ⟨filled, refused⟩ := Classical.not_imp.mp last
      exact ⟨before, line, [], rfl, earlier, filled, refused⟩
    · obtain ⟨start, first, between, split, firstBad⟩ := ih earlier
      exact ⟨start, first, between ++ [line], by rw [split]; simp, firstBad⟩

end Order

/-! ### Reading in order -/

section Reading

variable {α ε : Type} {read : List α → List Char → Except ε α}
  {Allowed : List (List Char) → List Char → Prop}

/-- Reading on from where reading stopped. -/
theorem readNumbered_append (earlier : List α) (first second : List (Nat × List Char)) :
    readNumbered read earlier (first ++ second) =
      (readNumbered read earlier first).bind fun values =>
        readNumbered read values.reverse second := by
  induction first generalizing earlier with
  | nil =>
    simp only [List.nil_append, readNumbered, Except.bind, List.reverse_reverse]
  | cons line rest ih =>
    obtain ⟨number, text⟩ := line
    simp only [List.cons_append, readNumbered]
    cases read earlier text with
    | ok value => exact ih (value :: earlier)
    | error cause => rfl

/-- A reader takes the lines that are allowed after those that it has read, and no others. -/
def Judges (read : List α → List Char → Except ε α)
    (Allowed : List (List Char) → List Char → Prop) : Prop :=
  ∀ before values line, readNumbered read [] (contentFrom 1 before) = .ok values →
    ((∃ value, read values.reverse line = .ok value) ↔ Allowed before line)

theorem exists_ok_iff (judges : Judges read Allowed) (lines : List (List Char)) :
    (∃ values, readNumbered read [] (contentFrom 1 lines) = .ok values) ↔
      AllAllowed Allowed lines := by
  -- A line is judged by what was read before it, so the induction adds lines at the end.
  induction lines using List.reverseRecOn with
  | nil =>
    refine ⟨fun _ before line after split => ?_, fun _ => ⟨[], rfl⟩⟩
    simp at split
  | append_singleton before line ih =>
    rw [allAllowed_concat, ← ih, contentFrom_append, readNumbered_append]
    cases done : readNumbered read [] (contentFrom 1 before) with
    | error error => simp [Except.bind]
    | ok values =>
      have next := judges before values (trim line) done
      by_cases blank : trim line = []
      · simp [Except.bind, contentFrom, readNumbered, blank]
      · rw [← next]
        cases last : read values.reverse (trim line) with
        | ok value => simp [Except.bind, contentFrom, readNumbered, blank, last]
        | error cause => simp [Except.bind, contentFrom, readNumbered, blank, last]

theorem readNumbered_stops {before : List (List Char)} {values : List α} {line : List Char}
    {cause : ε} (done : readNumbered read [] (contentFrom 1 before) = .ok values)
    (filled : trim line ≠ []) (refused : read values.reverse (trim line) = .error cause)
    (after : List (List Char)) :
    readNumbered read [] (contentFrom 1 (before ++ line :: after)) =
      .error ⟨before.length + 1, cause⟩ := by
  have not_empty : (trim line).isEmpty = false := by simpa using filled
  rw [contentFrom_append, readNumbered_append, done]
  simp [Except.bind, contentFrom, readNumbered, not_empty, refused, Nat.add_comm]

theorem exists_error_of_firstBad (judges : Judges read Allowed) {before : List (List Char)}
    {line : List Char} (firstBad : FirstBad Allowed before line) :
    ∃ cause, ∀ after, readNumbered read [] (contentFrom 1 (before ++ line :: after)) =
      .error ⟨before.length + 1, cause⟩ := by
  obtain ⟨values, done⟩ := (exists_ok_iff judges before).mpr firstBad.all_allowed
  have refused := (judges before values (trim line) done).not.mpr firstBad.not_allowed
  cases last : read values.reverse (trim line) with
  | ok value => exact (refused ⟨value, last⟩).elim
  | error cause =>
    exact ⟨cause, readNumbered_stops done firstBad.not_blank last⟩

end Reading

/-! ### What a parser of lines reports -/

/-- A parser that succeeds if all lines are allowed, and else reports the number of the first that is
not, whatever follows. -/
structure ReportsFirstBad {β : Type} (parse : String → Except ParseError β)
    (Allowed : List (List Char) → List Char → Prop) : Prop where
  succeeds_iff : ∀ input, (∃ value, parse input = .ok value) ↔
    AllAllowed Allowed (input.toList.splitOn '\n')
  fails : ∀ input error, parse input = .error error →
    ∃ before line after, input.toList.splitOn '\n' = before ++ line :: after ∧
      FirstBad Allowed before line
  names_line : ∀ before line, FirstBad Allowed before line →
    ∃ reason : String, ∀ input after, input.toList.splitOn '\n' = before ++ line :: after →
      parse input = .error (.invalidFormat s!"(line {before.length + 1}) {reason}")

theorem reportsFirstBad_of_judges {α β ε : Type} {read : List α → List Char → Except ε α}
    {Allowed : List (List Char) → List Char → Prop} (judges : Judges read Allowed)
    {parse : String → Except ParseError β} (keep : List α → β) (describe : ε → String)
    (parses : ∀ input, parse input =
      ((readLinesAfter read input.toList).map keep).mapError fun error =>
        .invalidFormat (error.message describe)) :
    ReportsFirstBad parse Allowed := by
  have lines (input : String) : readLinesAfter read input.toList =
      readNumbered read [] (contentFrom 1 (input.toList.splitOn '\n')) := by
    rw [readLinesAfter, contentLines_eq_contentFrom]
  have succeeds (input : String) : (∃ value, parse input = .ok value) ↔
      AllAllowed Allowed (input.toList.splitOn '\n') := by
    rw [← exists_ok_iff judges, parses, lines]
    cases readNumbered read [] (contentFrom 1 (input.toList.splitOn '\n')) with
    | ok values => simp [Except.map, Except.mapError]
    | error error => simp [Except.map, Except.mapError]
  refine ⟨succeeds, ?_, ?_⟩
  · intro input error refused
    refine exists_firstBad fun all => ?_
    obtain ⟨value, done⟩ := (succeeds input).mpr all
    rw [done] at refused
    cases refused
  · intro before line firstBad
    obtain ⟨cause, stops⟩ := exists_error_of_firstBad judges firstBad
    refine ⟨describe cause, fun input after split => ?_⟩
    rw [parses, lines, split, stops after]
    rfl

/-! ### Lines that are read by themselves -/

/-- A parser with one value for each line that is not blank; `Means` says what a line stands for. -/
structure ReadsEachLine {α : Type} (parse : String → Except ParseError (List α))
    (Means : List Char → α → Prop) : Prop where
  reports : ReportsFirstBad parse fun _ line => ∃ value, Means line value
  values_iff : ∀ input values, parse input = .ok values ↔
    List.Forall₂ Means (contents (input.toList.splitOn '\n')) values

/-- The same lines in another order give the same values in another order. -/
theorem ReadsEachLine.exists_of_perm {α : Type} {parse : String → Except ParseError (List α)}
    {Means : List Char → α → Prop} (reads : ReadsEachLine parse Means) {input reordered : String}
    {values : List α} (done : parse input = .ok values)
    (perm : (contents (reordered.toList.splitOn '\n')).Perm
      (contents (input.toList.splitOn '\n'))) :
    ∃ others, parse reordered = .ok others ∧ others.Perm values := by
  obtain ⟨others, pairs, same⟩ :=
    List.perm_comp_forall₂ perm ((reads.values_iff input values).mp done)
  exact ⟨others, (reads.values_iff reordered others).mpr pairs, same⟩

theorem exists_append_of_forall₂ {α β : Type} {Reads : α → β → Prop} {first second : List α}
    {values : List β} (pairs : List.Forall₂ Reads (first ++ second) values) :
    ∃ early late, values = early ++ late ∧ List.Forall₂ Reads first early ∧
      List.Forall₂ Reads second late := by
  induction first generalizing values with
  | nil => exact ⟨[], values, rfl, .nil, pairs⟩
  | cons item rest ih =>
    obtain ⟨value, others, reads, more, rfl⟩ := List.forall₂_cons_left_iff.mp pairs
    obtain ⟨early, late, rfl, start, finish⟩ := ih more
    exact ⟨value :: early, late, rfl, .cons reads start, finish⟩

theorem forall₂_contents {α ε : Type} {read : List α → List Char → Except ε α}
    {Means : List Char → α → Prop}
    (each : ∀ earlier line value, read earlier line = .ok value → Means line value)
    {lines : List (List Char)} {values : List α}
    (done : readNumbered read [] (contentFrom 1 lines) = .ok values) :
    List.Forall₂ Means (contents lines) values := by
  obtain ⟨later, rfl, pairs⟩ := forall₂_of_readNumbered done
  rw [← map_snd_contentFrom 1, List.forall₂_map_left_iff]
  exact pairs.imp fun line value ⟨earlier, found⟩ => each earlier line.2 value found

theorem readsEachLine_of_reads {α ε : Type} {read : List Char → Except ε α}
    {Means : List Char → α → Prop} (reads : ∀ line value, read line = .ok value ↔ Means line value)
    {parse : String → Except ParseError (List α)} {describe : ε → String}
    (parses : ∀ input, parse input = (readLines read input.toList).mapError fun error =>
      .invalidFormat (error.message describe)) :
    ReadsEachLine parse Means := by
  have judges : Judges (fun _ => read) fun _ line => ∃ value, Means line value :=
    fun _ _ line _ => exists_congr fun value => reads line value
  have reports : ReportsFirstBad parse fun _ line => ∃ value, Means line value := by
    refine reportsFirstBad_of_judges judges id describe fun input => ?_
    rw [parses, readLines]
    cases readLinesAfter (fun _ => read) input.toList <;> rfl
  have forward {input : String} {values : List α} (done : parse input = .ok values) :
      List.Forall₂ Means (contents (input.toList.splitOn '\n')) values := by
    rw [parses] at done
    have read_lines := of_mapError_eq_ok done
    rw [readLines, readLinesAfter, contentLines_eq_contentFrom] at read_lines
    exact forall₂_contents (fun _ line value => (reads line value).mp) read_lines
  refine ⟨reports, fun input values => ⟨forward, fun pairs => ?_⟩⟩
  have all : AllAllowed (fun _ line => ∃ value, Means line value)
      (input.toList.splitOn '\n') := by
    intro before line after split filled
    rw [split, contents_append, contents_cons_of_not_blank filled] at pairs
    obtain ⟨value, _, means⟩ := exists_of_forall₂ pairs.flip (trim line) (by simp)
    exact ⟨value, means⟩
  -- So something is read, and a line stands for one value only.
  obtain ⟨others, done⟩ := (reports.succeeds_iff input).mpr all
  have unique : Relator.RightUnique Means := fun line first second means means' =>
    Except.ok.inj (((reads line first).mpr means).symm.trans ((reads line second).mpr means'))
  rw [List.right_unique_forall₂' unique pairs (forward done), done]

end Advent.Text
