import Advent.Proofs.Text.BadLines
import Advent.Proofs.Text.Splitting

/-!
# Layout

A line feed ends a line and takes a carriage return right before it along; nothing after the last
line feed is no line. The content of a text is what its lines hold, trimmed, less the blank ones.
Blanks where a line starts or ends leave it as it is, line feeds among them: these are indentation,
trailing blanks, blank lines, either kind of line ending and a last line with or without one.
Readers of lines see nothing but the content, so two texts with the same content are read to the
same values, or refused for the same reason on lines that may have different numbers.
-/
namespace Advent.Text

/-! ### Trimming -/

/-- Trimming takes blanks off both ends, and what is left has none there. -/
theorem exists_blanks_around (text : List Char) :
    ∃ left right, text = left ++ trim text ++ right ∧ (∀ c ∈ left, isBlank c = true) ∧
      (∀ c ∈ right, isBlank c = true) ∧ (∀ c ∈ (trim text).head?, isBlank c = false) ∧
      ∀ c ∈ (trim text).getLast?, isBlank c = false := by
  let left := text.takeWhile isBlank
  let right := (trimStart text).reverse.takeWhile isBlank
  have start : text = left ++ trimStart text := List.takeWhile_append_dropWhile.symm
  have finish : trimStart text = trim text ++ right.reverse := by
    rw [trim, trimEnd, ← List.reverse_append, List.takeWhile_append_dropWhile,
      List.reverse_reverse]
  refine ⟨left, right.reverse, ?_, ?_, ?_, ?_, ?_⟩
  · rw [List.append_assoc, ← finish]
    exact start
  · exact fun c member => List.mem_takeWhile_imp member
  · exact fun c member => List.mem_takeWhile_imp (List.mem_reverse.mp member)
  · intro c first
    -- The trimmed text starts where the blanks at the start end.
    apply head_trimStart_not_blank text c
    rw [finish, List.head?_append, Option.mem_def.mp first]
    rfl
  · intro c last
    rw [trim, trimEnd, List.getLast?_reverse] at last
    have found := List.head?_dropWhile_not isBlank (trimStart text).reverse
    rw [Option.mem_def.mp last] at found
    simpa using found

theorem trim_between_blanks {left right : List Char} (blank : ∀ c ∈ left, isBlank c = true)
    (blank' : ∀ c ∈ right, isBlank c = true) (text : List Char) :
    trim (left ++ text ++ right) = trim text := by
  obtain ⟨before, after, cut, only, only', first, last⟩ := exists_blanks_around text
  have outer : left ++ text ++ right = (left ++ before) ++ trim text ++ (after ++ right) := by
    conv_lhs => rw [cut]
    simp only [List.append_assoc]
  rw [outer]
  apply trim_of_blanks _ _ first last
  · exact List.forall_mem_append.mpr ⟨blank, only⟩
  · exact List.forall_mem_append.mpr ⟨only', blank'⟩

/-! ### Lines and content -/

/-- A line without the carriage return at its end. -/
def withoutReturn (line : List Char) : List Char :=
  if line.getLast? = some '\r' then line.dropLast else line

/-- The lines of a text, without their endings. -/
def lines (text : List Char) : List (List Char) :=
  let pieces := text.splitOn '\n'
  pieces.dropLast.map withoutReturn ++ (pieces.getLast?.filter fun last => !last.isEmpty).toList

/-- What the lines of a text hold. -/
def content (text : List Char) : List (List Char) :=
  contents (lines text)

theorem trim_withoutReturn (line : List Char) : trim (withoutReturn line) = trim line := by
  unfold withoutReturn
  split
  next ends =>
    obtain ⟨start, rfl⟩ := List.getLast?_eq_some_iff.mp ends
    have blank : ∀ c ∈ ['\r'], isBlank c = true := List.forall_mem_singleton.mpr rfl
    rw [List.dropLast_concat]
    exact (trim_between_blanks (List.forall_mem_nil _) blank start).symm
  · rfl

/-- Line endings play no part in the content, and neither does an empty last line. -/
theorem content_eq_contents (text : List Char) : content text = contents (text.splitOn '\n') := by
  obtain ⟨front, last, pieces⟩ :=
    (List.eq_nil_or_concat (text.splitOn '\n')).resolve_left (List.splitOn_ne_nil '\n' text)
  rw [List.concat_eq_append] at pieces
  have trimmed : contents (front.map withoutReturn) = contents front := by
    simp only [contents, List.map_map, Function.comp_def, trim_withoutReturn]
  rw [content, lines, pieces, contents_append, contents_append]
  simp only [List.dropLast_concat, List.getLast?_concat, trimmed]
  cases last with
  | nil => rfl
  | cons c rest => rfl

example : lines "a\r\nb\r\r\n\nc\r".toList =
    ["a".toList, "b\r".toList, [], "c\r".toList] := by decide

theorem content_append_feed (before after : List Char) :
    content (before ++ '\n' :: after) = content before ++ content after := by
  simp only [content_eq_contents, List.splitOn]
  rw [List.splitOnP_append_cons before after (by simp), contents_append]

theorem content_cons_of_blank {c : Char} (blank : isBlank c = true) (text : List Char) :
    content (c :: text) = content text := by
  by_cases feed : c = '\n'
  · subst feed
    exact content_append_feed [] text
  · -- The blank joins the first line and is trimmed off it.
    obtain ⟨line, rest, pieces⟩ := List.exists_cons_of_ne_nil (List.splitOn_ne_nil '\n' text)
    have joined : (c :: text).splitOn '\n' = (c :: line) :: rest := by
      rw [List.splitOn, List.splitOnP_cons_eq_if_modifyHead, if_neg (by simpa using feed)]
      exact congrArg _ pieces
    have trimmed : trim (c :: line) = trim line := by
      have blank' : ∀ d ∈ [c], isBlank d = true := by simpa using blank
      simpa using trim_between_blanks blank' (List.forall_mem_nil _) line
    simp only [content_eq_contents, joined, pieces, contents, List.map_cons, trimmed]

theorem exists_last_line (text : List Char) :
    '\n' ∉ text ∨ ∃ front line, text = front ++ '\n' :: line ∧ '\n' ∉ line := by
  by_cases feed : '\n' ∈ text
  · obtain ⟨line, front, cut, single⟩ := List.eq_append_cons_of_mem (List.mem_reverse.mpr feed)
    refine Or.inr ⟨front.reverse, line.reverse, ?_, by simpa using single⟩
    simpa using congrArg List.reverse cut
  · exact Or.inl feed

theorem content_concat_of_blank {c : Char} (blank : isBlank c = true) (text : List Char) :
    content (text ++ [c]) = content text := by
  have within (line : List Char) (single : '\n' ∉ line) (other : c ≠ '\n') :
      content (line ++ [c]) = content line := by
    have trimmed : trim (line ++ [c]) = trim line := by
      have blank' : ∀ d ∈ [c], isBlank d = true := by simpa using blank
      exact trim_between_blanks (List.forall_mem_nil _) blank' line
    have joined : '\n' ∉ line ++ [c] := by simp [single, other.symm]
    have whole (part : List Char) (none : '\n' ∉ part) : part.splitOn '\n' = [part] :=
      List.splitOnP_eq_singleton fun d member => by
        simpa using ne_of_mem_of_not_mem member none
    simp only [content_eq_contents, whole _ single, whole _ joined, contents, List.map_cons,
      trimmed]
  by_cases feed : c = '\n'
  · subst feed
    rw [content_append_feed]
    exact List.append_nil _
  · -- The blank joins the last line, which stands after the last line feed.
    rcases exists_last_line text with single | ⟨front, line, rfl, single⟩
    · exact within text single feed
    · rw [List.append_assoc, List.cons_append, content_append_feed, content_append_feed,
        within line single feed]

section Blanks

variable {blanks : List Char} (blank : ∀ c ∈ blanks, isBlank c = true)

include blank

theorem content_blanks_append (text : List Char) : content (blanks ++ text) = content text := by
  induction blanks with
  | nil => rfl
  | cons c rest ih =>
    obtain ⟨first, others⟩ := List.forall_mem_cons.mp blank
    exact (content_cons_of_blank first _).trans (ih others)

theorem content_append_blanks (text : List Char) : content (text ++ blanks) = content text := by
  induction blanks generalizing text with
  | nil => rw [List.append_nil]
  | cons c rest ih =>
    obtain ⟨first, others⟩ := List.forall_mem_cons.mp blank
    rw [List.append_cons, ih others, content_concat_of_blank first]

end Blanks

/-- A place in a text, known by what stands before and after it, where a line starts or ends. -/
def AtLineEdge (before after : List Char) : Prop :=
  (∀ c ∈ before.getLast?, c = '\n') ∨ ∀ c ∈ after.head?, c = '\n'

/-- Blanks where a line starts or ends are no content, and neither are further line feeds there. -/
theorem content_of_blanks {before blanks after : List Char}
    (blank : ∀ c ∈ blanks, isBlank c = true) (edge : AtLineEdge before after) :
    content (before ++ blanks ++ after) = content (before ++ after) := by
  rcases edge with start | finish
  · -- At the start of a line, what stands before ends with its line feed.
    rcases List.eq_nil_or_concat before with rfl | ⟨front, last, rfl⟩
    · exact content_blanks_append blank after
    · obtain rfl : last = '\n' := start last (by simp)
      simp only [List.concat_eq_append, List.append_assoc, List.cons_append, List.nil_append,
        content_append_feed, content_blanks_append blank]
  · cases after with
    | nil => simpa using content_append_blanks blank before
    | cons first rest =>
      obtain rfl : first = '\n' := finish first rfl
      rw [content_append_feed, content_append_feed, content_append_blanks blank]

/-! ### Reading the same content -/

/-- Readers of lines do not see the numbers of the lines, which only show in an error. -/
theorem cause_of_readNumbered {α ε : Type} {read : List α → List Char → Except ε α}
    {first second : List (Nat × List Char)} (same : first.map Prod.snd = second.map Prod.snd)
    (earlier : List α) :
    (readNumbered read earlier first).mapError LineError.cause =
      (readNumbered read earlier second).mapError LineError.cause := by
  induction first generalizing second earlier with
  | nil =>
    obtain rfl := List.map_eq_nil_iff.mp same.symm
    rfl
  | cons line rest ih =>
    obtain ⟨other, others, rfl, text, more⟩ := List.map_eq_cons_iff.mp same.symm
    simp only [readNumbered, text]
    cases read earlier line.2 with
    | ok value => exact ih more.symm (value :: earlier)
    | error cause => rfl

/-- Two outcomes of a parser that are the same, but for the number of the line in an error. -/
inductive SameButForNumber {β : Type} : Except ParseError β → Except ParseError β → Prop
  | read (value : β) : SameButForNumber (.ok value) (.ok value)
  | refused (number other : Nat) (reason : String) :
    SameButForNumber (.error (.invalidFormat s!"(line {number}) {reason}"))
      (.error (.invalidFormat s!"(line {other}) {reason}"))

theorem SameButForNumber.eq_of_ok {β : Type} {value value' : β}
    (same : SameButForNumber (.ok value) (.ok value')) : value = value' := by
  cases same
  rfl

/-- What is made of the values is the same as well. -/
theorem SameButForNumber.map {β γ : Type} {first second : Except ParseError β}
    (same : SameButForNumber first second) (make : β → γ) :
    SameButForNumber (first.map make) (second.map make) := by
  cases same with
  | read value => exact .read (make value)
  | refused number other reason => exact .refused number other reason

theorem sameButForNumber_of_content {α β ε : Type} {read : List α → List Char → Except ε α}
    {parse : String → Except ParseError β} {keep : List α → β} {describe : ε → String}
    (parses : ∀ input, parse input =
      ((readLinesAfter read input.toList).map keep).mapError fun error =>
        .invalidFormat (error.message describe))
    {first second : String} (same : content first.toList = content second.toList) :
    SameButForNumber (parse first) (parse second) := by
  have texts : (contentLines first.toList).map Prod.snd =
      (contentLines second.toList).map Prod.snd := by
    simpa only [content_eq_contents, ← map_snd_contentFrom 1, ← contentLines_eq_contentFrom]
      using same
  have causes : (readNumbered read [] (contentLines first.toList)).mapError LineError.cause =
      (readNumbered read [] (contentLines second.toList)).mapError LineError.cause :=
    cause_of_readNumbered texts []
  rw [parses, parses]
  unfold readLinesAfter
  -- Both readings succeed or both fail, since they come to the same without their numbers.
  cases done : readNumbered read [] (contentLines first.toList) with
  | ok values =>
    cases done' : readNumbered read [] (contentLines second.toList) with
    | ok values' =>
      rw [done, done'] at causes
      obtain rfl := Except.ok.inj causes
      exact .read (keep values)
    | error error =>
      rw [done, done'] at causes
      cases causes
  | error error =>
    cases done' : readNumbered read [] (contentLines second.toList) with
    | ok values' =>
      rw [done, done'] at causes
      cases causes
    | error error' =>
      rw [done, done'] at causes
      have cause : error.cause = error'.cause := Except.error.inj causes
      have refused := SameButForNumber.refused (β := β) error.line error'.line
        (describe error.cause)
      rw [cause] at refused
      simpa only [Except.map, Except.mapError, LineError.message, cause] using refused

end Advent.Text
