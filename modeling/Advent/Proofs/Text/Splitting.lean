import Advent.Text.Blank
import Advent.Text.Split
import Mathlib.Data.List.Basic
import Mathlib.Data.List.TakeWhile

/-!
# Texts put together and taken apart

What is put together from pieces comes apart into the same pieces: a start is stripped off, a text is
split at a separator that cannot begin within the first piece, blanks around a text are trimmed, and
words with blanks between them are the words of the text.
-/
namespace Advent.Text

theorem stripStart?_eq_some_iff {start text rest : List Char} :
    stripStart? start text = some rest ↔ text = start ++ rest := by
  unfold stripStart?
  by_cases starts : start.isPrefixOf text = true
  · obtain ⟨tail, rfl⟩ := List.isPrefixOf_iff_prefix.mp starts
    rw [if_pos starts, List.drop_left, Option.some.injEq, List.append_cancel_left_eq, eq_comm]
  · rw [if_neg starts]
    constructor
    · intro found
      cases found
    · rintro rfl
      exact (starts (List.isPrefixOf_iff_prefix.mpr (List.prefix_append start rest))).elim

/-- A text is split where its first piece ends if some character of the separator is not in it. -/
theorem splitOnce_of_notMem {separator before : List Char} {c : Char} (inside : c ∈ separator)
    (outside : c ∉ before) (after : List Char) :
    splitOnce separator (before ++ separator ++ after) = some (before, after) := by
  induction before with
  | nil =>
    have here : separator.isPrefixOf (separator ++ after) = true :=
      List.isPrefixOf_iff_prefix.mpr (List.prefix_append separator after)
    cases separator with
    | nil => cases inside
    | cons first rest =>
      rw [List.nil_append, List.cons_append, splitOnce, ← List.cons_append, if_pos here,
        List.drop_left]
  | cons first rest ih =>
    have absent : c ∉ rest := fun member => outside (List.mem_cons_of_mem first member)
    have elsewhere : ¬ separator.isPrefixOf (first :: (rest ++ separator ++ after)) = true := by
      intro here
      obtain ⟨tail, whole⟩ := List.isPrefixOf_iff_prefix.mp here
      -- The character would have to stand both before and after the end of the first piece.
      have early := congrArg (List.idxOf c) whole
      rw [List.idxOf_append_of_mem inside, ← List.cons_append, ← List.cons_append,
        List.append_assoc, List.idxOf_append_of_notMem outside,
        List.idxOf_append_of_mem inside, List.length_cons] at early
      omega
    rw [List.cons_append, List.cons_append, splitOnce, if_neg elsewhere, ih absent]
    rfl

/-! ### Blanks -/

theorem trim_of_blanks {left text right : List Char} (blank : ∀ c ∈ left, isBlank c = true)
    (blank' : ∀ c ∈ right, isBlank c = true) (first : ∀ c ∈ text.head?, isBlank c = false)
    (last : ∀ c ∈ text.getLast?, isBlank c = false) : trim (left ++ text ++ right) = text := by
  have kept (part : List Char) (filled : ∀ c ∈ part.head?, isBlank c = false) :
      part.dropWhile isBlank = part := by
    cases part with
    | nil => rfl
    | cons c rest => exact List.dropWhile_cons_of_neg (by simp [filled c rfl])
  have dropped (part : List Char) (only : ∀ c ∈ part, isBlank c = true) :
      part.dropWhile isBlank = [] :=
    List.dropWhile_eq_nil_iff.mpr only
  unfold trim trimStart trimEnd
  cases text with
  | nil => rw [List.append_nil, List.dropWhile_append_of_pos blank, dropped right blank']; rfl
  | cons c rest =>
    have from_text : (c :: rest ++ right).dropWhile isBlank = c :: rest ++ right :=
      kept _ fun other same => first other same
    have reversed : ∀ other ∈ (c :: rest).reverse.head?, isBlank other = false := by
      rw [List.head?_reverse]
      exact last
    rw [List.append_assoc, List.dropWhile_append_of_pos blank, from_text, List.reverse_append,
      List.dropWhile_append_of_pos (by simpa using blank'), kept _ reversed, List.reverse_reverse]

theorem trim_of_blank {text : List Char} (blank : ∀ c ∈ text, isBlank c = true) :
    trim text = [] := by
  have whole : trim (text ++ [] ++ []) = [] :=
    trim_of_blanks blank (by simp) (by simp) (by simp)
  simpa using whole

/-- Trimming removes blanks only. -/
theorem count_trim {c : Char} (filled : isBlank c = false) (text : List Char) :
    (trim text).count c = text.count c := by
  have dropped (part : List Char) : (part.dropWhile isBlank).count c = part.count c := by
    have none_before : (part.takeWhile isBlank).count c = 0 := by
      apply List.count_eq_zero.mpr
      intro member
      have blank := List.mem_takeWhile_imp member
      simp [filled] at blank
    have whole := congrArg (List.count c) (part.takeWhile_append_dropWhile (p := isBlank))
    rw [List.count_append, none_before, Nat.zero_add] at whole
    exact whole
  rw [trim, trimEnd, List.count_reverse, dropped, List.count_reverse, trimStart, dropped]

/-! ### Words -/

structure IsWord (word : List Char) : Prop where
  not_empty : word ≠ []
  not_blank : ∀ c ∈ word, isBlank c = false

theorem words_cons {word rest : List Char} (first : IsWord word) :
    words (word ++ ' ' :: rest) = word :: words rest := by
  rw [words, List.splitOnP_append_cons_of_forall_mem first.not_blank ' ' (by decide)]
  exact List.filter_cons_of_pos (by simpa using first.not_empty)

/-- Words with a space between them. -/
def unwords (tokens : List (List Char)) : List Char :=
  [' '].intercalate tokens

theorem unwords_cons_cons (first second : List Char) (rest : List (List Char)) :
    unwords (first :: second :: rest) = first ++ ' ' :: unwords (second :: rest) := by
  rw [unwords, List.intercalate_cons_cons, List.append_assoc]
  rfl

section Unwords

variable {tokens : List (List Char)} (each : ∀ token ∈ tokens, IsWord token)

include each

theorem words_unwords : words (unwords tokens) = tokens := by
  induction tokens with
  | nil => rfl
  | cons first rest ih =>
    obtain ⟨word, others⟩ := List.forall_mem_cons.mp each
    cases rest with
    | nil =>
      rw [unwords, List.intercalate_singleton, words, List.splitOnP_eq_singleton word.not_blank]
      exact List.filter_cons_of_pos (by simpa using word.not_empty)
    | cons second rest =>
      rw [unwords_cons_cons, words_cons word, ih others]

theorem exists_first_of_unwords (filled : tokens ≠ []) :
    ∃ c rest, unwords tokens = c :: rest ∧ isBlank c = false := by
  obtain ⟨first, rest, rfl⟩ := List.exists_cons_of_ne_nil filled
  obtain ⟨word, _⟩ := List.forall_mem_cons.mp each
  obtain ⟨c, others, rfl⟩ := List.exists_cons_of_ne_nil word.not_empty
  have not_blank := word.not_blank c List.mem_cons_self
  cases rest with
  | nil => exact ⟨c, others, List.intercalate_singleton, not_blank⟩
  | cons second rest => exact ⟨c, _, unwords_cons_cons _ second rest, not_blank⟩

/-- The only blanks are the spaces between the words. -/
theorem eq_space_of_mem_unwords {c : Char} (member : c ∈ unwords tokens)
    (blank : isBlank c = true) : c = ' ' := by
  induction tokens with
  | nil => cases member
  | cons first rest ih =>
    obtain ⟨word, others⟩ := List.forall_mem_cons.mp each
    have outside : c ∉ first := fun inside => by
      rw [word.not_blank c inside] at blank
      cases blank
    cases rest with
    | nil => exact (outside (by simpa [unwords] using member)).elim
    | cons second rest =>
      rw [unwords_cons_cons] at member
      rcases List.mem_append.mp member with inside | after
      · exact (outside inside).elim
      · rcases List.mem_cons.mp after with space | later
        · exact space
        · exact ih others later

end Unwords

/-- Every character that is not blank belongs to a word. -/
theorem exists_word_of_mem {text : List Char} {c : Char} (member : c ∈ text)
    (not_blank : isBlank c = false) : ∃ word ∈ words text, c ∈ word := by
  have piece : ∃ word ∈ text.splitOnP isBlank, c ∈ word := by
    induction text with
    | nil => cases member
    | cons first rest ih =>
      rw [List.splitOnP_cons_eq_if_modifyHead]
      obtain ⟨word, others, split⟩ := List.exists_cons_of_ne_nil (List.splitOnP_ne_nil isBlank rest)
      rcases List.mem_cons.mp member with rfl | later
      · rw [if_neg (by simp [not_blank]), split]
        exact ⟨c :: word, List.mem_cons_self, List.mem_cons_self⟩
      · obtain ⟨found, listed, inside⟩ := ih later
        by_cases blank : isBlank first = true
        · rw [if_pos blank]
          exact ⟨found, List.mem_cons_of_mem _ listed, inside⟩
        · rw [if_neg blank, split]
          rw [split] at listed
          rcases List.mem_cons.mp listed with rfl | other
          · exact ⟨first :: found, List.mem_cons_self, List.mem_cons_of_mem _ inside⟩
          · exact ⟨found, List.mem_cons_of_mem _ other, inside⟩
  obtain ⟨word, listed, inside⟩ := piece
  have filled : word ≠ [] := List.ne_nil_of_mem inside
  exact ⟨word, List.mem_filter.mpr ⟨listed, by simpa using filled⟩, inside⟩

end Advent.Text
