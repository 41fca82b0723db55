/-!
# Blank characters, trimmed text and words

Blank is the White_Space property. Trimming removes blanks at both ends, and the words of a text are
its maximal runs without a blank, so no word is empty.
-/
namespace Advent.Text

/-- The characters of White_Space. -/
def isBlank (c : Char) : Bool :=
  c = ' ' || ('\t' ≤ c && c ≤ '\r') || c = '\u0085' || c = '\u00a0' || c = '\u1680' ||
    ('\u2000' ≤ c && c ≤ '\u200a') || c = '\u2028' || c = '\u2029' || c = '\u202f' ||
    c = '\u205f' || c = '\u3000'

def trimStart (text : List Char) : List Char :=
  text.dropWhile isBlank

def trimEnd (text : List Char) : List Char :=
  (text.reverse.dropWhile isBlank).reverse

def trim (text : List Char) : List Char :=
  trimEnd (trimStart text)

def words (text : List Char) : List (List Char) :=
  (text.splitOnP isBlank).filter fun word => !word.isEmpty

@[simp] theorem trim_nil : trim [] = [] := rfl

theorem head_trimStart_not_blank (text : List Char) (c : Char)
    (first : (trimStart text).head? = some c) : isBlank c = false := by
  have found := List.head?_dropWhile_not isBlank text
  rw [show text.dropWhile isBlank = trimStart text from rfl, first] at found
  simpa using found

theorem mem_words_ne_nil (text word : List Char) (member : word ∈ words text) : word ≠ [] := by
  have kept := (List.mem_filter.mp member).2
  cases word with
  | nil => simp at kept
  | cons => simp

end Advent.Text
