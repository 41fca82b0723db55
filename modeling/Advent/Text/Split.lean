/-!
# Splitting a text once

`splitOnce` cuts a text at the first place where a separator stands and drops the separator.
-/
namespace Advent.Text

def splitOnce (separator : List Char) : List Char → Option (List Char × List Char)
  | [] => if separator.isEmpty then some ([], []) else none
  | c :: rest =>
    if separator.isPrefixOf (c :: rest) then some ([], (c :: rest).drop separator.length)
    else (splitOnce separator rest).map fun (before, after) => (c :: before, after)

/-- The rest of a text after a start that it has. -/
def stripStart? (start text : List Char) : Option (List Char) :=
  if start.isPrefixOf text then some (text.drop start.length) else none

theorem splitOnce_append (separator text before after : List Char)
    (found : splitOnce separator text = some (before, after)) :
    text = before ++ separator ++ after := by
  induction text generalizing before with
  | nil =>
    unfold splitOnce at found
    split at found
    next none_left =>
      obtain ⟨rfl, rfl⟩ : before = [] ∧ after = [] := by simpa [eq_comm] using found
      simpa using none_left
    · simp at found
  | cons c rest ih =>
    unfold splitOnce at found
    split at found
    next here =>
      obtain ⟨tail, whole⟩ := List.isPrefixOf_iff_prefix.mp here
      obtain ⟨rfl, rfl⟩ : [] = before ∧ (c :: rest).drop separator.length = after := by
        simpa using found
      rw [← whole]
      simp
    · obtain ⟨⟨first, second⟩, inner, same⟩ := Option.map_eq_some_iff.mp found
      obtain ⟨rfl, rfl⟩ : c :: first = before ∧ second = after := by simpa using same
      rw [ih first inner]
      simp

end Advent.Text
