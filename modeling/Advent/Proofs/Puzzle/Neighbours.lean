import Advent.Proofs.Puzzle.NiceStrings
import Advent.Proofs.Text.Ascii
import Advent.Proofs.Text.Numerals

/-!
# Letters and their places

Both rules for nice strings are about places in a word. Two letters side by side occur again at a
place two or more to the right, a letter stands again one or two places later, or a pair of letters
stands nowhere. The rules as they are tested look to the right only, but what they ask for can be read
from either end, and it is still there when text is put around the word.
-/
namespace Advent.NiceStrings

variable {α β : Type} {items : List α}

/-! ### Patterns of places -/

/-- Some item stands again so many places later. -/
def RecursAfter (distance : Nat) (items : List α) : Prop :=
  ∃ place item, items[place]? = some item ∧ items[place + distance]? = some item

/-- The same two items stand side by side at two places, of which the second begins where the first
ends or later. -/
def RepeatsPair (items : List α) : Prop :=
  ∃ i j first second, i + 2 ≤ j ∧
    (items[i]? = some first ∧ items[i + 1]? = some second) ∧
      items[j]? = some first ∧ items[j + 1]? = some second

theorem getElem?_mirrored {place : Nat} {item : α} (here : items[place]? = some item) :
    items.reverse[items.length - 1 - place]? = some item := by
  have inside := (List.getElem?_eq_some_iff.mp here).1
  have mirrored : items.length - 1 - (items.length - 1 - place) = place := by omega
  rw [List.getElem?_reverse (by omega), mirrored, here]

theorem getElem?_surrounded {place : Nat} {item : α} (here : items[place]? = some item)
    (before after : List α) :
    (before ++ items ++ after)[before.length + place]? = some item := by
  have inside := (List.getElem?_eq_some_iff.mp here).1
  rw [List.append_assoc, List.getElem?_append_right (Nat.le_add_right _ _),
    Nat.add_sub_cancel_left, List.getElem?_append_left inside, here]

namespace RecursAfter

variable {distance : Nat}

theorem map (recurs : RecursAfter distance items) (f : α → β) :
    RecursAfter distance (items.map f) := by
  obtain ⟨place, item, here, there⟩ := recurs
  exact ⟨place, f item, by simp [here], by simp [there]⟩

theorem reverse (recurs : RecursAfter distance items) : RecursAfter distance items.reverse := by
  obtain ⟨place, item, here, there⟩ := recurs
  have inside := (List.getElem?_eq_some_iff.mp there).1
  -- From the other end the later item comes first.
  refine ⟨items.length - 1 - (place + distance), item, getElem?_mirrored there, ?_⟩
  have same : items.length - 1 - (place + distance) + distance = items.length - 1 - place := by
    omega
  rw [same]
  exact getElem?_mirrored here

theorem surround (recurs : RecursAfter distance items) (before after : List α) :
    RecursAfter distance (before ++ items ++ after) := by
  obtain ⟨place, item, here, there⟩ := recurs
  refine ⟨before.length + place, item, getElem?_surrounded here before after, ?_⟩
  rw [Nat.add_assoc]
  exact getElem?_surrounded there before after

end RecursAfter

namespace RepeatsPair

theorem map (repeats : RepeatsPair items) (f : α → β) : RepeatsPair (items.map f) := by
  obtain ⟨i, j, first, second, apart, ⟨here, next⟩, again, after⟩ := repeats
  exact ⟨i, j, f first, f second, apart, ⟨by simp [here], by simp [next]⟩, by simp [again],
    by simp [after]⟩

theorem reverse (repeats : RepeatsPair items) : RepeatsPair items.reverse := by
  obtain ⟨i, j, first, second, apart, ⟨here, next⟩, again, after⟩ := repeats
  have inside := (List.getElem?_eq_some_iff.mp after).1
  -- The two pairs change places, and so do the two items of each.
  refine ⟨items.length - 1 - (j + 1), items.length - 1 - (i + 1), second, first, by omega,
    ⟨getElem?_mirrored after, ?_⟩, getElem?_mirrored next, ?_⟩
  · have same : items.length - 1 - (j + 1) + 1 = items.length - 1 - j := by omega
    rw [same]
    exact getElem?_mirrored again
  · have same : items.length - 1 - (i + 1) + 1 = items.length - 1 - i := by omega
    rw [same]
    exact getElem?_mirrored here

theorem surround (repeats : RepeatsPair items) (before after : List α) :
    RepeatsPair (before ++ items ++ after) := by
  obtain ⟨i, j, first, second, apart, ⟨here, next⟩, again, later⟩ := repeats
  exact ⟨before.length + i, before.length + j, first, second, by omega,
    ⟨getElem?_surrounded here before after, getElem?_surrounded next before after⟩,
    getElem?_surrounded again before after, getElem?_surrounded later before after⟩

end RepeatsPair

/-! ### The rules for bytes -/

section Bytes

variable {text : List UInt8}

theorem mem_neighbours_iff {first second : UInt8} :
    (first, second) ∈ neighbours text ↔
      ∃ place, text[place]? = some first ∧ text[place + 1]? = some second := by
  simp only [neighbours, List.mem_iff_getElem?, List.getElem?_zip_eq_some, List.getElem?_drop,
    Nat.add_comm 1]

theorem pair_infix_iff {first second : UInt8} :
    [first, second] <:+: text ↔ (first, second) ∈ neighbours text := by
  rw [mem_neighbours_iff]
  constructor
  · rintro ⟨before, after, rfl⟩
    exact ⟨before.length, by simp, by simp⟩
  · rintro ⟨place, here, next⟩
    refine List.infix_iff_getElem?.mpr ⟨place, ?_, ?_⟩
    · have inside := (List.getElem?_eq_some_iff.mp next).1
      simp only [List.length_cons, List.length_nil]
      omega
    · intro index below
      obtain rfl | rfl : index = 0 ∨ index = 1 := by simp at below; omega
      · simpa using here
      · simpa [Nat.add_comm] using next

theorem any_equal_iff (distance : Nat) :
    ((text.zip (text.drop distance)).any fun (first, second) => first = second) = true ↔
      RecursAfter distance text := by
  simp only [List.any_eq_true, decide_eq_true_eq, Prod.exists, List.mem_iff_getElem?,
    List.getElem?_zip_eq_some, List.getElem?_drop]
  constructor
  · rintro ⟨item, _, ⟨place, here, there⟩, rfl⟩
    exact ⟨place, item, here, by rwa [Nat.add_comm]⟩
  · rintro ⟨place, item, here, there⟩
    exact ⟨item, item, ⟨place, here, by rwa [Nat.add_comm]⟩, rfl⟩

theorem hasRepeatedPair_iff : hasRepeatedPair text = true ↔ RepeatsPair text := by
  fun_induction hasRepeatedPair text with
  | case1 first second rest ih =>
    rw [Bool.or_eq_true, List.contains_iff_mem, mem_neighbours_iff, ih]
    constructor
    · rintro (⟨place, here, next⟩ | ⟨i, j, one, two, apart, pair, again⟩)
      · exact ⟨0, place + 2, first, second, by omega, ⟨rfl, rfl⟩, here, next⟩
      · exact ⟨i + 1, j + 1, one, two, by omega, pair, again⟩
    · rintro ⟨i, j, one, two, apart, pair, again⟩
      -- A pair that does not start at the first byte is one of the text without it.
      obtain ⟨j, rfl⟩ := Nat.exists_eq_add_of_le apart
      cases i with
      | zero =>
        obtain ⟨rfl, rfl⟩ : first = one ∧ second = two := by simpa using pair
        have shifted : 0 + 2 + j = j + 1 + 1 := by omega
        exact Or.inl ⟨j, by simpa only [shifted, List.getElem?_cons_succ] using again⟩
      | succ i =>
        refine Or.inr ⟨i, i + 2 + j, one, two, by omega, pair, ?_⟩
        have shifted : i + 1 + 2 + j = i + 2 + j + 1 := by omega
        simpa only [shifted, List.getElem?_cons_succ] using again
  | case2 text short =>
    -- A text with a pair in it starts with two bytes.
    refine iff_of_false (by simp) ?_
    rintro ⟨i, j, one, two, apart, _, _, later⟩
    have inside := (List.getElem?_eq_some_iff.mp later).1
    rcases text with _ | ⟨first, _ | ⟨second, rest⟩⟩
    · simp at inside
    · simp at inside
    · exact short first second rest rfl

theorem isNiceByPairs_iff :
    isNiceByPairs text = true ↔ RepeatsPair text ∧ RecursAfter 2 text := by
  rw [isNiceByPairs, Bool.and_eq_true, hasRepeatedPair_iff]
  exact and_congr_right fun _ => any_equal_iff 2

theorem isNice_iff :
    isNice text = true ↔ 3 ≤ text.countP isVowel ∧ RecursAfter 1 text ∧
      ∀ pair ∈ forbiddenPairs, ¬ [pair.1, pair.2] <:+: text := by
  have doubled : (neighbours text).any (fun (first, second) => first = second) = true ↔
      RecursAfter 1 text := any_equal_iff 1
  simp only [isNice, Bool.and_eq_true, decide_eq_true_eq, doubled, Bool.not_eq_true',
    List.any_eq_false, and_assoc, pair_infix_iff]
  refine and_congr_right fun _ => and_congr_right fun _ => ?_
  exact ⟨fun none pair bad found => none pair found bad,
    fun none pair found bad => none pair bad found⟩

theorem judgeByPairs_eq_true_iff :
    judgeByPairs text = .ok true ↔ RepeatsPair text ∧ RecursAfter 2 text := by
  rw [judgeByPairs_eq, Except.ok.injEq, isNiceByPairs_iff]

theorem judgeByPairs_reverse (text : List UInt8) :
    judgeByPairs text.reverse = judgeByPairs text := by
  rw [judgeByPairs_eq, judgeByPairs_eq, Except.ok.injEq, Bool.eq_iff_iff, isNiceByPairs_iff,
    isNiceByPairs_iff]
  constructor
  · rintro ⟨repeats, recurs⟩
    exact ⟨by simpa using repeats.reverse, by simpa using recurs.reverse⟩
  · rintro ⟨repeats, recurs⟩
    exact ⟨repeats.reverse, recurs.reverse⟩

end Bytes

/-! ### The rules for letters -/

section Letters

variable {word : List Char}

theorem ascii_of_lower (lower : ∀ c ∈ word, c.isLower = true) : ∀ c ∈ word, c.toNat ≤ 0x7f := by
  intro c member
  have below : c.toNat ≤ 122 := ((Text.isLower_iff c).mp (lower c member)).2
  omega

variable (ascii : ∀ c ∈ word, c.toNat ≤ 0x7f)

include ascii

/-- What every map keeps holds of the bytes if and only if it holds of the characters, because the
characters can be had back. -/
theorem bytes_iff (Holds : ∀ {γ : Type}, List γ → Prop)
    (mapped : ∀ {γ δ : Type} {items : List γ}, Holds items → ∀ f : γ → δ, Holds (items.map f)) :
    Holds (Text.bytes word) ↔ Holds word := by
  rw [Text.bytes_of_ascii ascii]
  constructor
  · intro holds
    rw [← Text.map_ofUInt8_toUInt8 ascii]
    exact mapped holds Char.ofUInt8
  · intro holds
    exact mapped holds Char.toUInt8

theorem infix_bytes_iff {part : List Char} (known : ∀ c ∈ part, c.toNat ≤ 0x7f) :
    part.map Char.toUInt8 <:+: Text.bytes word ↔ part <:+: word := by
  rw [Text.bytes_of_ascii ascii]
  constructor
  · intro found
    have back := found.map Char.ofUInt8
    rwa [Text.map_ofUInt8_toUInt8 known, Text.map_ofUInt8_toUInt8 ascii] at back
  · intro found
    exact found.map Char.toUInt8

theorem countP_isVowel_bytes :
    (Text.bytes word).countP isVowel = word.countP (· ∈ ['a', 'e', 'i', 'o', 'u']) := by
  rw [Text.bytes_of_ascii ascii, List.countP_map]
  refine List.countP_congr fun c member => ?_
  simp only [Function.comp_apply, isVowel, decide_eq_true_eq, List.mem_map]
  constructor
  · rintro ⟨vowel, listed, same⟩
    have narrow : vowel.toNat ≤ 0x7f := by
      simp only [List.mem_cons, List.not_mem_nil, or_false] at listed
      rcases listed with rfl | rfl | rfl | rfl | rfl <;> decide
    have back := Text.ofUInt8_toUInt8 (ascii c member)
    rw [← same, Text.ofUInt8_toUInt8 narrow] at back
    exact back ▸ listed
  · intro vowel
    exact ⟨c, vowel, rfl⟩

theorem forbidden_bytes_iff :
    (∀ pair ∈ forbiddenPairs, ¬ [pair.1, pair.2] <:+: Text.bytes word) ↔
      ∀ pair ∈ ["ab", "cd", "pq", "xy"], ¬ pair.toList <:+: word := by
  have letters :
      ["ab", "cd", "pq", "xy"].all (fun pair => pair.toList.all Char.isLower) = true := by decide
  have written : forbiddenPairs.map (fun pair => [pair.1, pair.2]) =
      ["ab", "cd", "pq", "xy"].map fun pair => pair.toList.map Char.toUInt8 := by decide
  calc (∀ pair ∈ forbiddenPairs, ¬ [pair.1, pair.2] <:+: Text.bytes word)
    _ ↔ ∀ part ∈ forbiddenPairs.map (fun pair => [pair.1, pair.2]),
        ¬ part <:+: Text.bytes word := by rw [List.forall_mem_map]
    _ ↔ ∀ pair ∈ ["ab", "cd", "pq", "xy"],
        ¬ pair.toList.map Char.toUInt8 <:+: Text.bytes word := by
      rw [written, List.forall_mem_map]
    _ ↔ ∀ pair ∈ ["ab", "cd", "pq", "xy"], ¬ pair.toList <:+: word := by
      refine forall₂_congr fun pair listed => not_congr (infix_bytes_iff ascii ?_)
      exact ascii_of_lower (List.all_eq_true.mp (List.all_eq_true.mp letters pair listed))

end Letters

/-! ### What the rules ask for -/

/-- The second rule asks for two letters side by side that occur again without overlap and for a
letter that stands again two places later; the first for three vowels, a letter right after itself
and none of four pairs. The second rule judges a word and its reverse alike, keeps a word nice with
any text around it, and has a verdict on every text. -/
theorem nice_strings_judged_by_places {word : List Char}
    (lower : ∀ c ∈ word, 'a' ≤ c ∧ c ≤ 'z') :
    (judgeByPairs (Text.bytes word) = .ok true ↔
      (∃ i j first second, i + 2 ≤ j ∧
        (word[i]? = some first ∧ word[i + 1]? = some second) ∧
          word[j]? = some first ∧ word[j + 1]? = some second) ∧
      ∃ k letter, word[k]? = some letter ∧ word[k + 2]? = some letter) ∧
    (isNice (Text.bytes word) = true ↔
      3 ≤ word.countP (· ∈ ['a', 'e', 'i', 'o', 'u']) ∧
      (∃ k letter, word[k]? = some letter ∧ word[k + 1]? = some letter) ∧
      ∀ pair ∈ ["ab", "cd", "pq", "xy"], ¬ pair.toList <:+: word) ∧
    judgeByPairs (Text.bytes word.reverse) = judgeByPairs (Text.bytes word) ∧
    (judgeByPairs (Text.bytes word) = .ok true → ∀ before after,
      judgeByPairs (Text.bytes (before ++ word ++ after)) = .ok true) ∧
    ∀ text : List UInt8, ∃ verdict, judgeByPairs text = .ok verdict := by
  have ascii := ascii_of_lower fun c member => (Text.isLower_iff c).mpr (lower c member)
  refine ⟨?_, ?_, ?_, ?_, fun text => ⟨_, judgeByPairs_eq text⟩⟩
  · rw [judgeByPairs_eq_true_iff]
    apply and_congr
    · exact bytes_iff ascii RepeatsPair RepeatsPair.map
    · exact bytes_iff ascii (RecursAfter 2) RecursAfter.map
  · rw [isNice_iff, countP_isVowel_bytes ascii]
    refine and_congr_right fun _ => and_congr ?_ (forbidden_bytes_iff ascii)
    exact bytes_iff ascii (RecursAfter 1) RecursAfter.map
  · have mirrored : ∀ c ∈ word.reverse, c.toNat ≤ 0x7f := by simpa using ascii
    rw [Text.bytes_of_ascii mirrored, List.map_reverse, judgeByPairs_reverse,
      Text.bytes_of_ascii ascii]
  · intro nice before after
    obtain ⟨repeats, recurs⟩ := judgeByPairs_eq_true_iff.mp nice
    rw [Text.bytes_append, Text.bytes_append, judgeByPairs_eq_true_iff]
    exact ⟨repeats.surround _ _, recurs.surround _ _⟩

/-- The word is the same from both ends, and any text may stand around it. -/
theorem two_pairs_judged_by_places :
    (∀ c ∈ "xxyxx".toList, 'a' ≤ c ∧ c ≤ 'z') ∧
      judgeByPairs (Text.bytes "xxyxx".toList) = .ok true ∧
      judgeByPairs (Text.bytes "xxyxx".toList.reverse) = .ok true ∧
      judgeByPairs (Text.bytes ("a1".toList ++ "xxyxx".toList ++ "é".toList)) = .ok true ∧
      isNice (Text.bytes "xxyxx".toList) ≠ true := by
  have letters : "xxyxx".toList.all Char.isLower = true := by decide
  have lower : ∀ c ∈ "xxyxx".toList, 'a' ≤ c ∧ c ≤ 'z' := fun c member =>
    (Text.isLower_iff c).mp (List.all_eq_true.mp letters c member)
  obtain ⟨byPairs, byLetters, mirrored, surrounded, _⟩ := nice_strings_judged_by_places lower
  have nice := byPairs.mpr
    ⟨⟨0, 3, 'x', 'x', by decide, ⟨rfl, rfl⟩, rfl, rfl⟩, 1, 'x', rfl, rfl⟩
  refine ⟨lower, nice, mirrored.trans nice, surrounded nice _ _, ?_⟩
  intro niceByLetters
  exact absurd (byLetters.mp niceByLetters).1 (by decide)

/-- Three equal letters hold two pairs, but these overlap. -/
example : judgeByPairs (Text.bytes "aaa".toList) = .ok false := by
  decide

end Advent.NiceStrings
