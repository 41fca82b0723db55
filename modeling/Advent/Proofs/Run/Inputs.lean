import Advent.Run.Input
import Mathlib.Data.List.Basic

/-!
# Every day has an input of its own

In a directory the file of a day is named by year and day. The year ends at the first underscore, and
a leading zero does not change the number that the digits of the day make, so two days never share a
name. No name is an absolute path, so all of them lie below the directory and two days never share a
path.
-/
namespace Advent

theorem Decimal.ofDigitChars_twoDigits (n : Nat) :
    Nat.ofDigitChars 10 (Decimal.twoDigits n).toList 0 = n := by
  have digits : (toString n).toList = Nat.toDigits 10 n := by
    rw [Nat.toString_eq_ofList_toDigits, String.toList_ofList]
  unfold Decimal.twoDigits
  by_cases small : n < 10
  · rw [if_pos small]
    change Nat.ofDigitChars 10 ("0" ++ toString n).toList 0 = n
    rw [String.toList_append, digits, Nat.ofDigitChars_append]
    exact Nat.ofDigitChars_ten_toDigits
  · rw [if_neg small, digits]
    exact Nat.ofDigitChars_ten_toDigits

namespace InputSource

theorem fileName_toList (year day : Nat) :
    (fileName year day).toList =
      Nat.toDigits 10 year ++ '_' :: ("day".toList ++ (Decimal.twoDigits day).toList ++
        ".txt".toList) := by
  change (toString year ++ "_day" ++ Decimal.twoDigits day ++ ".txt").toList = _
  rw [String.toList_append, String.toList_append, String.toList_append,
    Nat.toString_eq_ofList_toDigits, String.toList_ofList, List.append_assoc, List.append_assoc]
  rfl

theorem fileName_inj {year day year' day' : Nat} :
    fileName year day = fileName year' day' ↔ year = year' ∧ day = day' := by
  constructor
  · intro same
    have characters := congrArg String.toList same
    rw [fileName_toList, fileName_toList] at characters
    -- No digit is an underscore, so the first underscore ends the year.
    have start (number : Nat) (rest : List Char) :
        (Nat.toDigits 10 number ++ '_' :: rest).takeWhile (· ≠ '_') = Nat.toDigits 10 number := by
      rw [List.takeWhile_append_of_pos, List.takeWhile_cons_of_neg (by simp), List.append_nil]
      intro digit member
      exact decide_eq_true fun underscore => Nat.underscore_not_in_toDigits (underscore ▸ member)
    have years := congrArg (List.takeWhile (· ≠ '_')) characters
    rw [start, start] at years
    rw [years] at characters
    have days := List.append_cancel_left (List.append_cancel_right
      (List.cons.inj (List.append_cancel_left characters)).2)
    constructor
    · rw [← @Nat.ofDigitChars_ten_toDigits year, years, Nat.ofDigitChars_ten_toDigits]
    · rw [← Decimal.ofDigitChars_twoDigits day, days, Decimal.ofDigitChars_twoDigits]
  · rintro ⟨rfl, rfl⟩
    rfl

theorem fileName_not_absolute (year day : Nat) : (fileName year day).startsWith "/" = false := by
  refine String.startsWith_string_eq_false_iff.mpr fun absolute => ?_
  obtain ⟨rest, whole⟩ := absolute
  rw [fileName_toList] at whole
  cases digits : Nat.toDigits 10 year with
  | nil => exact Nat.toDigits_ne_nil digits
  | cons first others =>
    have first_digit : first.isDigit = true :=
      Nat.isDigit_of_mem_toDigits (by decide) (by decide) (digits ▸ List.mem_cons_self)
    rw [digits] at whole
    obtain rfl : '/' = first := (List.cons.inj whole).1
    exact absurd first_digit (by decide)

theorem joinPath_inj (directory : String) {name name' : String}
    (relative : name.startsWith "/" = false) (relative' : name'.startsWith "/" = false) :
    joinPath directory name = joinPath directory name' ↔ name = name' := by
  constructor
  · intro same
    unfold joinPath at same
    rw [relative, relative', Bool.or_false] at same
    split at same
    · exact same
    · split at same
      · exact (String.append_right_inj _).mp same
      · exact (String.append_right_inj _).mp same
  · rintro rfl
    rfl

/-- Without an explicit file two days never share a path. -/
theorem path_inj {source : InputSource} (layout : source.file = none) {year day year' day' : Nat} :
    source.path year day = source.path year' day' ↔ year = year' ∧ day = day' := by
  unfold path
  rw [layout]
  exact (joinPath_inj source.directory (fileName_not_absolute year day)
    (fileName_not_absolute year' day')).trans fileName_inj

end InputSource

end Advent
