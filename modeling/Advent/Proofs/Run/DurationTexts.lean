import Advent.Run.Duration

/-!
# Texts for durations

A duration whose microseconds fit into a signed word is shown by their magnitude, behind a minus
sign if they are negative. The text of a negative duration is made of that of its opposite, which is
not negative, so no text is made in more than two steps. Signed words are not symmetric: the least
number of microseconds fits and its opposite does not, so this one is shown as what does not fit,
behind a minus sign.
-/
namespace Advent

/-- The unit of every text for microseconds ends in the same letter. -/
theorem getLast?_showMicroseconds (count : Nat) :
    (showMicroseconds count).toList.getLast? = some 's' := by
  have ends (front : String) {unit : String} (last : unit.toList.getLast? = some 's') :
      (front ++ unit).toList.getLast? = some 's' := by
    rw [String.toList_append, List.getLast?_append, last]
    rfl
  simp only [showMicroseconds]
  split
  · exact ends _ rfl
  · split
    · exact ends _ rfl
    · exact ends _ rfl

namespace Duration

/-- The whole microseconds fit into a signed word of 64 bits. -/
def Fits (duration : Duration) : Prop :=
  -(Word.size 63 : Int) ≤ duration.microseconds ∧ duration.microseconds < Word.size 63

instance (duration : Duration) : Decidable duration.Fits := by
  unfold Fits
  infer_instance

/-- The text for a number of microseconds, behind a minus sign if it is negative. -/
def signedText (count : Int) : String :=
  if count < 0 then "-" ++ showMicroseconds count.natAbs else showMicroseconds count.natAbs

/-- How a duration is shown, if it is known how its opposite is. -/
def shownBy (opposite : Duration → String) (duration : Duration) : String :=
  match duration.microseconds? with
  | none => "N/A"
  | some count =>
    if count < 0 then s!"-{opposite duration.neg}" else showMicroseconds count.natAbs

/-! ### Opposites -/

@[simp] theorem microseconds_neg (duration : Duration) :
    duration.neg.microseconds = -duration.microseconds :=
  Int.neg_tdiv ..

theorem InRange.neg {duration : Duration} (within : duration.InRange) : duration.neg.InRange := by
  simp only [InRange, Duration.neg] at within ⊢
  omega

/-! ### Words -/

theorem microseconds?_of_fits {duration : Duration} (fits : duration.Fits) :
    duration.microseconds? = some duration.microseconds :=
  if_pos fits

theorem microseconds?_of_not_fits {duration : Duration} (large : ¬ duration.Fits) :
    duration.microseconds? = none :=
  if_neg large

/-- Of the negative counts that fit, only the least one has an opposite that does not. -/
theorem fits_neg_iff {duration : Duration} (fits : duration.Fits) :
    duration.neg.Fits ↔ duration.microseconds ≠ -(Word.size 63 : Int) := by
  simp only [Fits, microseconds_neg] at fits ⊢
  omega

/-! ### Steps -/

theorem shownBy_of_not_negative {duration : Duration} (positive : 0 ≤ duration.microseconds)
    (opposite : Duration → String) : duration.shownBy opposite = duration.shownPositive := by
  by_cases fits : duration.Fits
  · simp only [shownBy, shownPositive, microseconds?_of_fits fits, if_neg (Int.not_lt.mpr positive)]
  · simp only [shownBy, shownPositive, microseconds?_of_not_fits fits]

theorem shownBy_of_negative {duration : Duration} (fits : duration.Fits)
    (negative : duration.microseconds < 0) (opposite : Duration → String) :
    duration.shownBy opposite = "-" ++ opposite duration.neg := by
  simp only [shownBy, microseconds?_of_fits fits, if_pos negative]
  rfl

/-- The opposite of a negative duration is not negative, so a second step is the last one. -/
theorem shownBy_shownBy (duration : Duration) (opposite : Duration → String) :
    duration.shownBy (shownBy opposite) = duration.shown := by
  change _ = duration.shownBy shownPositive
  by_cases negative : duration.microseconds < 0
  · by_cases fits : duration.Fits
    · have turned : 0 ≤ duration.neg.microseconds := by
        rw [microseconds_neg]
        omega
      rw [shownBy_of_negative fits negative, shownBy_of_negative fits negative,
        shownBy_of_not_negative turned]
    · simp only [shownBy, microseconds?_of_not_fits fits]
  · rw [shownBy_of_not_negative (Int.not_lt.mp negative),
      shownBy_of_not_negative (Int.not_lt.mp negative)]

theorem shownBy_shown (duration : Duration) : duration.shownBy shown = duration.shown :=
  shownBy_shownBy duration shownPositive

theorem shown_of_negative {duration : Duration} (fits : duration.Fits)
    (negative : duration.microseconds < 0) : duration.shown = "-" ++ duration.neg.shown := by
  rw [← shownBy_shown, shownBy_of_negative fits negative]

/-! ### Texts -/

theorem shown_of_not_fits {duration : Duration} (large : ¬ duration.Fits) :
    duration.shown = "N/A" := by
  simp only [shown, microseconds?_of_not_fits large]

theorem shown_of_not_negative {duration : Duration} (fits : duration.Fits)
    (positive : 0 ≤ duration.microseconds) :
    duration.shown = showMicroseconds duration.microseconds.natAbs := by
  simp only [shown, microseconds?_of_fits fits, if_neg (Int.not_lt.mpr positive)]

theorem shown_of_fits {duration : Duration} (fits : duration.Fits)
    (other : duration.microseconds ≠ -(Word.size 63 : Int)) :
    duration.shown = signedText duration.microseconds := by
  unfold signedText
  split
  next negative =>
    have turned : 0 ≤ duration.neg.microseconds := by
      rw [microseconds_neg]
      omega
    rw [shown_of_negative fits negative,
      shown_of_not_negative ((fits_neg_iff fits).mpr other) turned, microseconds_neg,
      Int.natAbs_neg]
  next positive => exact shown_of_not_negative fits (Int.not_lt.mp positive)

/-- The least count fits, and its opposite does not. -/
theorem shown_of_least {duration : Duration}
    (least : duration.microseconds = -(Word.size 63 : Int)) : duration.shown = "-N/A" := by
  have size : 0 < Word.size 63 := by decide
  have fits : duration.Fits := by
    simp only [Fits, least]
    omega
  have turned : ¬ duration.neg.Fits := fun fits' => (fits_neg_iff fits).mp fits' least
  rw [shown_of_negative fits (by omega), shown_of_not_fits turned]
  rfl

theorem getLast?_signedText (count : Int) : (signedText count).toList.getLast? = some 's' := by
  unfold signedText
  split
  · rw [String.toList_append, List.getLast?_append, getLast?_showMicroseconds]
    rfl
  · exact getLast?_showMicroseconds _

/-- No text for microseconds looks like one of the others, which end without a unit. -/
theorem signedText_ne (count : Int) {text : String} (other : text.toList.getLast? ≠ some 's') :
    signedText count ≠ text := by
  rintro rfl
  exact other (getLast?_signedText count)

theorem shown_eq_missing_iff (duration : Duration) : duration.shown = "N/A" ↔ ¬ duration.Fits := by
  constructor
  · intro missing fits
    by_cases least : duration.microseconds = -(Word.size 63 : Int)
    · rw [shown_of_least least] at missing
      exact absurd missing (by decide)
    · rw [shown_of_fits fits least] at missing
      exact signedText_ne _ (by decide) missing
  · exact shown_of_not_fits

theorem shown_eq_minus_missing_iff (duration : Duration) :
    duration.shown = "-N/A" ↔ duration.microseconds = -(Word.size 63 : Int) := by
  refine ⟨fun missing => ?_, shown_of_least⟩
  by_cases fits : duration.Fits
  · by_cases least : duration.microseconds = -(Word.size 63 : Int)
    · exact least
    · rw [shown_of_fits fits least] at missing
      exact absurd missing (signedText_ne _ (by decide))
  · rw [shown_of_not_fits fits] at missing
    exact absurd missing (by decide)

/-- A duration is shown by its microseconds if they fit and are not the least ones that do. -/
theorem shown_by_microseconds (duration : Duration) :
    (duration.shown = "N/A" ↔ ¬ duration.Fits) ∧
    (duration.shown = "-N/A" ↔ duration.microseconds = -(Word.size 63 : Int)) ∧
    (duration.Fits → duration.microseconds ≠ -(Word.size 63 : Int) →
      duration.shown = signedText duration.microseconds) ∧
    (duration.Fits → duration.microseconds < 0 → duration.shown = "-" ++ duration.neg.shown) ∧
    (duration.InRange → duration.neg.InRange) ∧
    duration.shownBy shown = duration.shown ∧
    ∀ opposite, duration.shownBy (shownBy opposite) = duration.shown :=
  ⟨shown_eq_missing_iff duration, shown_eq_minus_missing_iff duration, shown_of_fits,
    shown_of_negative, InRange.neg, shownBy_shown duration, shownBy_shownBy duration⟩

/-- The magnitude of the least count has a text, and it is not used. -/
theorem least_microseconds_not_shown :
    let duration : Duration := ⟨-9223372036854775808000⟩
    duration.InRange ∧ duration.Fits ∧ duration.shown = "-N/A" ∧
      signedText duration.microseconds = "-9223372036854.78s" ∧
      duration.shown ≠ signedText duration.microseconds := by
  decide +kernel

end Duration

end Advent
