/-!
# Slots of the calendar

A registry has a slot for each day from 1 to 25 of the twenty years from 2015. Slots are numbered by
year, then by day, and `slot?` and `yearOf`, `dayOf` are inverse to each other.
-/
namespace Advent

def firstYear : Nat := 2015
def yearCount : Nat := 20
def daysPerYear : Nat := 25
def slotCount : Nat := yearCount * daysPerYear

def InRange (year day : Nat) : Prop :=
  firstYear ≤ year ∧ year < firstYear + yearCount ∧ 1 ≤ day ∧ day ≤ daysPerYear

instance (year day : Nat) : Decidable (InRange year day) := by
  unfold InRange
  infer_instance

def slot? (year day : Nat) : Option (Fin slotCount) :=
  if within : InRange year day then
    some ⟨(year - firstYear) * daysPerYear + (day - 1), by
      simp only [InRange, firstYear, yearCount, daysPerYear, slotCount] at *
      omega⟩
  else none

def yearOf (slot : Fin slotCount) : Nat :=
  firstYear + slot / daysPerYear

def dayOf (slot : Fin slotCount) : Nat :=
  slot % daysPerYear + 1

theorem slot?_isSome_iff (year day : Nat) : (slot? year day).isSome = true ↔ InRange year day := by
  unfold slot?
  split <;> simp_all

theorem slot?_yearOf_dayOf (slot : Fin slotCount) : slot? (yearOf slot) (dayOf slot) = some slot := by
  have below := slot.isLt
  simp only [slotCount, yearCount, daysPerYear] at below
  have within : InRange (yearOf slot) (dayOf slot) := by
    simp only [InRange, yearOf, dayOf, firstYear, yearCount, daysPerYear]
    omega
  unfold slot?
  rw [dif_pos within]
  simp only [yearOf, dayOf, firstYear, daysPerYear, Option.some.injEq, Fin.ext_iff]
  omega

theorem year_day_of_slot? (year day : Nat) (slot : Fin slotCount) (found : slot? year day = some slot) :
    yearOf slot = year ∧ dayOf slot = day := by
  unfold slot? at found
  split at found
  next within =>
    have value := Option.some.inj found
    subst value
    simp only [InRange, firstYear, yearCount, daysPerYear] at within
    simp only [yearOf, dayOf, firstYear, daysPerYear]
    omega
  · simp at found

end Advent
