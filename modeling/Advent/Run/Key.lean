/-!
# Result keys

Results are known by year, day and part, and ordered in that sense.
-/
namespace Advent

structure Key where
  year : Nat
  day : Nat
  part : Nat
  deriving Repr, DecidableEq

namespace Key

def Before (first second : Key) : Prop :=
  first.year < second.year ∨
    first.year = second.year ∧
      (first.day < second.day ∨ first.day = second.day ∧ first.part < second.part)

instance (first second : Key) : Decidable (first.Before second) := by
  unfold Before
  infer_instance

theorem Before.irrefl (key : Key) : ¬ key.Before key := by
  unfold Before
  omega

theorem Before.trans {first second third : Key} (left : first.Before second)
    (right : second.Before third) : first.Before third := by
  unfold Before at *
  omega

theorem before_or_eq_or_before (first second : Key) :
    first.Before second ∨ first = second ∨ second.Before first := by
  rcases first with ⟨y, d, p⟩
  rcases second with ⟨y', d', p'⟩
  simp only [Before, Key.mk.injEq]
  omega

end Key

end Advent
