import Mathlib.Order.Lattice
import Mathlib.Order.Nat

/-!
# Intervals that grow at the top

A nonempty interval of natural numbers, and the one way it grows: a number
whose predecessor is inside joins it.  The bottom never moves and the interval
never has a hole.
-/

namespace Foundation

/-- A nonempty interval of natural numbers. -/
structure Interval where
  bottom : Nat
  top : Nat
  ordered : bottom ≤ top

namespace Interval

instance : Membership Nat Interval where
  mem interval number :=
    interval.bottom ≤ number ∧ number ≤ interval.top

theorem mem_iff {number : Nat} {interval : Interval} :
    number ∈ interval ↔
      interval.bottom ≤ number ∧ number ≤ interval.top :=
  Iff.rfl

instance (number : Nat) (interval : Interval) :
    Decidable (number ∈ interval) :=
  decidable_of_iff _ mem_iff.symm

theorem bottom_mem (interval : Interval) :
    interval.bottom ∈ interval :=
  ⟨Nat.le_refl _, interval.ordered⟩

theorem top_mem (interval : Interval) : interval.top ∈ interval :=
  ⟨interval.ordered, Nat.le_refl _⟩

/-- The interval of a single number. -/
def point (number : Nat) : Interval where
  bottom := number
  top := number
  ordered := Nat.le_refl _

theorem mem_point {number other : Nat} :
    other ∈ point number ↔ other = number := by
  rw [mem_iff]
  simp only [point]
  omega

/-- Let a number join whose predecessor is inside. -/
def join (interval : Interval) (number : Nat) : Interval where
  bottom := interval.bottom
  top := max interval.top number
  ordered := Nat.le_trans interval.ordered (Nat.le_max_left _ _)

theorem mem_join
    {interval : Interval} {number other : Nat}
    (previous : number - 1 ∈ interval) :
    other ∈ interval.join number ↔
      other = number ∨ other ∈ interval := by
  have lower : interval.bottom ≤ number - 1 := previous.1
  have upper : number - 1 ≤ interval.top := previous.2
  simp only [mem_iff, join]
  omega

end Interval

end Foundation
