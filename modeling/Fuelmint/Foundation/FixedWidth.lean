import Mathlib.Algebra.Group.Int.Defs
import Mathlib.Algebra.Group.Nat.Defs
import Mathlib.Data.List.Basic

/-!
# Values in fixed-width containers

A machine integer keeps a number exactly when the number is in its range, and
a fixed array keeps a list exactly when the lengths agree.  Conversions and
products wrap silently otherwise, and copies cut off or leave a rest.
-/

namespace Foundation.FixedWidth

/-! ## Integers -/

/-- Reducing to a signed register keeps exactly the numbers in its range. -/
theorem bmod_eq_self_iff (value : Int) (width : Nat) :
    value.bmod (2 ^ (width + 1)) = value ↔
      -2 ^ width ≤ value ∧ value < 2 ^ width := by
  have double : (2 ^ (width + 1) : Nat) = 2 * 2 ^ width := by
    rw [Nat.pow_succ, Nat.mul_comm]
  have positive : 0 < 2 ^ width := Nat.two_pow_pos width
  have cast : ((2 ^ width : Nat) : Int) = 2 ^ width := by
    push_cast
    rfl
  rw [double, ← cast]
  generalize 2 ^ width = half at positive
  constructor
  · intro kept
    have lower := Int.le_bmod (x := value) (m := 2 * half) (by omega)
    have upper := Int.bmod_lt (x := value) (m := 2 * half) (by omega)
    omega
  · rintro ⟨lower, upper⟩
    exact Int.bmod_eq_of_le_mul_two (by omega) (by omega)

/-- A signed number survives the cast to unsigned and the cut to 32 bits
exactly when it is a 32-bit number. -/
theorem toUInt32_eq_iff (value : Int64) :
    (value.toUInt64.toUInt32.toNat : Int) = value.toInt ↔
      0 ≤ value.toInt ∧ value.toInt < 2 ^ 32 := by
  have cut :
      value.toUInt64.toUInt32.toNat = value.toBitVec.toNat % 2 ^ 32 :=
    UInt64.toNat_toUInt32 value.toUInt64
  have bound : value.toBitVec.toNat < 2 ^ 64 := value.toBitVec.isLt
  have signed := BitVec.toInt_eq_toNat_cond value.toBitVec
  rw [Int64.toInt_toBitVec] at signed
  rw [cut]
  split at signed <;> omega

/-- The product of a count and a unit, in a signed 64-bit register. -/
theorem toInt_toInt64_mul (count : UInt64) (unit : Int64) :
    (count.toInt64 * unit).toInt =
      (count.toNat * unit.toInt : Int).bmod (2 ^ 64) := by
  have converted : count.toInt64.toInt = (count.toNat : Int).bmod (2 ^ 64) :=
    BitVec.toInt_eq_toNat_bmod count.toBitVec
  rw [Int64.toInt_mul, converted, Int.bmod_mul_bmod]

/-- Such a product is exact exactly when it is in range. -/
theorem toInt_toInt64_mul_eq_iff (count : UInt64) (unit : Int64) :
    (count.toInt64 * unit).toInt = count.toNat * unit.toInt ↔
      -2 ^ 63 ≤ (count.toNat * unit.toInt : Int) ∧
        (count.toNat * unit.toInt : Int) < 2 ^ 63 := by
  rw [toInt_toInt64_mul]
  exact bmod_eq_self_iff _ 63

/-! ## Arrays -/

variable {Item : Type} {size : Nat}

/-- Copy a list over the front of an array: what does not fit is dropped, and
what is not covered stays. -/
def copyInto (target : Vector Item size) (source : List Item) :
    Vector Item size :=
  Vector.ofFn fun position =>
    (source[position.val]?).getD target[position]

/-- A copy keeps the list exactly when it fills the array. -/
theorem toList_copyInto_eq_iff
    (target : Vector Item size) (source : List Item) :
    (copyInto target source).toList = source ↔ source.length = size := by
  constructor
  · intro kept
    rw [← kept, Vector.length_toList]
  · intro fills
    apply List.ext_getElem
    · rw [Vector.length_toList, fills]
    · intro position _ inSource
      rw [Vector.getElem_toList]
      simp [copyInto, inSource]

end Foundation.FixedWidth
