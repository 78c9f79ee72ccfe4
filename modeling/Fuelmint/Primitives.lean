import Fuelmint.Foundation.FixedWidth
import Mathlib.Algebra.Ring.Nat

/-!
# Heights, byte strings and the application state

The machine integers are the ones of the source: ABCI carries an `i64`, the
Tendermint `Height` a `u64` that fits an `i64`, the Fuel block height a `u32`.
-/

namespace Fuelmint

abbrev Bytes := List UInt8

/-- A TAI64 label, the time stamp of a block header. -/
abbrev Tai64 := UInt64

abbrev DaBlockHeight := UInt64

/-- The height under which a block is stored. -/
abbrev BlockHeight := UInt32

/-- `BlockHeight::from(u64)` keeps the low 32 bits. -/
def BlockHeight.ofU64 (height : UInt64) : BlockHeight :=
  height.toUInt32

/-- The conversion `end_block` makes: `i64 as u64`, then `BlockHeight::from`. -/
def BlockHeight.ofRequest (height : Int64) : BlockHeight :=
  BlockHeight.ofU64 height.toUInt64

/-- The request is kept exactly when it is a `u32`. -/
theorem BlockHeight.ofRequest_eq_iff (height : Int64) :
    ((BlockHeight.ofRequest height).toNat : Int) = height.toInt ↔
      0 ≤ height.toInt ∧ height.toInt < 2 ^ 32 :=
  Foundation.FixedWidth.toUInt32_eq_iff height

/-- A Tendermint block height: a `u64` within the range of `i64`. -/
structure Height where
  value : UInt64
  inRange : value.toNat < 2 ^ 63
  deriving DecidableEq

/-- `Height::default` is 1. -/
def Height.default : Height where
  value := 1
  inRange := by decide

theorem toNat_toUInt64_of_nonneg {height : Int64} (nonneg : 0 ≤ height) :
    (height.toUInt64.toNat : Int) = height.toInt := by
  have lower : 0 ≤ height.toInt := by
    simpa using Int64.le_iff_toInt_le.mp nonneg
  have clamped := Int64.toNat_toUInt64_of_le nonneg
  have unclamped : (height.toNatClampNeg : Int) = height.toInt :=
    Int.toNat_of_nonneg lower
  omega

/-- `Height::try_from(i64)` refuses exactly the negative values. -/
def Height.tryFrom (height : Int64) : Option Height :=
  if nonneg : 0 ≤ height then
    some
      { value := height.toUInt64
        inRange := by
          have value := toNat_toUInt64_of_nonneg nonneg
          have upper := Int64.toInt_lt height
          omega }
  else
    none

/-- The height as a mathematical integer. -/
def Height.toNat (height : Height) : Nat :=
  height.value.toNat

theorem Height.tryFrom_eq_some {height : Int64} {converted : Height}
    (succeeds : Height.tryFrom height = some converted) :
    0 ≤ height ∧ (converted.toNat : Int) = height.toInt := by
  unfold Height.tryFrom at succeeds
  split at succeeds
  case isTrue nonneg =>
    cases succeeds
    exact ⟨nonneg, toNat_toUInt64_of_nonneg nonneg⟩
  case isFalse =>
    cases succeeds

theorem Height.tryFrom_isSome_iff (height : Int64) :
    (Height.tryFrom height).isSome ↔ 0 ≤ height := by
  unfold Height.tryFrom
  split <;> simp [*]

/-- Two `i64` values that convert to the same `Height` are equal. -/
theorem Height.tryFrom_injective {left right : Int64} {converted : Height}
    (fromLeft : Height.tryFrom left = some converted)
    (fromRight : Height.tryFrom right = some converted) :
    left = right := by
  apply Int64.toInt_inj.mp
  rw [← (Height.tryFrom_eq_some fromLeft).2,
    (Height.tryFrom_eq_some fromRight).2]

/-- The application state, containing the block height and the app hash. -/
structure State where
  blockHeight : Int64
  appHash : Bytes
  deriving DecidableEq

/-- `State::default`. -/
def State.initial : State where
  blockHeight := 0
  appHash := []

end Fuelmint
