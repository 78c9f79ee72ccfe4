import Mathlib.Data.List.Basic

/-!
# Hexadecimal text

Bytes as pairs of lower-case digits, and the reading of either case.
-/

namespace Foundation.Hex

def digit (value : Nat) : Char :=
  Char.ofNat (if value < 10 then 48 + value else 87 + value)

def digitValue (character : Char) : Option Nat :=
  if '0' ≤ character ∧ character ≤ '9' then
    some (character.toNat - 48)
  else if 'a' ≤ character ∧ character ≤ 'f' then
    some (character.toNat - 87)
  else if 'A' ≤ character ∧ character ≤ 'F' then
    some (character.toNat - 55)
  else
    none

def encode : List UInt8 → List Char
  | [] => []
  | byte :: rest =>
      digit (byte.toNat / 16) :: digit (byte.toNat % 16) :: encode rest

/-- Text of odd length and text with another character do not decode. -/
def decode : List Char → Option (List UInt8)
  | [] => some []
  | [_] => none
  | high :: low :: rest => do
      let highValue ← digitValue high
      let lowValue ← digitValue low
      let bytes ← decode rest
      return UInt8.ofNat (16 * highValue + lowValue) :: bytes

theorem digitValue_digit {value : Nat} (small : value < 16) :
    digitValue (digit value) = some value := by
  have all : ∀ other ∈ List.range 16,
      digitValue (digit other) = some other := by
    decide
  exact all value (List.mem_range.mpr small)

@[simp]
theorem decode_encode (bytes : List UInt8) :
    decode (encode bytes) = some bytes := by
  induction bytes with
  | nil =>
      rfl
  | cons byte rest inductionHypothesis =>
      have bound := byte.toNat_lt
      have high : byte.toNat / 16 < 16 := by
        omega
      have low : byte.toNat % 16 < 16 := by
        omega
      have halves :
          16 * (byte.toNat / 16) + byte.toNat % 16 = byte.toNat := by
        omega
      have whole :
          UInt8.ofNat (16 * (byte.toNat / 16) + byte.toNat % 16) =
            byte := by
        rw [halves, UInt8.ofNat_toNat]
      simp only [encode, decode, digitValue_digit high,
        digitValue_digit low, inductionHypothesis, whole, bind,
        Option.bind_some, pure]

end Foundation.Hex
