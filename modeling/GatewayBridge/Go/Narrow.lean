import GatewayBridge.Go.Basic

/-!
# Narrowing conversions

`uint8(i)`, `uint16(i)` and `uint32(i)` of an `int` keep the low bits: the result is
`i` modulo `2^8`, `2^16` or `2^32`, which is `i` itself exactly when `i` is in range.
-/

namespace GatewayBridge.Go

theorem toNat_ofInt_uint8 (i : ℤ) : ((UInt8.ofInt i).toNat : ℤ) = i % 2 ^ 8 := by
  rw [UInt8.ofInt, UInt8.toNat_ofNat']
  omega

theorem toNat_ofInt_uint16 (i : ℤ) : ((UInt16.ofInt i).toNat : ℤ) = i % 2 ^ 16 := by
  rw [UInt16.ofInt, UInt16.toNat_ofNat']
  omega

theorem toNat_ofInt_uint32 (i : ℤ) : ((UInt32.ofInt i).toNat : ℤ) = i % 2 ^ 32 := by
  rw [UInt32.ofInt, UInt32.toNat_ofNat']
  omega

theorem uint8_exact_iff {i : ℤ} : ((UInt8.ofInt i).toNat : ℤ) = i ↔ 0 ≤ i ∧ i < 2 ^ 8 := by
  rw [toNat_ofInt_uint8]
  omega

theorem uint16_exact_iff {i : ℤ} : ((UInt16.ofInt i).toNat : ℤ) = i ↔ 0 ≤ i ∧ i < 2 ^ 16 := by
  rw [toNat_ofInt_uint16]
  omega

theorem uint32_exact_iff {i : ℤ} : ((UInt32.ofInt i).toNat : ℤ) = i ↔ 0 ≤ i ∧ i < 2 ^ 32 := by
  rw [toNat_ofInt_uint32]
  omega

end GatewayBridge.Go
