import GatewayBridge.Go.Strconv

/-!
# Hexadecimal text

`hex.DecodeString` of `encoding/hex`, which reads digits in either case, and undoes
`hex.EncodeToString` (`hexString`).
-/

namespace GatewayBridge.Go

/-- The value of a hexadecimal digit. -/
def fromHexChar (c : UInt8) : Option UInt8 :=
  if 48 ≤ c ∧ c ≤ 57 then some (c - 48)
  else if 97 ≤ c ∧ c ≤ 102 then some (c - 97 + 10)
  else if 65 ≤ c ∧ c ≤ 70 then some (c - 65 + 10)
  else none

/-- The errors of `encoding/hex`. -/
inductive HexError where
  /-- `encoding/hex: odd length hex string`. -/
  | length
  /-- `encoding/hex: invalid byte: …`. -/
  | invalidByte (c : UInt8)
  deriving DecidableEq, Repr

/-- `hex.DecodeString`. A digit without a partner is looked at before the length is reported. -/
def decodeHex : Bytes → Except HexError Bytes
  | c₁ :: c₂ :: s =>
      match fromHexChar c₁ with
      | none => .error (.invalidByte c₁)
      | some a =>
          match fromHexChar c₂ with
          | none => .error (.invalidByte c₂)
          | some b => (decodeHex s).map fun rest => (16 * a + b) :: rest
  | [c] =>
      match fromHexChar c with
      | none => .error (.invalidByte c)
      | some _ => .error .length
  | [] => .ok []

theorem fromHexChar_hexDigit : ∀ d < 16, fromHexChar (hexDigit d) = some (UInt8.ofNat d) := by decide

@[simp] theorem hexString_nil : hexString [] = [] := rfl

@[simp] theorem hexString_cons (b : UInt8) (s : Bytes) :
    hexString (b :: s) = hexDigit (b.toNat / 16) :: hexDigit (b.toNat % 16) :: hexString s := rfl

theorem byte_of_hexDigits (b : UInt8) : 16 * UInt8.ofNat (b.toNat / 16) + UInt8.ofNat (b.toNat % 16) = b := by
  have h := b.toNat_lt
  apply UInt8.toNat_inj.mp
  simp only [UInt8.toNat_add, UInt8.toNat_mul, UInt8.toNat_ofNat', UInt8.toNat_ofNat]
  omega

/-- **`hex.DecodeString` reads back what `hex.EncodeToString` wrote.** -/
theorem decodeHex_hexString (s : Bytes) : decodeHex (hexString s) = .ok s := by
  induction s with
  | nil => rfl
  | cons b s ih =>
    have h := b.toNat_lt
    have hhi := fromHexChar_hexDigit (b.toNat / 16) (by omega)
    have hlo := fromHexChar_hexDigit (b.toNat % 16) (by omega)
    simp only [hexString_cons, decodeHex, hhi, hlo, ih, Except.map, byte_of_hexDigits]

end GatewayBridge.Go
