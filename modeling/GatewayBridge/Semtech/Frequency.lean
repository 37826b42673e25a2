import GatewayBridge.Semtech.Uplink

/-!
# Frequencies are exact

A gateway writes a frequency in MHz, with a decimal point; the bridge has it in Hz, as
an `int`. Between the two are a division by a million, a multiplication by a million
and a truncation, and each of the first two rounds. If the product came out just below
the frequency, the truncation would take a whole hertz off it.

It does not where the frequency is far enough up in its binade. With
`2 ^ (e + 20) < f < 2 ^ (e + 1) * 1000000`, the quotient is in the binade of `2 ^ e`, so
its error is at most `2 ^ (e - 53)`; a million times that is less than `2 ^ (e - 33)`,
half the distance between neighbours of `f`, since a million is less than `2 ^ 20`. So the
product is rounded to `f` (`float64_mul_div`). Of the LoRa bands, those up to 510 MHz
are in the binade of `e = 8` and the others in that of `e = 9`, so both conversions are
exact there (`frequency_exact`).
-/

namespace GatewayBridge.Semtech

open GatewayBridge.Go GatewayBridge.Lora

variable {f : ℤ} {e : ℕ}

theorem two_zpow_eq (e : ℕ) (k : ℤ) : (2 : ℚ) ^ ((e : ℤ) + k) = 2 ^ ((e : ℤ) - 33) * 2 ^ (33 + k) := by
  rw [← zpow_add₀ two_ne_zero]
  congr 1
  ring

/-- The place of `f` in its binade, in units of `u`. -/
structure Placed (f : ℤ) (u : ℚ) : Prop where
  /-- The unit is positive. -/
  pos : 0 < u
  /-- It is half a hertz at most. -/
  le_half : u ≤ 1 / 2
  /-- `f` is above the start of the binade. -/
  low : u * 2 ^ 53 + 1 ≤ f
  /-- A millionth of `f` is below the end of its own binade. -/
  high : f + 1 ≤ u * 2 ^ 34 * 1000000

theorem placed (he : e ≤ 32) (hlow : 2 ^ (e + 20) < f) (hhigh : f < 2 ^ (e + 1) * 1000000) :
    Placed f (2 ^ ((e : ℤ) - 33)) := by
  refine ⟨zpow_pos two_pos _, ?_, ?_, ?_⟩
  · calc (2 : ℚ) ^ ((e : ℤ) - 33) ≤ 2 ^ (-1 : ℤ) := zpow_le_zpow_right₀ one_le_two (by omega)
      _ = 1 / 2 := by norm_num
  · have hpow : (2 : ℚ) ^ (e + 20) = 2 ^ ((e : ℤ) - 33) * 2 ^ 53 := by exact_mod_cast two_zpow_eq e 20
    have hle : 2 ^ (e + 20) + 1 ≤ f := hlow
    rw [← hpow]
    exact_mod_cast hle
  · have hpow : (2 : ℚ) ^ (e + 1) = 2 ^ ((e : ℤ) - 33) * 2 ^ 34 := by exact_mod_cast two_zpow_eq e 1
    have hle : f + 1 ≤ 2 ^ (e + 1) * 1000000 := hhigh
    rw [← hpow]
    exact_mod_cast hle

/-- The quotient is off by so little that the product is off by less than a unit. -/
theorem abs_product_sub_lt (h : Placed f (2 ^ ((e : ℤ) - 33))) :
    |float64 (f / 1000000) * 1000000 - f| < 2 ^ ((e : ℤ) - 33) := by
  have hlow : (2 : ℚ) ^ (e : ℤ) ≤ f / 1000000 := by
    rw [← add_zero (e : ℤ), two_zpow_eq, le_div_iff₀ (by norm_num)]
    norm_num
    linarith [h.low, h.pos]
  have hhigh : (f : ℚ) / 1000000 < 2 ^ ((e : ℤ) + 1) := by
    rw [two_zpow_eq, div_lt_iff₀ (by norm_num)]
    norm_num
    linarith [h.high]
  have herr : |float64 (f / 1000000) - f / 1000000| ≤ 2 ^ ((e : ℤ) - (53 : ℕ)) :=
    abs_roundBits_sub_le hlow hhigh
  rw [sub_eq_add_neg (e : ℤ), two_zpow_eq, abs_le] at herr
  rw [abs_lt]
  norm_num at herr
  constructor <;> linarith [h.pos]

/-- **The product is rounded to the frequency.** -/
theorem float64_mul_div (he : e ≤ 32) (hlow : 2 ^ (e + 20) < f) (hhigh : f < 2 ^ (e + 1) * 1000000) :
    float64 (float64 (f / 1000000) * 1000000) = f := by
  have h := placed he hlow hhigh
  have herr := abs_product_sub_lt h
  have hbounds := abs_lt.mp herr
  -- `f` is a number of 53 bits
  obtain ⟨k, hk⟩ := Nat.exists_eq_add_of_le he
  have hulp : (2 : ℚ) ^ ((e : ℤ) + 20 - ((53 : ℕ) - 1)) = (2 ^ k)⁻¹ := by
    rw [show (e : ℤ) + 20 - ((53 : ℕ) - 1) = -(k : ℤ) by omega, zpow_neg, zpow_natCast]
  have hf : (f : ℚ) = ((f * 2 ^ k : ℤ) : ℚ) * 2 ^ ((e : ℤ) + 20 - ((53 : ℕ) - 1)) := by
    rw [hulp]
    push_cast
    rw [mul_assoc, mul_inv_cancel₀ (pow_ne_zero k two_ne_zero), mul_one]
  have hle : (2 : ℚ) ^ ((e : ℤ) + 20) ≤ float64 (f / 1000000) * 1000000 := by
    rw [two_zpow_eq]
    norm_num
    linarith [h.low, h.le_half]
  have hlt : float64 (f / 1000000) * 1000000 < (2 : ℚ) ^ ((e : ℤ) + 20 + 1) := by
    rw [add_assoc, two_zpow_eq]
    norm_num
    linarith [h.high, h.le_half, h.pos]
  conv_rhs => rw [hf]
  refine roundBits_eq hle hlt ?_
  rw [← hf, show (e : ℤ) + 20 - (53 : ℕ) = e - 33 by omega]
  exact herr

/-! ### The two conversions -/

/-- The frequency of a downlink goes out as the `float64` nearest to it. -/
theorem newTXPKFromTXPacket_freq {txPacket : TXPacketBytes} (h : |txPacket.txInfo.frequency| < 2 ^ 53) :
    (newTXPKFromTXPacket txPacket).freq = float64 (txPacket.txInfo.frequency / 1000000) := by
  have hint : float64 txPacket.txInfo.frequency = txPacket.txInfo.frequency := roundBits_intCast h
  rw [newTXPKFromTXPacket, hint]

/-- **Frequencies are exact to the hertz in the LoRa bands.** A downlink's is written as the `float64`
nearest to its number of MHz, and from that `float64` the conversion of an uplink gets it back. -/
theorem frequency_exact
    (hf : (2 ^ 28 < f ∧ f < 512000000) ∨ (2 ^ 29 < f ∧ f < 1024000000)) :
    (∀ txPacket : TXPacketBytes, txPacket.txInfo.frequency = f →
      (newTXPKFromTXPacket txPacket).freq = float64 (f / 1000000)) ∧
    ∀ (mac : EUI64) (rxpk : RXPK) (rxPacket : RXPacketBytes), rxpk.freq = float64 (f / 1000000) →
      newRXPacketFromRXPK mac rxpk = .ok rxPacket → rxPacket.rxInfo.frequency = f := by
  have hpos : 0 < f := by omega
  have hlt : f < 1024000000 := by omega
  have hproduct : float64 (float64 (f / 1000000) * 1000000) = f := by
    rcases hf with ⟨hlow, hhigh⟩ | ⟨hlow, hhigh⟩
    · exact float64_mul_div (e := 8) (by omega) hlow hhigh
    · exact float64_mul_div (e := 9) (by omega) hlow hhigh
  refine ⟨?_, ?_⟩
  · rintro txPacket rfl
    apply newTXPKFromTXPacket_freq
    rw [abs_of_pos hpos]
    omega
  · intro mac rxpk rxPacket hfreq h
    obtain ⟨-, -, -, hfrequency⟩ := newRXPacketFromRXPK_eq_ok h
    rw [hfrequency, hfreq, hproduct]
    exact truncInt_intCast (by omega) (by omega)

/-- An uplink with the `float64` next to `868.1`. -/
def sampleEntry868 : RXPK := { sampleEntry 1 with freq := float64 ((868100000 : ℤ) / 1000000) }

theorem frequency_exact_868 :
    ∃ rxPacket, newRXPacketFromRXPK sampleMAC sampleEntry868 = .ok rxPacket ∧
      rxPacket.rxInfo.frequency = 868100000 := by
  have hok : newRXPacketFromRXPK sampleMAC sampleEntry868 = .ok _ := rfl
  have hexact := frequency_exact (f := 868100000) (by omega)
  exact ⟨_, hok, hexact.2 sampleMAC sampleEntry868 _ rfl hok⟩

end GatewayBridge.Semtech
