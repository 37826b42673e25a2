import GatewayBridge.Semtech.DataRate
import GatewayBridge.Go.Json

/-!
# What a gateway is told to transmit

`newTXPKFromTXPacket` makes the `txpk` of a PULL_RESP from a downlink. It narrows four
numbers without a check, and it returns no error: `fields_exact_iff` says for which
downlinks the `txpk` still has the numbers of the downlink.

`TXPK.object` is the JSON object of a `txpk`. Its `tmst` is tagged `omitempty`, so a
downlink for the timestamp zero goes out without one: `says_when_iff`.
-/

namespace GatewayBridge.Semtech

open GatewayBridge.Go GatewayBridge.Lora

/-! ### The numbers of a downlink -/

/-- The `txpk` has the numbers of the downlink. -/
structure FieldsExact (txPacket : TXPacketBytes) (txpk : TXPK) : Prop where
  /-- The power. -/
  powe : (txpk.powe.toNat : ℤ) = txPacket.txInfo.power
  /-- The size of the payload. -/
  size : txpk.size.toNat = txPacket.phyPayload.length
  /-- The bit rate, and half of it as frequency deviation. -/
  fsk : txPacket.txInfo.dataRate.modulation = fskModulation →
    (txpk.datr.fsk.toNat : ℤ) = txPacket.txInfo.dataRate.bitRate ∧
      (txpk.fdev.toNat : ℤ) = txPacket.txInfo.dataRate.bitRate.tdiv 2

/-- The numbers of a downlink are in range: the power in 8 bits, the size of the payload in 16, and half
of the bit rate in 16. -/
structure InRange (txPacket : TXPacketBytes) : Prop where
  /-- The power. -/
  power : 0 ≤ txPacket.txInfo.power ∧ txPacket.txInfo.power < 256
  /-- The size of the payload. -/
  size : txPacket.phyPayload.length < 65536
  /-- The bit rate. -/
  bitRate : txPacket.txInfo.dataRate.modulation = fskModulation →
    0 ≤ txPacket.txInfo.dataRate.bitRate ∧ txPacket.txInfo.dataRate.bitRate < 131072

theorem size_exact_iff (n : ℕ) : (UInt16.ofNat n).toNat = n ↔ n < 65536 := by
  rw [UInt16.toNat_ofNat']
  omega

theorem bitRate_exact_iff (n : ℤ) :
    ((UInt32.ofInt n).toNat : ℤ) = n ∧ ((UInt16.ofInt (n.tdiv 2)).toNat : ℤ) = n.tdiv 2 ↔
      0 ≤ n ∧ n < 131072 := by
  rw [uint32_exact_iff, uint16_exact_iff]
  constructor
  · rintro ⟨⟨hpos, -⟩, -, hhalf⟩
    rw [Int.tdiv_eq_ediv_of_nonneg hpos] at hhalf
    omega
  · rintro ⟨hpos, hlt⟩
    rw [Int.tdiv_eq_ediv_of_nonneg hpos]
    omega

/-- **The `txpk` has the numbers of the downlink exactly when they are in range.** -/
theorem fields_exact_iff (txPacket : TXPacketBytes) :
    FieldsExact txPacket (newTXPKFromTXPacket txPacket) ↔ InRange txPacket := by
  have hfsk : txPacket.txInfo.dataRate.modulation = fskModulation →
      (newTXPKFromTXPacket txPacket).datr.fsk = UInt32.ofInt txPacket.txInfo.dataRate.bitRate ∧
        (newTXPKFromTXPacket txPacket).fdev = UInt16.ofInt (txPacket.txInfo.dataRate.bitRate.tdiv 2) := by
    intro hmod
    simp [newTXPKFromTXPacket, newDatRfromDataRate, hmod, loRaModulation_ne_fskModulation]
  constructor
  · rintro ⟨hpowe, hsize, hrate⟩
    refine ⟨uint8_exact_iff.mp hpowe, (size_exact_iff _).mp hsize, fun hmod => ?_⟩
    have hrate := hrate hmod
    rw [(hfsk hmod).1, (hfsk hmod).2] at hrate
    exact (bitRate_exact_iff _).mp hrate
  · rintro ⟨hpower, hsize, hrate⟩
    refine ⟨uint8_exact_iff.mpr hpower, (size_exact_iff _).mpr hsize, fun hmod => ?_⟩
    rw [(hfsk hmod).1, (hfsk hmod).2]
    exact (bitRate_exact_iff _).mpr (hrate hmod)

/-- A downlink of one byte. -/
def sampleDownlink (power : ℤ) (timestamp : UInt32) : TXPacketBytes where
  txInfo := {
    mac := sampleMAC
    timestamp := timestamp
    frequency := 868100000
    power := power
    dataRate := { modulation := loRaModulation, spreadFactor := 7, bandwidth := 125 }
    codeRate := str "4/5" }
  phyPayload := [1]

/-- A power of `-1` dBm is sent as 255 dBm. -/
theorem fields_wrap : ¬ FieldsExact (sampleDownlink (-1) 100) (newTXPKFromTXPacket (sampleDownlink (-1) 100)) := by
  intro h
  exact absurd h.powe (by decide)

/-! ### The JSON object -/

/-- The fields of `TXPK`, with their tags. -/
def TXPK.fields (txpk : TXPK) : List Field :=
  [ { key := str "imme", value := .bool txpk.imme },
    { key := str "tmst", value := .number txpk.tmst.toNat, omitempty := true },
    { key := str "time", value := (txpk.time.map Value.time).getD .null, omitempty := true },
    { key := str "freq", value := .number txpk.freq },
    { key := str "rfch", value := .number txpk.rfch.toNat },
    { key := str "powe", value := .number txpk.powe.toNat },
    { key := str "modu", value := .string txpk.modu },
    { key := str "datr", value := .raw txpk.datr.marshalJSON },
    { key := str "codr", value := .string txpk.codr, omitempty := true },
    { key := str "fdev", value := .number txpk.fdev.toNat, omitempty := true },
    { key := str "ipol", value := .bool txpk.ipol },
    { key := str "prea", value := .number txpk.prea.toNat, omitempty := true },
    { key := str "size", value := .number txpk.size.toNat },
    { key := str "ncrc", value := .bool txpk.ncrc, omitempty := true },
    { key := str "data", value := .string txpk.data } ]

/-- The JSON object of a `txpk`. -/
def TXPK.object (txpk : TXPK) : List (Bytes × Value) := Go.object txpk.fields

/-- The object says when to transmit: at once, at the timestamp asked for, or at some time. -/
def SaysWhen (txPacket : TXPacketBytes) (obj : List (Bytes × Value)) : Prop :=
  (str "imme", .bool true) ∈ obj ∨ (str "tmst", .number txPacket.txInfo.timestamp.toNat) ∈ obj ∨
    ∃ t, (str "time", .time t) ∈ obj

theorem TXPK.nodup_keys (txpk : TXPK) : (txpk.fields.map Field.key).Nodup := by
  have hkeys : (["imme", "tmst", "time", "freq", "rfch", "powe", "modu", "datr", "codr", "fdev", "ipol",
    "prea", "size", "ncrc", "data"].map str).Nodup := by decide
  exact hkeys

variable {txpk : TXPK} {v : Value}

theorem mem_object_imme : (str "imme", v) ∈ txpk.object ↔ v = .bool txpk.imme := by
  have hmem : (⟨str "imme", .bool txpk.imme, false⟩ : Field) ∈ txpk.fields := by simp [TXPK.fields]
  have h := mem_object_of_mem (v := v) txpk.nodup_keys hmem
  simpa [TXPK.object] using h

theorem mem_object_tmst :
    (str "tmst", v) ∈ txpk.object ↔ v = .number txpk.tmst.toNat ∧ txpk.tmst ≠ 0 := by
  have hmem : (⟨str "tmst", .number txpk.tmst.toNat, true⟩ : Field) ∈ txpk.fields := by simp [TXPK.fields]
  have h := mem_object_of_mem (v := v) txpk.nodup_keys hmem
  rw [← UInt32.toNat_inj.ne]
  simpa [TXPK.object, Value.isEmpty] using h

theorem notMem_object_time (htime : txpk.time = none) : (str "time", v) ∉ txpk.object := by
  have hmem : (⟨str "time", .null, true⟩ : Field) ∈ txpk.fields := by simp [TXPK.fields, htime]
  have h := mem_object_of_mem (v := v) txpk.nodup_keys hmem
  intro hobj
  exact absurd ((h.mp hobj).2 rfl) (by decide)

/-- **A PULL_RESP says when to transmit exactly when the downlink is for now, or for a timestamp that is
not zero.** -/
theorem says_when_iff (txPacket : TXPacketBytes) :
    SaysWhen txPacket (newTXPKFromTXPacket txPacket).object ↔
      txPacket.txInfo.immediately = true ∨ txPacket.txInfo.timestamp ≠ 0 := by
  have htime : (newTXPKFromTXPacket txPacket).time = none := rfl
  rw [SaysWhen, mem_object_imme, mem_object_tmst]
  constructor
  · rintro (himme | ⟨-, htmst⟩ | ⟨t, ht⟩)
    · exact .inl (Value.bool.inj himme).symm
    · exact .inr htmst
    · exact absurd ht (notMem_object_time htime)
  · rintro (himme | htmst)
    · exact .inl (congrArg Value.bool himme.symm)
    · exact .inr (.inl ⟨rfl, htmst⟩)

/-- A downlink for the timestamp zero says nothing. -/
theorem says_nothing : ¬ SaysWhen (sampleDownlink 14 0) (newTXPKFromTXPacket (sampleDownlink 14 0)).object := by
  have hnone : ∀ p ∈ (newTXPKFromTXPacket (sampleDownlink 14 0)).object.map Prod.fst,
      p ≠ str "tmst" ∧ p ≠ str "time" := by
    decide
  rintro (himme | htmst | ⟨t, ht⟩)
  · cases mem_object_imme.mp himme
  · exact (hnone _ (List.mem_map_of_mem (f := Prod.fst) htmst)).1 rfl
  · exact (hnone _ (List.mem_map_of_mem (f := Prod.fst) ht)).2 rfl

end GatewayBridge.Semtech
