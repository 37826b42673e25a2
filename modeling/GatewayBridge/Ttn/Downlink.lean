import GatewayBridge.Semtech.Convert
import GatewayBridge.Go.Narrow
import GatewayBridge.Process.Prog

/-!
# Downlinks from the router

The body of the loop that `SubscribeGatewayTX` of `backend/thethingsnetwork/backend.go`
runs for a gateway: a `DownlinkMessage` of the router becomes a `TXPacketBytes` on
`txPacketChan`, or is skipped. The message types and `ParseDataRate` are those of the
vendored package `ttn`; a sub-message is a pointer and may be absent, and the fields
of a message that the loop does not read are left out.

What is proved: `consumeDownlink_iff`, when the loop gets past a message without reading
through a `nil` pointer, and `downlink_translation`, what is left of a message once
`newTXPKFromTXPacket` has turned it into a `TXPK`.
-/

namespace GatewayBridge.Ttn

open GatewayBridge.Go GatewayBridge.Lora GatewayBridge.Process GatewayBridge.Semtech Prog

/-! ### The messages -/

/-- `lorawan.Modulation`: an enumeration of protocol buffers, so any 32-bit number. -/
structure Modulation where
  /-- The number. -/
  value : Int32
  deriving DecidableEq

/-- `Modulation_LORA`. -/
def Modulation.lora : Modulation := ⟨0⟩

/-- `Modulation_FSK`. -/
def Modulation.fsk : Modulation := ⟨1⟩

/-- `Modulation.String`: the name, or the number if it has none. -/
def Modulation.string (m : Modulation) : Bytes :=
  if m = .lora then str "LORA" else if m = .fsk then str "FSK" else formatInt m.value.toInt

/-- `lorawan.TxConfiguration`. -/
structure LorawanTx where
  /-- LoRa or FSK. -/
  modulation : Modulation
  /-- The LoRa data rate, as text. -/
  dataRate : Bytes
  /-- The FSK bit rate. -/
  bitRate : UInt32
  /-- The coding rate. -/
  codingRate : Bytes
  deriving DecidableEq

/-- `protocol.TxConfiguration`: a `oneof` with one alternative. -/
structure ProtocolTx where
  /-- `nil`, or a `TxConfiguration_Lorawan` and its pointer. -/
  protocol : Option (Option LorawanTx)
  deriving DecidableEq

/-- `TxConfiguration.GetLorawan`, which can be called on a `nil` pointer. -/
def getLorawan (m : Option ProtocolTx) : Option LorawanTx :=
  match m with
  | some ⟨some lorawan⟩ => lorawan
  | _ => none

/-- `gateway.TxConfiguration`. -/
structure GatewayTx where
  /-- When to send. -/
  timestamp : UInt32
  /-- The RF chain to send on. -/
  rfChain : UInt32
  /-- Frequency in Hz. -/
  frequency : UInt64
  /-- Power in dBm. -/
  power : Int32
  /-- Whether to invert the polarization (LoRa). -/
  polarizationInversion : Bool
  /-- The frequency deviation in Hz (FSK). -/
  frequencyDeviation : UInt32
  deriving DecidableEq

/-- `router.DownlinkMessage`. -/
structure DownlinkMessage where
  /-- What to send. -/
  payload : Bytes
  /-- How to modulate it. -/
  protocolConfiguration : Option ProtocolTx
  /-- How the gateway is to send it. -/
  gatewayConfiguration : Option GatewayTx
  deriving DecidableEq

/-! ### Data rates -/

/-- `types.DataRate`. -/
structure LoRaRate where
  /-- Spreading factor. -/
  spreadingFactor : ℕ
  /-- Bandwidth in kHz. -/
  bandwidth : ℕ
  deriving DecidableEq

/-- `SF(7|8|9|10|11|12)BW(125|250|500)` at the start of a string. -/
def matchDataRate (s : Bytes) : Option (Bytes × Bytes) := do
  let s ← literal (str "SF") s
  let (sf, s) ← oneOf [str "7", str "8", str "9", str "10", str "11", str "12"] s
  let s ← literal (str "BW") s
  let (bw, _) ← oneOf [str "125", str "250", str "500"] s
  some (sf, bw)

/-- `types.ParseDataRate`: a data rate, or an error and a `nil` pointer. -/
def parseDataRate (input : Bytes) : Except Bytes LoRaRate :=
  match leftmost matchDataRate input with
  | none => .error (str "ttn/core: Invalid DataRate")
  | some (sf, bw) => .ok ⟨digitsValue sf, digitsValue bw⟩

/-! ### The loop body -/

/-- What the loop does. -/
inductive DownlinkEff where
  /-- `b.txPacketChan <- txPacket`. -/
  | txSend (txPacket : TXPacketBytes)

/-- The answers. -/
abbrev DownlinkEff.Resp : DownlinkEff → Type
  | .txSend _ => Unit

/-- The data rate of a downlink. The error of `ParseDataRate` is not looked at. -/
def downlinkDataRate (lora : LorawanTx) : Except (Fault Empty) DataRate :=
  if lora.modulation = .lora then do
    let dr ← deref (parseDataRate lora.dataRate).toOption
    .ok { modulation := loRaModulation, spreadFactor := dr.spreadingFactor, bandwidth := dr.bandwidth }
  else if lora.modulation = .fsk then
    .ok { modulation := fskModulation, bitRate := lora.bitRate.toNat }
  else .ok {}

/-- The packet for a gateway. `IPol` is not set. -/
def downlinkPacket (mac : EUI64) (payload : Bytes) (lora : LorawanTx) (dataRate : DataRate)
    (gatewayConfiguration : GatewayTx) : TXPacketBytes where
  txInfo := {
    mac := mac
    timestamp := gatewayConfiguration.timestamp
    frequency := gatewayConfiguration.frequency.toInt64.toInt
    power := gatewayConfiguration.power.toInt
    dataRate := dataRate
    codeRate := lora.codingRate }
  phyPayload := payload

/-- The body of the loop over `gtw.downlink.Channel()`; `continue` ends it. -/
def consumeDownlink (mac : EUI64) (message : DownlinkMessage) :
    GoProg Empty DownlinkEff DownlinkEff.Resp Unit := do
  match getLorawan message.protocolConfiguration with
  | none => lift (.ok ())
  | some lora =>
      let dataRate ← lift (downlinkDataRate lora)
      let gatewayConfiguration ← lift (deref message.gatewayConfiguration)
      perform (DownlinkEff.txSend
        (downlinkPacket mac message.payload lora dataRate gatewayConfiguration))

/-- A send on `txPacketChan` is performed when it is received. -/
def downlinkSem : (e : DownlinkEff) → Unit → e.Resp → Unit → Prop := fun _ _ _ _ => True

/-! ### Messages that are skipped, sent on, or fatal -/

variable {mac : EUI64} {message : DownlinkMessage} {lora : LorawanTx}

/-- The data rate is read through a `nil` pointer if it is LoRa and does not parse. -/
theorem downlinkDataRate_cases (lora : LorawanTx) :
    ((lora.modulation = .lora → ∃ dr, parseDataRate lora.dataRate = .ok dr) ∧
      ∃ dataRate, downlinkDataRate lora = .ok dataRate) ∨
    ((lora.modulation = .lora ∧ ∀ dr, parseDataRate lora.dataRate ≠ .ok dr) ∧
      downlinkDataRate lora = .error (.panic .nilDereference)) := by
  unfold downlinkDataRate
  by_cases hlora : lora.modulation = .lora
  · rw [if_pos hlora]
    cases hdr : parseDataRate lora.dataRate with
    | ok dr => exact .inl ⟨fun _ => ⟨dr, rfl⟩, _, rfl⟩
    | error e => exact .inr ⟨⟨hlora, nofun⟩, rfl⟩
  · rw [if_neg hlora]
    refine .inl ⟨fun h => absurd h hlora, ?_⟩
    split_ifs
    · exact ⟨_, rfl⟩
    · exact ⟨_, rfl⟩

theorem consumeDownlink_of_none (h : getLorawan message.protocolConfiguration = none) :
    (consumeDownlink mac message).run = .ret (.ok ()) := by
  rw [consumeDownlink, h]
  rfl

theorem consumeDownlink_of_some {dataRate : DataRate} {gatewayConfiguration : GatewayTx}
    (h : getLorawan message.protocolConfiguration = some lora) (hdr : downlinkDataRate lora = .ok dataRate)
    (hgw : message.gatewayConfiguration = some gatewayConfiguration) :
    (consumeDownlink mac message).run =
      .eff (.txSend (downlinkPacket mac message.payload lora dataRate gatewayConfiguration)) fun _ =>
        .ret (.ok ()) := by
  rw [consumeDownlink, h]
  dsimp only
  rw [hdr, hgw]
  rfl

theorem consumeDownlink_of_panic (h : getLorawan message.protocolConfiguration = some lora)
    (hnil : downlinkDataRate lora = .error (.panic .nilDereference) ∨ message.gatewayConfiguration = none) :
    (consumeDownlink mac message).run = .ret (.error (.panic .nilDereference)) := by
  rw [consumeDownlink, h]
  dsimp only
  rcases hnil with hdr | hgw
  · rw [hdr]
    rfl
  · rcases downlinkDataRate_cases lora with ⟨-, dataRate, hdr⟩ | ⟨-, hdr⟩
    · rw [hdr, hgw]
      rfl
    · rw [hdr]
      rfl

/-- **The loop gets past a message, skipping it or sending one packet on, exactly when the message has no
LoRaWAN configuration, or has a gateway configuration and, for LoRa, a data rate that parses.** -/
theorem consumeDownlink_iff (mac : EUI64) (message : DownlinkMessage) :
    (∃ tr r, Runs downlinkSem (consumeDownlink mac message).run () tr r ()) ∧
      ∀ tr r, Runs downlinkSem (consumeDownlink mac message).run () tr r () →
        (r = .ok () ∧ (tr = [] ∨ ∃ txPacket, tr = [⟨.txSend txPacket, ()⟩]) ↔
          ∀ lora, getLorawan message.protocolConfiguration = some lora →
            message.gatewayConfiguration ≠ none ∧
              (lora.modulation = .lora → ∃ dr, parseDataRate lora.dataRate = .ok dr)) := by
  constructor
  · have htotal : ∀ e, True → ∀ s, ∃ r s', downlinkSem e s r s' := fun _ _ _ => ⟨(), (), trivial⟩
    obtain ⟨tr, r, ⟨⟩, h⟩ := exists_runs htotal (uses_of_forall (fun _ => trivial) _) ()
    exact ⟨tr, r, h⟩
  intro tr r h
  cases hlora : getLorawan message.protocolConfiguration with
  | none =>
    rw [consumeDownlink_of_none hlora] at h
    obtain ⟨rfl, rfl, -⟩ := runs_ret_iff.mp h
    exact iff_of_true ⟨rfl, .inl rfl⟩ nofun
  | some lora =>
    simp only [Option.some.injEq, forall_eq']
    rcases downlinkDataRate_cases lora with ⟨hparse, dataRate, hdr⟩ | ⟨⟨hmod, hparse⟩, hdr⟩
    · cases hgw : message.gatewayConfiguration with
      | some gatewayConfiguration =>
        rw [consumeDownlink_of_some hlora hdr hgw] at h
        obtain ⟨⟨⟩, _, _, -, rfl, hk⟩ := runs_eff_iff.mp h
        obtain ⟨rfl, rfl, -⟩ := runs_ret_iff.mp hk
        exact iff_of_true ⟨rfl, .inr ⟨_, rfl⟩⟩ ⟨nofun, hparse⟩
      | none =>
        rw [consumeDownlink_of_panic hlora (.inr hgw)] at h
        obtain ⟨-, rfl, -⟩ := runs_ret_iff.mp h
        exact iff_of_false (fun hr => nomatch hr.1) fun hm => hm.1 rfl
    · rw [consumeDownlink_of_panic hlora (.inl hdr)] at h
      obtain ⟨-, rfl, -⟩ := runs_ret_iff.mp h
      refine iff_of_false (fun hr => nomatch hr.1) fun hm => ?_
      obtain ⟨dr, hok⟩ := hm.2 hmod
      exact hparse dr hok

/-- A downlink as the router sends it, with a data rate. -/
def sampleDownlink (dataRate : Bytes) : DownlinkMessage where
  payload := [1, 2, 3, 4, 5, 6, 7, 8]
  protocolConfiguration := some ⟨some (some ⟨.lora, dataRate, 0, str "4/5"⟩)⟩
  gatewayConfiguration := some ⟨12345, 0, 868100000, 14, true, 0⟩

/-- With a data rate of LoRaWAN, the message is sent on or skipped. -/
theorem consumeDownlink_sf7 :
    ∃ tr, Runs downlinkSem (consumeDownlink sampleMAC (sampleDownlink (str "SF7BW125"))).run () tr (.ok ()) () ∧
      (tr = [] ∨ ∃ txPacket, tr = [⟨.txSend txPacket, ()⟩]) := by
  obtain ⟨⟨tr, r, h⟩, hiff⟩ := consumeDownlink_iff sampleMAC (sampleDownlink (str "SF7BW125"))
  have hparse : parseDataRate (str "SF7BW125") = .ok ⟨7, 125⟩ := by decide
  obtain ⟨rfl, htr⟩ := (hiff tr r h).mpr fun lora hlora => by
    cases hlora
    exact ⟨nofun, fun _ => ⟨_, hparse⟩⟩
  exact ⟨tr, h, htr⟩

/-- A LoRa message without a data rate ends the process. -/
theorem consumeDownlink_panics_without_dataRate :
    ∃ tr, Runs downlinkSem (consumeDownlink sampleMAC (sampleDownlink [])).run () tr
      (.error (.panic .nilDereference)) () := by
  have hdr : downlinkDataRate ⟨.lora, [], 0, str "4/5"⟩ = .error (.panic .nilDereference) := rfl
  refine ⟨[], ?_⟩
  rw [consumeDownlink_of_panic rfl (.inl hdr)]
  exact .ret

/-! ### From the router to the gateway -/

/-- The data rates of LoRaWAN, as text. -/
def IsDataRate (dataRate : Bytes) : Prop :=
  ∃ sf ∈ [7, 8, 9, 10, 11, 12], ∃ bw ∈ [125, 250, 500], dataRate = loRaDataRateText sf bw

/-- A downlink that is well formed, with its two configurations. -/
structure WellFormed (message : DownlinkMessage) (lora : LorawanTx) (gatewayConfiguration : GatewayTx) :
    Prop where
  /-- The LoRaWAN configuration is present. -/
  lorawan : getLorawan message.protocolConfiguration = some lora
  /-- The gateway configuration is present. -/
  gateway : message.gatewayConfiguration = some gatewayConfiguration
  /-- LoRa with a data rate of LoRaWAN, or FSK with an even bit rate that can be halved into 16 bits. -/
  rate : (lora.modulation = .lora ∧ IsDataRate lora.dataRate) ∨
    (lora.modulation = .fsk ∧ 2 ∣ lora.bitRate.toNat ∧ 1 ≤ lora.bitRate.toNat ∧ lora.bitRate.toNat ≤ 131070)
  /-- The power fits in 8 bits. -/
  power : 0 ≤ gatewayConfiguration.power.toInt ∧ gatewayConfiguration.power.toInt ≤ 255
  /-- The time of transmission is given. -/
  timestamp : 0 < gatewayConfiguration.timestamp
  /-- The size of the payload fits in 16 bits. -/
  payload : message.payload.length < 65536

theorem parseDataRate_text :
    ∀ sf ∈ [7, 8, 9, 10, 11, 12], ∀ bw ∈ [125, 250, 500],
      parseDataRate (loRaDataRateText sf bw) = .ok ⟨sf.toNat, bw.toNat⟩ := by
  decide

theorem ofInt_toNat_uint32 (v : UInt32) : UInt32.ofInt v.toNat = v := by
  have h := v.toNat_lt
  apply UInt32.toNat_inj.mp
  exact Int.ofNat_inj.mp (uint32_exact_iff.mpr ⟨by omega, by omega⟩)

theorem toNat_half_uint16 {n : ℕ} (h₂ : 2 ∣ n) (h : n ≤ 131070) :
    2 * (UInt16.ofInt ((n : ℤ).tdiv 2)).toNat = n := by
  obtain ⟨m, rfl⟩ := h₂
  have hdiv : ((2 * m : ℕ) : ℤ).tdiv 2 = m := by
    rw [Nat.cast_mul]
    exact Int.mul_tdiv_cancel_left _ (by decide)
  have hm : ((UInt16.ofInt (m : ℤ)).toNat : ℤ) = m := uint16_exact_iff.mpr ⟨by omega, by omega⟩
  rw [hdiv]
  omega

/-- A data rate of LoRaWAN is read, and written back as it was. -/
theorem downlinkDataRate_lora (hmod : lora.modulation = .lora) (hrate : IsDataRate lora.dataRate) :
    ∃ dataRate, downlinkDataRate lora = .ok dataRate ∧ dataRate.modulation = loRaModulation ∧
      newDatRfromDataRate dataRate = { loRa := lora.dataRate } := by
  obtain ⟨sf, hsf, bw, hbw, htext⟩ := hrate
  have hpos : ∀ sf ∈ [7, 8, 9, 10, 11, 12], ∀ bw ∈ [125, 250, 500],
      ((sf.toNat : ℤ) = sf ∧ (bw.toNat : ℤ) = bw) := by decide
  obtain ⟨hsf', hbw'⟩ := hpos sf hsf bw hbw
  refine ⟨{ modulation := loRaModulation, spreadFactor := sf, bandwidth := bw }, ?_, rfl, ?_⟩
  · rw [downlinkDataRate, if_pos hmod, htext, parseDataRate_text sf hsf bw hbw]
    simp only [Except.toOption, deref_some, ok_bind, hsf', hbw']
  · rw [newDatRfromDataRate, if_pos rfl, htext]

theorem downlinkDataRate_fsk (hmod : lora.modulation = .fsk) :
    downlinkDataRate lora = .ok { modulation := fskModulation, bitRate := lora.bitRate.toNat } := by
  have hne : lora.modulation ≠ .lora := by
    rw [hmod]
    decide
  rw [downlinkDataRate, if_neg hne, if_pos hmod]

/-- What the fields of a `TXPK` say of the downlink it was made from. -/
structure Translates (message : DownlinkMessage) (lora : LorawanTx) (gatewayConfiguration : GatewayTx)
    (txpk : TXPK) : Prop where
  tmst : txpk.tmst = gatewayConfiguration.timestamp
  powe : (txpk.powe.toNat : ℤ) = gatewayConfiguration.power.toInt
  modu : txpk.modu = lora.modulation.string
  datr : txpk.datr =
    if lora.modulation = .lora then { loRa := lora.dataRate } else { fsk := lora.bitRate }
  codr : txpk.codr = lora.codingRate
  size : txpk.size.toNat = message.payload.length
  data : Base64.decodeString txpk.data = .ok message.payload

/-- What does not depend on the modulation. -/
theorem translates_of_rate {dataRate : DataRate} {gatewayConfiguration : GatewayTx}
    (h : WellFormed message lora gatewayConfiguration) (hmod : dataRate.modulation = lora.modulation.string)
    (hdatr : newDatRfromDataRate dataRate =
      if lora.modulation = .lora then { loRa := lora.dataRate } else { fsk := lora.bitRate }) :
    Translates message lora gatewayConfiguration
      (newTXPKFromTXPacket (downlinkPacket mac message.payload lora dataRate gatewayConfiguration)) where
  tmst := rfl
  powe := uint8_exact_iff.mpr ⟨h.power.1, Int.lt_add_one_of_le h.power.2⟩
  modu := hmod
  datr := hdatr
  codr := rfl
  size := by
    have hlt : message.payload.length < 65536 := h.payload
    change (UInt16.ofNat message.payload.length).toNat = _
    rw [UInt16.toNat_ofNat', Nat.mod_eq_of_lt hlt]
  data := Base64.decodeString_encodeToString message.payload

/-- **A well-formed downlink reaches the gateway as the router described it**: with its timestamp, power,
modulation, data rate, coding rate, size and payload. The RF chain is always 0, the polarization is the
default of the modulation, and the frequency deviation of FSK is half the bit rate. -/
theorem downlink_translation (mac : EUI64) {gatewayConfiguration : GatewayTx}
    (h : WellFormed message lora gatewayConfiguration) :
    ∃ txPacket, (consumeDownlink mac message).run = .eff (.txSend txPacket) (fun _ => .ret (.ok ())) ∧
      let txpk := newTXPKFromTXPacket txPacket
      Translates message lora gatewayConfiguration txpk ∧
      txpk.rfch = 0 ∧
      txpk.ipol = decide (lora.modulation = .lora) ∧
      (lora.modulation = .fsk → 2 * txpk.fdev.toNat = lora.bitRate.toNat) := by
  rcases h.rate with ⟨hmod, hrate⟩ | ⟨hmod, heven, -, hmax⟩
  · obtain ⟨dataRate, hdr, hmodu, hdatr⟩ := downlinkDataRate_lora hmod hrate
    refine ⟨_, consumeDownlink_of_some h.lorawan hdr h.gateway, translates_of_rate h ?_ ?_, rfl, ?_, ?_⟩
    · rw [hmodu, hmod]
      rfl
    · rw [hdatr, if_pos hmod]
    · rw [hmod]
      exact decide_eq_true hmodu
    · rw [hmod]
      intro hne
      cases hne
  · have hdr := downlinkDataRate_fsk hmod
    refine ⟨_, consumeDownlink_of_some h.lorawan hdr h.gateway, translates_of_rate h ?_ ?_, rfl, ?_, ?_⟩
    · rw [hmod]
      rfl
    · rw [hmod, if_neg (by decide), newDatRfromDataRate,
        if_neg (show fskModulation ≠ loRaModulation by decide), ofInt_toNat_uint32]
    · rw [hmod]
      rfl
    · intro _
      exact toNat_half_uint16 heven hmax

/-- A LoRa downlink at SF7, through both conversions. -/
theorem downlink_translation_sf7 :
    ∃ txPacket, (consumeDownlink sampleMAC (sampleDownlink (str "SF7BW125"))).run =
        .eff (.txSend txPacket) (fun _ => .ret (.ok ())) ∧
      (newTXPKFromTXPacket txPacket).datr = { loRa := str "SF7BW125" } := by
  have h : WellFormed (sampleDownlink (str "SF7BW125")) ⟨.lora, str "SF7BW125", 0, str "4/5"⟩
      ⟨12345, 0, 868100000, 14, true, 0⟩ :=
    ⟨rfl, rfl, .inl ⟨rfl, 7, by decide, 125, by decide, by decide⟩, by decide, by decide, by decide⟩
  obtain ⟨txPacket, hrun, htranslates, -⟩ := downlink_translation sampleMAC h
  exact ⟨txPacket, hrun, htranslates.datr⟩

/-- A LoRa downlink for RF chain 1 without inverted polarization, and an FSK downlink with a frequency
deviation of 10 kHz: neither the RF chain, nor the polarization, nor the deviation arrives. -/
theorem downlink_drops_fields :
    (∃ message lora gatewayConfiguration txPacket, WellFormed message lora gatewayConfiguration ∧
      (consumeDownlink sampleMAC message).run = .eff (.txSend txPacket) (fun _ => .ret (.ok ())) ∧
      ((newTXPKFromTXPacket txPacket).rfch.toNat ≠ gatewayConfiguration.rfChain.toNat ∧
        (newTXPKFromTXPacket txPacket).ipol ≠ gatewayConfiguration.polarizationInversion)) ∧
    ∃ message lora gatewayConfiguration txPacket, WellFormed message lora gatewayConfiguration ∧
      (consumeDownlink sampleMAC message).run = .eff (.txSend txPacket) (fun _ => .ret (.ok ())) ∧
      (lora.modulation = .fsk ∧ gatewayConfiguration.frequencyDeviation ≠ 0 ∧
        (newTXPKFromTXPacket txPacket).fdev.toNat ≠ gatewayConfiguration.frequencyDeviation.toNat) := by
  have hlora : downlinkDataRate ⟨.lora, str "SF7BW125", 0, str "4/5"⟩ =
    .ok { modulation := loRaModulation, spreadFactor := 7, bandwidth := 125 } := by decide
  constructor
  · refine ⟨⟨[1, 2], some ⟨some (some ⟨.lora, str "SF7BW125", 0, str "4/5"⟩)⟩,
      some ⟨12345, 1, 868100000, 14, false, 0⟩⟩, _, _, _, ⟨rfl, rfl, .inl ⟨rfl, 7, by decide, 125, by decide, ?_⟩,
        by decide, by decide, by decide⟩, consumeDownlink_of_some rfl hlora rfl, by decide, by decide⟩
    decide
  · exact ⟨⟨[1, 2], some ⟨some (some ⟨.fsk, [], 50000, []⟩)⟩, some ⟨12345, 0, 868800000, 14, false, 10000⟩⟩,
      _, _, _, ⟨rfl, rfl, .inr ⟨rfl, by decide, by decide, by decide⟩, by decide, by decide, by decide⟩,
      consumeDownlink_of_some rfl (downlinkDataRate_fsk rfl) rfl, rfl, by decide, by decide⟩

end GatewayBridge.Ttn
