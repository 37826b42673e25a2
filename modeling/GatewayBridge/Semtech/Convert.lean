import GatewayBridge.Semtech.Structs
import GatewayBridge.Go.Base64
import GatewayBridge.Go.Float

/-!
# Conversions

The functions of `gateway/backend.go` and `gateway/ip.go` that turn the packets of
the Semtech protocol into those of the bridge and back, with the conversions
between numeric types that the source makes: `uint8`, `uint16` and `uint32` keep
the low bits, `int` of a `float64` drops what is after the point.
-/

namespace GatewayBridge.Semtech

open GatewayBridge.Go GatewayBridge.Lora

/-! ### Data rates -/

/-- `SF(\\d+)BW(\\d+)` at the start of a string: the two numbers. -/
def matchLoRaDataRate (s : Bytes) : Option (Bytes × Bytes) := do
  let s ← literal (str "SF") s
  let (sf, s) ← digits s
  let s ← literal (str "BW") s
  let (bw, _) ← digits s
  some (sf, bw)

/-- `newDataRateFromDatR`. -/
def newDataRateFromDatR (d : DatR) : Except DatRError DataRate :=
  if d.loRa ≠ [] then
    match leftmost matchLoRaDataRate d.loRa with
    | none => .error .parse
    | some (sfText, bwText) =>
        match atoi sfText with
        | .error e => .error (.spreadFactor sfText e)
        | .ok sf =>
            match atoi bwText with
            | .error e => .error (.bandwidth bwText e)
            | .ok bw => .ok { modulation := loRaModulation, spreadFactor := sf, bandwidth := bw }
  else if d.fsk ≠ 0 then .ok { modulation := fskModulation, bitRate := d.fsk.toNat }
  else .error .empty

/-- `fmt.Sprintf("SF%dBW%d", …)`. -/
def loRaDataRateText (spreadFactor bandwidth : ℤ) : Bytes :=
  str "SF" ++ formatInt spreadFactor ++ str "BW" ++ formatInt bandwidth

/-- `newDatRfromDataRate`. -/
def newDatRfromDataRate (d : DataRate) : DatR :=
  if d.modulation = loRaModulation then { loRa := loRaDataRateText d.spreadFactor d.bandwidth }
  else { fsk := UInt32.ofInt d.bitRate }

/-! ### Uplinks and downlinks -/

/-- `newRXPacketFromRXPK`. -/
def newRXPacketFromRXPK (mac : EUI64) (rxpk : RXPK) : Except GwError RXPacketBytes :=
  match newDataRateFromDatR rxpk.datr with
  | .error e => .error (.dataRate e)
  | .ok dataRate =>
      match Base64.decodeString rxpk.data with
      | .error n => .error (.base64 n)
      | .ok b =>
          .ok {
            phyPayload := b
            rxInfo := {
              mac := mac
              time := rxpk.time
              timestamp := rxpk.tmst
              frequency := truncInt (float64 (rxpk.freq * 1000000))
              channel := rxpk.chan.toNat
              rfChain := rxpk.rfch.toNat
              crcStatus := rxpk.stat.toInt
              dataRate := dataRate
              codeRate := rxpk.codr
              rssi := rxpk.rssi.toInt
              loRaSNR := rxpk.lsnr
              size := rxpk.size.toNat } }

/-- What a converted entry takes from the datagram and from the entry. -/
theorem newRXPacketFromRXPK_eq_ok {mac : EUI64} {rxpk : RXPK} {rxPacket : RXPacketBytes}
    (h : newRXPacketFromRXPK mac rxpk = .ok rxPacket) :
    rxPacket.rxInfo.mac = mac ∧ rxPacket.rxInfo.crcStatus = rxpk.stat.toInt ∧
      rxPacket.rxInfo.time = rxpk.time ∧
      rxPacket.rxInfo.frequency = truncInt (float64 (rxpk.freq * 1000000)) := by
  unfold newRXPacketFromRXPK at h
  split at h
  · cases h
  · split at h
    · cases h
    · cases h
      exact ⟨rfl, rfl, rfl, rfl⟩

/-- `newTXPKFromTXPacket`. It returns no error. -/
def newTXPKFromTXPacket (txPacket : TXPacketBytes) : TXPK where
  imme := txPacket.txInfo.immediately
  tmst := txPacket.txInfo.timestamp
  freq := float64 (float64 txPacket.txInfo.frequency / 1000000)
  powe := UInt8.ofInt txPacket.txInfo.power
  modu := txPacket.txInfo.dataRate.modulation
  datr := newDatRfromDataRate txPacket.txInfo.dataRate
  codr := txPacket.txInfo.codeRate
  size := UInt16.ofNat txPacket.phyPayload.length
  data := Base64.encodeToString txPacket.phyPayload
  fdev :=
    if txPacket.txInfo.dataRate.modulation = fskModulation then
      UInt16.ofInt (txPacket.txInfo.dataRate.bitRate.tdiv 2)
    else 0
  ipol :=
    match txPacket.txInfo.iPol with
    | some iPol => iPol
    -- by default IPol=true is used for downlink LoRa modulation
    | none => txPacket.txInfo.dataRate.modulation = loRaModulation

/-! ### Addresses -/

/-- `net.IP`: four bytes, or sixteen. -/
abbrev IP := Bytes

/-- `net.UDPAddr`. -/
structure UDPAddr where
  /-- The address. -/
  ip : IP
  /-- The port. -/
  port : ℕ
  /-- The zone of an IPv6 address. -/
  zone : Bytes := []
  deriving DecidableEq

namespace IP

/-- `IP.To4`: the four bytes of an IPv4 address, in either form. -/
def to4 (ip : IP) : Option Bytes :=
  if ip.length = 4 then some ip
  else if ip.length = 16 ∧ ip.take 12 = List.replicate 10 0 ++ [255, 255] then some (ip.drop 12)
  else none

/-- The 16-bit groups of an IPv6 address. -/
def groups : IP → List ℕ
  | hi :: lo :: rest => (256 * hi.toNat + lo.toNat) :: groups rest
  | _ => []

/-- How many zero groups there are from group `i` on. -/
def zeroRun (gs : List ℕ) (i : ℕ) : ℕ := ((gs.drop i).takeWhile (· = 0)).length

/-- The first group of the longest run of zero groups, the leftmost of equal ones. -/
def longestRun (gs : List ℕ) : ℕ :=
  (List.range gs.length).foldl (fun e i => if zeroRun gs e < zeroRun gs i then i else e) 0

/-- Groups in hexadecimal, with colons between them. -/
def joinGroups (gs : List ℕ) : Bytes := (str ":").intercalate (gs.map formatHex)

/-- `IP.String`. -/
def string (ip : IP) : Bytes :=
  match to4 ip with
  | some p4 => (str ".").intercalate (p4.map fun b => formatNat b.toNat)
  | none =>
      if ip = [] then str "<nil>"
      else if ip.length ≠ 16 then str "?" ++ hexString ip
      else
        let gs := groups ip
        let e₀ := longestRun gs
        -- `::` must not be used to shorten just one group
        if zeroRun gs e₀ < 2 then joinGroups gs
        else joinGroups (gs.take e₀) ++ str "::" ++ joinGroups (gs.drop (e₀ + zeroRun gs e₀))

end IP

/-! ### Statistics -/

/-- `newGatewayStatsPacket`. -/
def newGatewayStatsPacket (mac : EUI64) (stat : Stat) : GatewayStatsPacket where
  time := stat.time
  mac := mac
  latitude := stat.lati
  longitude := stat.long
  altitude := stat.alti.toInt
  rxPacketsReceived := stat.rxnb.toNat
  rxPacketsReceivedOK := stat.rxok.toNat
  customData :=
    ((((∅ : Finmap fun _ : Bytes => CustomValue).insert (str "platform") (.string stat.pfrm)).insert
      (str "contactEmail") (.string stat.mail)).insert
      (str "description") (.string stat.desc)).insert (str "ip") (.strings [])

/-- `addIPToGatewayStatsPacket`. -/
def addIPToGatewayStatsPacket (stat : GatewayStatsPacket) (ip : IP) : GatewayStatsPacket :=
  let setIPs (ips : List Bytes) :=
    { stat with customData := stat.customData.insert (str "ip") (.strings ips) }
  match stat.customData.lookup (str "ip") with
  | some (.strings existingIPs) =>
      if IP.string ip ∈ existingIPs then stat else setIPs (existingIPs ++ [IP.string ip])
  -- no `ip` entry, or one of another type: `ips` stays `nil`
  | _ => setIPs []

@[simp] theorem addIPToGatewayStatsPacket_mac (stat : GatewayStatsPacket) (ip : IP) :
    (addIPToGatewayStatsPacket stat ip).mac = stat.mac := by
  unfold addIPToGatewayStatsPacket
  split
  · split_ifs <;> rfl
  · rfl

@[simp] theorem addIPToGatewayStatsPacket_time (stat : GatewayStatsPacket) (ip : IP) :
    (addIPToGatewayStatsPacket stat ip).time = stat.time := by
  unfold addIPToGatewayStatsPacket
  split
  · split_ifs <;> rfl
  · rfl

example : IP.string [127, 0, 0, 1] = str "127.0.0.1" := by decide

example : IP.string [0x20, 1, 0xd, 0xb8, 0, 0, 0, 0, 0, 1, 0, 0, 0, 0, 0, 1] =
    str "2001:db8::1:0:0:1" := by decide

end GatewayBridge.Semtech
