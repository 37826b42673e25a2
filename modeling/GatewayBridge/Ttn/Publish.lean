import GatewayBridge.Ttn.Downlink
import GatewayBridge.Semtech.DataRate

/-!
# What the router is told

The messages that `backend/thethingsnetwork/backend.go` sends to the router: an
uplink, made by `convertRXPacket`, and a status, made by `convertStatsPacket` and
completed in `PublishGatewayStats` with what the account server knows of the
gateway. The message types are those of the vendored packages `ttn` and
`go-account-lib`; fields that the bridge neither sets nor reads are left out.
-/

namespace GatewayBridge.Ttn

open GatewayBridge.Go GatewayBridge.Lora GatewayBridge.Semtech

/-! ### Uplinks -/

/-- `lorawan.Metadata`. -/
structure LorawanRx where
  /-- LoRa or FSK. -/
  modulation : Modulation
  /-- The LoRa data rate, as text. -/
  dataRate : Bytes
  /-- The FSK bit rate. -/
  bitRate : UInt32
  /-- The coding rate. -/
  codingRate : Bytes
  deriving DecidableEq

/-- `gateway.RxMetadata`. -/
structure GatewayRx where
  /-- The gateway, as the router knows it. -/
  gatewayId : Bytes
  /-- The internal timestamp of the gateway, in microseconds. -/
  timestamp : UInt32
  /-- Receive time, in nanoseconds since the Unix epoch. -/
  time : Int64
  /-- RF chain. -/
  rfChain : UInt32
  /-- Concentrator IF channel. -/
  channel : UInt32
  /-- Frequency in Hz. -/
  frequency : UInt64
  /-- RSSI in dBm. -/
  rssi : Single
  /-- Signal-to-noise ratio in dB. -/
  snr : Single
  deriving DecidableEq

/-- `router.UplinkMessage`. -/
structure UplinkMessage where
  /-- What was received. -/
  payload : Bytes
  /-- How it was modulated. -/
  protocolMetadata : LorawanRx
  /-- How the gateway received it. -/
  gatewayMetadata : GatewayRx
  deriving DecidableEq

/-- `fmt.Sprintf("eui-%s", mac)`. -/
def euiId (mac : EUI64) : Bytes := str "eui-" ++ mac.string

/-- The modulation of an uplink, its data rate and its bit rate. -/
def uplinkModulation (d : DataRate) : Modulation × Bytes × UInt32 :=
  if d.modulation = loRaModulation then (.lora, loRaDataRateText d.spreadFactor d.bandwidth, 0)
  else if d.modulation = fskModulation then (.fsk, [], UInt32.ofInt d.bitRate)
  else (⟨0⟩, [], 0)

/-- `Backend.convertRXPacket`, at the time `now`. A receive time more than a minute away is not
believed. -/
def convertRXPacket (now : Time) (rxPacket : RXPacketBytes) : UplinkMessage :=
  let (modulation, dataRate, bitRate) := uplinkModulation rxPacket.rxInfo.dataRate
  let time := if |seconds (subTime rxPacket.rxInfo.time now)| > 60 then 0 else rxPacket.rxInfo.time
  { payload := rxPacket.phyPayload
    protocolMetadata := {
      modulation := modulation
      dataRate := dataRate
      bitRate := bitRate
      codingRate := rxPacket.rxInfo.codeRate }
    gatewayMetadata := {
      gatewayId := euiId rxPacket.rxInfo.mac
      timestamp := rxPacket.rxInfo.timestamp
      time := unixNano time
      rfChain := UInt32.ofInt rxPacket.rxInfo.rfChain
      channel := UInt32.ofInt rxPacket.rxInfo.channel
      frequency := UInt64.ofInt rxPacket.rxInfo.frequency
      rssi := float32 rxPacket.rxInfo.rssi
      snr := float32 rxPacket.rxInfo.loRaSNR } }

/-! ### The data rate of an uplink -/

/-- The data rate that the metadata of an uplink names, as a `DatR`. -/
def metadataDatR (uplink : UplinkMessage) : DatR :=
  ⟨uplink.protocolMetadata.dataRate, uplink.protocolMetadata.bitRate⟩

/-- The metadata of an uplink names the data rate as `newDatRfromDataRate` does. -/
theorem metadataDatR_convertRXPacket {rxPacket : RXPacketBytes} (now : Time)
    (h : Expressible rxPacket.rxInfo.dataRate) :
    metadataDatR (convertRXPacket now rxPacket) = newDatRfromDataRate rxPacket.rxInfo.dataRate := by
  rcases h with ⟨sf, bw, -, -, hdr⟩ | ⟨n, -, -, hdr⟩
  · simp only [metadataDatR, convertRXPacket, uplinkModulation, newDatRfromDataRate, hdr, loRa, if_true]
  · simp only [metadataDatR, convertRXPacket, uplinkModulation, newDatRfromDataRate, hdr, fsk,
      loRaModulation_ne_fskModulation, if_false, if_true]

/-- **The round trip of data rates.** A data rate that a `DatR` can stand for is read back from its JSON;
so is every data rate that `newDataRateFromDatR` makes of any `DatR`; and what `convertRXPacket` tells
the router stands for the data rate of the uplink. -/
theorem data_rate_round_trip :
    (∀ dr, Expressible dr → decodeDatR (newDatRfromDataRate dr).marshalJSON = .ok dr) ∧
    ∀ d dr, newDataRateFromDatR d = .ok dr →
      decodeDatR (newDatRfromDataRate dr).marshalJSON = .ok dr ∧
      ∀ now rxPacket, rxPacket.rxInfo.dataRate = dr →
        newDataRateFromDatR (metadataDatR (convertRXPacket now rxPacket)) = .ok dr := by
  refine ⟨fun dr hdr => decodeDatR_encode hdr, fun d dr hd => ?_⟩
  have hdr := expressible_of_newDataRateFromDatR hd
  refine ⟨decodeDatR_encode hdr, ?_⟩
  rintro now rxPacket rfl
  rw [metadataDatR_convertRXPacket now hdr]
  exact newDataRateFromDatR_newDatRfromDataRate hdr

/-- A spread factor with a leading zero, and text around it. -/
theorem data_rate_round_trip_zero :
    newDataRateFromDatR { loRa := str "xSF07BW125y" } = .ok (loRa 7 125) ∧
      decodeDatR (newDatRfromDataRate (loRa 7 125)).marshalJSON = .ok (loRa 7 125) := by
  have hd : newDataRateFromDatR { loRa := str "xSF07BW125y" } = .ok (loRa 7 125) := by decide
  exact ⟨hd, (data_rate_round_trip.2 _ _ hd).1⟩

/-! ### Statuses -/

/-- `gateway.GPSMetadata`. -/
structure GPSMetadata where
  /-- Degrees north. -/
  latitude : Single
  /-- Degrees east. -/
  longitude : Single
  /-- Metres. -/
  altitude : Int32
  deriving DecidableEq

/-- `gateway.Status`. -/
structure Status where
  /-- When the statistics were taken, in nanoseconds since the Unix epoch. -/
  time : Int64 := 0
  /-- The addresses of the gateway. -/
  ip : List Bytes := []
  /-- The kind of gateway. -/
  platform : Bytes := []
  /-- Whom to write to. -/
  contactEmail : Bytes := []
  /-- What the gateway is. -/
  description : Bytes := []
  /-- The region, injected by the bridge. -/
  region : Bytes := []
  /-- The bridge, injected by the bridge. -/
  bridge : Bytes := []
  /-- Where the gateway is. -/
  gps : Option GPSMetadata := none
  /-- The round-trip time, injected by the bridge. -/
  rtt : UInt32 := 0
  /-- Packets received. -/
  rxIn : UInt32 := 0
  /-- Packets received with a valid CRC. -/
  rxOk : UInt32 := 0
  deriving DecidableEq

/-- `if v, ok := stats.CustomData[key]; ok { if v, ok := v.(string); ok { … } }`. -/
def customString (stats : GatewayStatsPacket) (key : Bytes) (default : Bytes) : Bytes :=
  match stats.customData.lookup key with
  | some (.string s) => s
  | _ => default

/-- `Backend.convertStatsPacket`, from a copy of `gatewayStatus`. -/
def convertStatsPacket (gatewayStatus : Status) (stats : GatewayStatsPacket) : Status :=
  { gatewayStatus with
    time := unixNano stats.time
    rxIn := UInt32.ofInt stats.rxPacketsReceived
    rxOk := UInt32.ofInt stats.rxPacketsReceivedOK
    platform := customString stats (str "platform") gatewayStatus.platform
    contactEmail := customString stats (str "contactEmail") gatewayStatus.contactEmail
    description := customString stats (str "description") gatewayStatus.description
    ip :=
      match stats.customData.lookup (str "ip") with
      | some (.strings ip) => ip
      | _ => gatewayStatus.ip
    gps :=
      if stats.latitude ≠ 0 ∨ stats.longitude ≠ 0 ∨ stats.altitude ≠ 0 then
        some ⟨float32 stats.latitude, float32 stats.longitude, truncInt32 stats.altitude⟩
      else gatewayStatus.gps }

/-! ### The account server -/

/-- `account.Location`. -/
structure Location where
  /-- No location was given. -/
  empty : Bool
  /-- Degrees east. -/
  longitude : ℚ
  /-- Degrees north. -/
  latitude : ℚ
  deriving DecidableEq

/-- `account.Gateway`: what the account server knows of a gateway. -/
structure AccountGateway where
  /-- Where it is. -/
  location : Option Location := none
  /-- Metres. -/
  altitude : ℚ := 0
  /-- `Token.AccessToken`. -/
  token : Option Bytes := none
  /-- `Attributes.Brand`. -/
  brand : Option Bytes := none
  /-- `Attributes.Model`. -/
  model : Option Bytes := none
  /-- `Attributes.Description`. -/
  description : Option Bytes := none
  deriving DecidableEq

/-- `type gtwConf`. -/
structure GtwConf where
  /-- The gateway, as the router knows it. -/
  id : Bytes
  /-- Its access key. -/
  key : Bytes := []
  /-- Its token for the router. -/
  token : Bytes := []
  /-- What the account server knows of it. -/
  settings : AccountGateway
  deriving DecidableEq

/-- The part of `PublishGatewayStats` that fills in what the gateway left out. -/
def completeStatus (settings : AccountGateway) (status : Status) : Status :=
  { status with
    gps :=
      match status.gps, settings.location with
      | none, some location =>
          some ⟨float32 location.latitude, float32 location.longitude, truncInt32 settings.altitude⟩
      | gps, _ => gps
    description := if status.description = [] then settings.description.getD [] else status.description
    platform :=
      if status.platform = [] then
        settings.brand.getD [] ++ ((settings.model.map fun model => str " " ++ model).getD [])
      else status.platform }

end GatewayBridge.Ttn
