import GatewayBridge.Go.Hex
import Mathlib.Data.Finmap
import Mathlib.Data.Rat.Init

/-!
# The packets the bridge passes on

The types of the packages `lorawan`, `lorawan/band` and `loraserver/api/gw` that
stand between the gateways and the network: an EUI-64, a data rate, an uplink, a
downlink, and the statistics of a gateway. An `int` of the source is an `ℤ`; a
`float64` is a `ℚ`; a pointer is an `Option`.
-/

namespace GatewayBridge.Lora

open GatewayBridge.Go

/-- `lorawan.EUI64`: eight bytes. -/
structure EUI64 where
  /-- The bytes. -/
  bytes : Bytes
  /-- There are eight of them. -/
  length_eq : bytes.length = 8
  deriving DecidableEq

/-- The gateway of the concrete runs. -/
def sampleMAC : EUI64 := ⟨[1, 2, 3, 4, 5, 6, 7, 8], rfl⟩

/-- `lorawan.EUI64.String`: sixteen hexadecimal digits. -/
def EUI64.string (e : EUI64) : Bytes := hexString e.bytes

/-- The errors of `EUI64.UnmarshalText`. -/
inductive EUIError where
  /-- An error of `hex.DecodeString`. -/
  | hex (e : HexError)
  /-- `lorawan: exactly 8 bytes are expected`. -/
  | length
  deriving DecidableEq, Repr

/-- `lorawan.EUI64.UnmarshalText`. -/
def EUI64.unmarshalText (text : Bytes) : Except EUIError EUI64 :=
  match decodeHex text with
  | .error e => .error (.hex e)
  | .ok b => if h : b.length = 8 then .ok ⟨b, h⟩ else .error .length

/-- What `String` prints, `UnmarshalText` reads. -/
theorem EUI64.unmarshalText_string (e : EUI64) : EUI64.unmarshalText e.string = .ok e := by
  simp [EUI64.unmarshalText, EUI64.string, decodeHex_hexString, e.length_eq]

theorem EUI64.string_injective {e e' : EUI64} (h : e.string = e'.string) : e = e' := by
  have he := e.unmarshalText_string
  rw [h, e'.unmarshalText_string] at he
  exact (Except.ok.inj he).symm

/-- `band.LoRaModulation`. -/
def loRaModulation : Bytes := str "LORA"

/-- `band.FSKModulation`. -/
def fskModulation : Bytes := str "FSK"

/-- `band.DataRate`. -/
structure DataRate where
  /-- The modulation, a string. -/
  modulation : Bytes := []
  /-- Used for LoRa. -/
  spreadFactor : ℤ := 0
  /-- In kHz, used for LoRa. -/
  bandwidth : ℤ := 0
  /-- Bits per second, used for FSK. -/
  bitRate : ℤ := 0
  deriving DecidableEq

/-- `gw.RXInfo`. -/
structure RXInfo where
  /-- MAC address of the gateway. -/
  mac : EUI64
  /-- Receive time. -/
  time : Time
  /-- The gateway's internal timestamp, in microseconds. -/
  timestamp : UInt32
  /-- Frequency in Hz. -/
  frequency : ℤ
  /-- Concentrator IF channel. -/
  channel : ℤ
  /-- RF chain. -/
  rfChain : ℤ
  /-- `1` = OK, `-1` = fail, `0` = no CRC. -/
  crcStatus : ℤ
  /-- ECC code rate. -/
  codeRate : Bytes
  /-- RSSI in dBm. -/
  rssi : ℤ
  /-- LoRa signal-to-noise ratio in dB. -/
  loRaSNR : ℚ
  /-- Packet payload size. -/
  size : ℤ
  /-- RX data rate. -/
  dataRate : DataRate
  deriving DecidableEq

/-- `gw.RXPacketBytes`: an uplink. -/
structure RXPacketBytes where
  /-- How it was received. -/
  rxInfo : RXInfo
  /-- What was received. -/
  phyPayload : Bytes
  deriving DecidableEq

/-- `gw.TXInfo`. -/
structure TXInfo where
  /-- MAC address of the gateway. -/
  mac : EUI64
  /-- Send the packet immediately (ignore the timestamp). -/
  immediately : Bool := false
  /-- The gateway's internal timestamp, in microseconds. -/
  timestamp : UInt32
  /-- Frequency in Hz. -/
  frequency : ℤ
  /-- TX power in dBm. -/
  power : ℤ
  /-- TX data rate. -/
  dataRate : DataRate
  /-- ECC code rate. -/
  codeRate : Bytes
  /-- When left `nil`, the default is used (true for LoRa modulation). -/
  iPol : Option Bool := none
  deriving DecidableEq

/-- `gw.TXPacketBytes`: a downlink. -/
structure TXPacketBytes where
  /-- How to send it. -/
  txInfo : TXInfo
  /-- What to send. -/
  phyPayload : Bytes
  deriving DecidableEq

/-- A value of `CustomData`, which holds values of any type. -/
inductive CustomValue where
  /-- A `string`. -/
  | string (s : Bytes)
  /-- A `[]string`. -/
  | strings (l : List Bytes)
  /-- A value of another type. -/
  | other
  deriving DecidableEq

/-- `gw.GatewayStatsPacket`: the statistics of a gateway. -/
structure GatewayStatsPacket where
  /-- MAC address of the gateway. -/
  mac : EUI64
  /-- When the statistics were taken. -/
  time : Time
  /-- Degrees north. -/
  latitude : ℚ
  /-- Degrees east. -/
  longitude : ℚ
  /-- Metres. -/
  altitude : ℚ
  /-- Packets received. -/
  rxPacketsReceived : ℤ
  /-- Packets received with a valid CRC. -/
  rxPacketsReceivedOK : ℤ
  /-- Fields of alternative packet forwarders. -/
  customData : Finmap fun _ : Bytes => CustomValue
  deriving DecidableEq

end GatewayBridge.Lora
