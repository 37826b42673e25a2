import GatewayBridge.Lora.Packets

/-!
# The packets of the Semtech protocol

`gateway/structs.go`: the six packet types a gateway and the bridge exchange over
UDP, and their binary form. Every packet begins with the protocol version, a
random token (little endian), and the packet type; then, depending on the type,
the MAC of the gateway and a JSON object.

`encoding/json` is a parameter, one `Json` for each payload type: `marshal` and
`unmarshal` either succeed or return an error. `unmarshal` decodes into a zero
value, as the decoders below do. Nothing is assumed of them here; `Json.Inverts`
is what a round trip needs.
-/

namespace GatewayBridge.Semtech

open GatewayBridge.Go GatewayBridge.Lora

/-! ### Packet types and versions -/

/-- `PacketType`: a byte, six values of which have a name. -/
@[ext] structure PacketType where
  /-- The byte. -/
  byte : UInt8
  deriving DecidableEq

namespace PacketType

/-- `PushData`. -/
def pushData : PacketType := ⟨0⟩
/-- `PushACK`. -/
def pushACK : PacketType := ⟨1⟩
/-- `PullData`. -/
def pullData : PacketType := ⟨2⟩
/-- `PullResp`. -/
def pullResp : PacketType := ⟨3⟩
/-- `PullACK`. -/
def pullACK : PacketType := ⟨4⟩
/-- `TXACK`. -/
def txACK : PacketType := ⟨5⟩

/-- `PacketType.String`. -/
def string (pt : PacketType) : Bytes :=
  match [str "PushData", str "PushACK", str "PullData", str "PullResp", str "PullACK",
    str "TXACK"][pt.byte.toNat]? with
  | some name => name
  | none => str "PacketType(" ++ formatNat pt.byte.toNat ++ str ")"

end PacketType

/-- `ProtocolVersion1`. -/
def protocolVersion1 : UInt8 := 1

/-- `ProtocolVersion2`. -/
def protocolVersion2 : UInt8 := 2

/-- `protocolSupported`. -/
def protocolSupported (p : UInt8) : Bool := p == protocolVersion1 || p == protocolVersion2

theorem protocolSupported_iff {p : UInt8} : protocolSupported p = true ↔ p = 1 ∨ p = 2 := by
  simp [protocolSupported, protocolVersion1, protocolVersion2]

/-! ### Errors -/

/-- Why a `DatR` is not a data rate. -/
inductive DatRError where
  /-- The pattern does not match. -/
  | parse
  /-- The spread factor is no `int`. -/
  | spreadFactor (digits : Bytes) (e : NumError)
  /-- The bandwidth is no `int`. -/
  | bandwidth (digits : Bytes) (e : NumError)
  /-- Neither a string nor a number. -/
  | empty
  deriving DecidableEq

/-- The errors of the package. -/
inductive GwError where
  /-- `errGatewayDoesNotExist`. -/
  | gatewayDoesNotExist
  /-- `ErrInvalidProtocolVersion`. -/
  | invalidProtocolVersion
  /-- Too few bytes. -/
  | atLeast (n : ℕ)
  /-- Another number of bytes. -/
  | exactly (n : ℕ)
  /-- Another packet type than the decoder's. -/
  | identifierMismatch (pt : PacketType)
  /-- A packet type that the bridge does not handle. -/
  | unknownPacketType (pt : PacketType)
  /-- An error of `encoding/json`. -/
  | json (text : Bytes)
  /-- `PullRespPacket.MarshalBinary` failed, in `Send`. -/
  | pullResp (text : Bytes)
  /-- The `datr` of an uplink. -/
  | dataRate (e : DatRError)
  /-- The `data` of an uplink is not base64, at this offset. -/
  | base64 (offset : ℕ)
  /-- The CRC status of an uplink is not `1`. -/
  | invalidCRC
  /-- An error of `onNew` or `onDelete`. -/
  | callback (text : Bytes)
  /-- An error of package `net`. -/
  | net (text : Bytes)
  deriving DecidableEq

/-- What a number that `strconv.Atoi` refuses is reported as. -/
def numErrorText (digits : Bytes) (e : NumError) : Bytes :=
  str "strconv.Atoi: parsing \"" ++ digits ++ str "\": " ++ e.message

/-- The text of a `DatRError`. -/
def DatRError.message : DatRError → Bytes
  | .parse => str "gateway: could not parse LoRa data rate"
  | .spreadFactor d e => str "gateway: could not convert spread factor to int: " ++ numErrorText d e
  | .bandwidth d e => str "gateway: could not convert bandwith to int: " ++ numErrorText d e
  | .empty => str "gateway: could not convert DatR to DataRate, DatR is empty / modulation unknown"

/-- The name of a packet type in an `identifier mismatch`. -/
def PacketType.identifier (pt : PacketType) : Bytes :=
  match [str "PUSH_DATA", str "PUSH_ACK", str "PULL_DATA", str "PULL_RESP", str "PULL_ACK",
    str "TXACK"][pt.byte.toNat]? with
  | some name => name
  | none => pt.string

/-- The text of an error. -/
def GwError.message : GwError → Bytes
  | .gatewayDoesNotExist => str "gateway does not exist"
  | .invalidProtocolVersion => str "gateway: invalid protocol version"
  | .atLeast 13 => str "gateway: at least 13 bytes are expected"
  | .atLeast n => str "gateway: at least " ++ formatNat n ++ str " bytes of data are expected"
  | .exactly n => str "gateway: " ++ formatNat n ++ str " bytes of data are expected"
  | .identifierMismatch pt =>
      str "gateway: identifier mismatch (" ++ pt.identifier ++ str " expected)"
  | .unknownPacketType pt => str "gateway: unknown packet type: " ++ pt.string
  | .json text => text
  | .pullResp text => str "gateway: json marshall PullRespPacket error: " ++ text
  | .dataRate e => str "gateway: could not get DataRate from DatR: " ++ e.message
  | .base64 n =>
      str "gateway: could not base64 decode data: illegal base64 data at input byte " ++ formatNat n
  | .invalidCRC => str "gateway: invalid CRC"
  | .callback text => text
  | .net text => text

/-- A computation of the package. -/
abbrev Res := Except (Fault GwError)

/-! ### Payloads -/

/-- `DatR`: a string (LoRa), or a number of bits per second (FSK). -/
structure DatR where
  /-- The LoRa identifier. -/
  loRa : Bytes := []
  /-- The FSK data rate. -/
  fsk : UInt32 := 0
  deriving DecidableEq

/-- `DatR.MarshalJSON`. It returns no error. -/
def DatR.marshalJSON (d : DatR) : Bytes :=
  if d.loRa ≠ [] then str "\"" ++ d.loRa ++ str "\"" else formatNat d.fsk.toNat

/-- `DatR.UnmarshalJSON`, into `d`. It returns no error. -/
def DatR.unmarshalJSON (d : DatR) (data : Bytes) : DatR :=
  match parseUint 32 data with
  | .error _ => { d with loRa := trim 34 data }
  | .ok i => { d with fsk := UInt32.ofNat i }

/-- `RXPK`: an RF packet a gateway received. -/
structure RXPK where
  /-- Time of reception. -/
  time : Time
  /-- Internal timestamp. -/
  tmst : UInt32
  /-- Central frequency in MHz. -/
  freq : ℚ
  /-- Concentrator IF channel. -/
  chan : UInt8
  /-- Concentrator RF chain. -/
  rfch : UInt8
  /-- CRC status: `1` = OK, `-1` = fail, `0` = no CRC. -/
  stat : Int8
  /-- Modulation identifier. -/
  modu : Bytes
  /-- Data rate. -/
  datr : DatR
  /-- LoRa coding rate. -/
  codr : Bytes
  /-- RSSI in dBm. -/
  rssi : Int16
  /-- LoRa SNR in dB. -/
  lsnr : ℚ
  /-- Payload size in bytes. -/
  size : UInt16
  /-- Base64 encoded payload. -/
  data : Bytes
  deriving DecidableEq

/-- `Stat`: the status of a gateway. -/
structure Stat where
  /-- System time of the gateway. -/
  time : Time
  /-- Latitude in degrees. -/
  lati : ℚ
  /-- Longitude in degrees. -/
  long : ℚ
  /-- Altitude in metres. -/
  alti : Int32
  /-- Packets received. -/
  rxnb : UInt32
  /-- Packets received with a valid CRC. -/
  rxok : UInt32
  /-- Packets forwarded. -/
  rxfw : UInt32
  /-- Percentage of upstream datagrams that were acknowledged. -/
  ackr : ℚ
  /-- Downlink datagrams received. -/
  dwnb : UInt32
  /-- Platform. -/
  pfrm : Bytes
  /-- Email of the operator. -/
  mail : Bytes
  /-- Description. -/
  desc : Bytes
  deriving DecidableEq

/-- `TXPK`: an RF packet to be emitted. -/
structure TXPK where
  /-- Send immediately. -/
  imme : Bool := false
  /-- Send at this timestamp. -/
  tmst : UInt32 := 0
  /-- Send at this time. -/
  time : Option Time := none
  /-- Central frequency in MHz. -/
  freq : ℚ := 0
  /-- Concentrator RF chain. -/
  rfch : UInt8 := 0
  /-- Output power in dBm. -/
  powe : UInt8 := 0
  /-- Modulation identifier. -/
  modu : Bytes := []
  /-- Data rate. -/
  datr : DatR := {}
  /-- LoRa coding rate. -/
  codr : Bytes := []
  /-- FSK frequency deviation in Hz. -/
  fdev : UInt16 := 0
  /-- LoRa polarization inversion. -/
  ipol : Bool := false
  /-- Preamble size. -/
  prea : UInt16 := 0
  /-- Payload size in bytes. -/
  size : UInt16 := 0
  /-- Disable the CRC of the physical layer. -/
  ncrc : Bool := false
  /-- Base64 encoded payload. -/
  data : Bytes := []
  deriving DecidableEq

/-- `PushDataPayload`. -/
structure PushDataPayload where
  /-- The packets received. -/
  rxpk : List RXPK := []
  /-- The status, if present. -/
  stat : Option Stat := none
  deriving DecidableEq

/-- `PullRespPayload`. -/
structure PullRespPayload where
  /-- The packet to be emitted. -/
  txpk : TXPK
  deriving DecidableEq

/-- `TXACKPayload`, with the `error` of its `TXPKACK`. -/
structure TXACKPayload where
  /-- `txpk_ack.error`. -/
  error : Bytes
  deriving DecidableEq

/-- `encoding/json` on a payload type; an error is its text. -/
structure Json (α : Type) where
  /-- `json.Marshal`. -/
  marshal : α → Except Bytes Bytes
  /-- `json.Unmarshal`, into a zero value. -/
  unmarshal : Bytes → Except Bytes α

/-- What `marshal` writes for `p` is not empty, and `unmarshal` reads it back. -/
def Json.Inverts {α : Type} (J : Json α) (p : α) : Prop :=
  ∃ pb, J.marshal p = .ok pb ∧ pb ≠ [] ∧ J.unmarshal pb = .ok p

/-- The codec that knows the documents of a table and refuses everything else. -/
def Json.ofTable {α : Type} [DecidableEq α] (docs : List (α × Bytes)) : Json α where
  marshal p := match docs.find? (·.1 = p) with
    | some (_, pb) => .ok pb
    | none => .error (str "json: unsupported value")
  unmarshal pb := match docs.find? (·.2 = pb) with
    | some (p, _) => .ok p
    | none => .error (str "invalid character")

theorem Json.ofTable_unmarshal {α : Type} [DecidableEq α] (p : α) (pb : Bytes) (docs : List (α × Bytes)) :
    (Json.ofTable ((p, pb) :: docs)).unmarshal pb = .ok p := by
  simp [Json.ofTable]

theorem Json.ofTable_marshal {α : Type} [DecidableEq α] (p : α) (pb : Bytes) (docs : List (α × Bytes)) :
    (Json.ofTable ((p, pb) :: docs)).marshal p = .ok pb := by
  simp [Json.ofTable]

/-- `encoding/json` on the three payload types. -/
structure Codecs where
  /-- Of PUSH_DATA. -/
  pushData : Json PushDataPayload
  /-- Of PULL_RESP. -/
  pullResp : Json PullRespPayload
  /-- Of TX_ACK. -/
  txACK : Json TXACKPayload

/-- Codecs that refuse every document. -/
def noCodecs : Codecs := ⟨.ofTable [], .ofTable [], .ofTable []⟩

/-! ### The six packets -/

/-- `PushDataPacket`. -/
structure PushDataPacket where
  protocolVersion : UInt8
  randomToken : UInt16
  gatewayMAC : EUI64
  payload : PushDataPayload
  deriving DecidableEq

/-- `PushACKPacket`. -/
structure PushACKPacket where
  protocolVersion : UInt8
  randomToken : UInt16
  deriving DecidableEq

/-- `PullDataPacket`. -/
structure PullDataPacket where
  protocolVersion : UInt8
  randomToken : UInt16
  gatewayMAC : EUI64
  deriving DecidableEq

/-- `PullACKPacket`. -/
structure PullACKPacket where
  protocolVersion : UInt8
  randomToken : UInt16
  deriving DecidableEq

/-- `PullRespPacket`. -/
structure PullRespPacket where
  protocolVersion : UInt8
  randomToken : UInt16
  payload : PullRespPayload
  deriving DecidableEq

/-- `TXACKPacket`. -/
structure TXACKPacket where
  protocolVersion : UInt8
  randomToken : UInt16
  gatewayMAC : EUI64
  payload : Option TXACKPayload
  deriving DecidableEq

/-! ### Encoding -/

/-- The first four bytes of a packet. -/
def header (protocolVersion : UInt8) (randomToken : UInt16) (pt : PacketType) : Bytes :=
  protocolVersion :: (putUint16 randomToken ++ [pt.byte])

/-- `PushDataPacket.MarshalBinary`. -/
def PushDataPacket.marshalBinary (J : Codecs) (p : PushDataPacket) : Res Bytes := do
  let pb ← orFail .json (J.pushData.marshal p.payload)
  .ok (header p.protocolVersion p.randomToken .pushData ++ p.gatewayMAC.bytes ++ pb)

/-- `PushACKPacket.MarshalBinary`. -/
def PushACKPacket.marshalBinary (p : PushACKPacket) : Res Bytes :=
  .ok (header p.protocolVersion p.randomToken .pushACK)

/-- `PullDataPacket.MarshalBinary`. -/
def PullDataPacket.marshalBinary (p : PullDataPacket) : Res Bytes :=
  .ok (header p.protocolVersion p.randomToken .pullData ++ p.gatewayMAC.bytes)

/-- `PullACKPacket.MarshalBinary`. -/
def PullACKPacket.marshalBinary (p : PullACKPacket) : Res Bytes :=
  .ok (header p.protocolVersion p.randomToken .pullACK)

/-- `PullRespPacket.MarshalBinary`. The token's two bytes are unused in version 1. -/
def PullRespPacket.marshalBinary (J : Codecs) (p : PullRespPacket) : Res Bytes := do
  let pb ← orFail .json (J.pullResp.marshal p.payload)
  let token := if p.protocolVersion ≠ protocolVersion1 then p.randomToken else 0
  .ok (header p.protocolVersion token .pullResp ++ pb)

/-- `TXACKPacket.MarshalBinary`. -/
def TXACKPacket.marshalBinary (J : Codecs) (p : TXACKPacket) : Res Bytes := do
  let pb ← match p.payload with
    | none => .ok []
    | some payload => orFail .json (J.txACK.marshal payload)
  .ok (header p.protocolVersion p.randomToken .txACK ++ p.gatewayMAC.bytes ++ pb)

/-! ### Decoding -/

/-- What every packet carries besides its type. -/
structure Header where
  protocolVersion : UInt8
  randomToken : UInt16
  deriving DecidableEq

/-- What every decoder checks and reads first, after its length check: the packet type, the
protocol version and the random token. -/
def decodeHeader (pt : PacketType) (data : Bytes) : Res Header := do
  if (← index data 3) ≠ pt.byte then fail (.identifierMismatch pt)
  let version ← index data 0
  if !protocolSupported version then fail .invalidProtocolVersion
  let token ← slice data 1 3
  .ok ⟨version, uint16 (← index token 0) (← index token 1)⟩

/-- `for i := 0; i < 8; i++ { p.GatewayMAC[i] = data[4+i] }`. -/
def readMAC (data : Bytes) : Res EUI64 := do
  .ok ⟨[← index data 4, ← index data 5, ← index data 6, ← index data 7, ← index data 8,
    ← index data 9, ← index data 10, ← index data 11], rfl⟩

/-- `PushDataPacket.UnmarshalBinary`. -/
def PushDataPacket.unmarshalBinary (J : Codecs) (data : Bytes) : Res PushDataPacket := do
  if data.length < 13 then fail (.atLeast 13)
  let h ← decodeHeader .pushData data
  let mac ← readMAC data
  let payload ← orFail .json (J.pushData.unmarshal (← sliceFrom data 12))
  .ok ⟨h.protocolVersion, h.randomToken, mac, payload⟩

/-- `PushACKPacket.UnmarshalBinary`. -/
def PushACKPacket.unmarshalBinary (data : Bytes) : Res PushACKPacket := do
  if data.length ≠ 4 then fail (.exactly 4)
  let h ← decodeHeader .pushACK data
  .ok ⟨h.protocolVersion, h.randomToken⟩

/-- `PullDataPacket.UnmarshalBinary`. -/
def PullDataPacket.unmarshalBinary (data : Bytes) : Res PullDataPacket := do
  if data.length ≠ 12 then fail (.exactly 12)
  let h ← decodeHeader .pullData data
  let mac ← readMAC data
  .ok ⟨h.protocolVersion, h.randomToken, mac⟩

/-- `PullACKPacket.UnmarshalBinary`. -/
def PullACKPacket.unmarshalBinary (data : Bytes) : Res PullACKPacket := do
  if data.length ≠ 4 then fail (.exactly 4)
  let h ← decodeHeader .pullACK data
  .ok ⟨h.protocolVersion, h.randomToken⟩

/-- `PullRespPacket.UnmarshalBinary`. -/
def PullRespPacket.unmarshalBinary (J : Codecs) (data : Bytes) : Res PullRespPacket := do
  if data.length < 5 then fail (.atLeast 5)
  let h ← decodeHeader .pullResp data
  let payload ← orFail .json (J.pullResp.unmarshal (← sliceFrom data 4))
  .ok ⟨h.protocolVersion, h.randomToken, payload⟩

/-- `TXACKPacket.UnmarshalBinary`. -/
def TXACKPacket.unmarshalBinary (J : Codecs) (data : Bytes) : Res TXACKPacket := do
  if data.length < 12 then fail (.atLeast 12)
  let h ← decodeHeader .txACK data
  let mac ← readMAC data
  if data.length > 12 then
    let payload ← orFail .json (J.txACK.unmarshal (← sliceFrom data 12))
    .ok ⟨h.protocolVersion, h.randomToken, mac, some payload⟩
  else
    .ok ⟨h.protocolVersion, h.randomToken, mac, none⟩

/-- `GetPacketType`. -/
def getPacketType (data : Bytes) : Res PacketType := do
  if data.length < 4 then fail (.atLeast 4)
  if !protocolSupported (← index data 0) then fail .invalidProtocolVersion
  .ok ⟨← index data 3⟩

end GatewayBridge.Semtech
