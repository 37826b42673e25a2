import GatewayBridge.Semtech.Structs

/-!
# The wire format

What the six decoders accept, stated as one equivalence each: a decoder returns
`p` exactly when the version of `p` is supported and the data is `p` written out.
The round trips of both kinds, and that a datagram has at most one type, are read
off these equivalences.
-/

namespace GatewayBridge.Semtech

open GatewayBridge.Go GatewayBridge.Lora

variable {J : Codecs} {data : Bytes} {version : UInt8} {token : UInt16} {pt : PacketType}

/-! ### The header -/

theorem exists_cons₄ (h : 4 ≤ data.length) : ∃ v lo hi t rest, data = v :: lo :: hi :: t :: rest := by
  match data, h with
  | v :: lo :: hi :: t :: rest, _ => exact ⟨v, lo, hi, t, rest, rfl⟩

theorem exists_mac (h : 8 ≤ data.length) : ∃ (mac : EUI64) (rest : Bytes), data = mac.bytes ++ rest :=
  ⟨⟨data.take 8, by simp [h]⟩, data.drop 8, (List.take_append_drop 8 data).symm⟩

theorem header_uint16 (v lo hi t : UInt8) : header v (uint16 lo hi) ⟨t⟩ = [v, lo, hi, t] := by
  rw [header, putUint16_uint16]
  rfl

theorem header_eq (v : UInt8) (token : UInt16) (pt : PacketType) :
    ∃ lo hi, uint16 lo hi = token ∧ header v token pt = [v, lo, hi, pt.byte] :=
  ⟨_, _, uint16_putUint16 token, rfl⟩

@[simp] theorem length_header : (header version token pt).length = 4 := rfl

@[simp] theorem EUI64.length_bytes (mac : EUI64) : mac.bytes.length = 8 := mac.length_eq

/-- What `decodeHeader` does on a datagram of at least four bytes. -/
theorem decodeHeader_cons (pt : PacketType) (v lo hi t : UInt8) (rest : Bytes) :
    decodeHeader pt (v :: lo :: hi :: t :: rest) =
      if t ≠ pt.byte then fail (.identifierMismatch pt)
      else if protocolSupported v then .ok ⟨v, uint16 lo hi⟩ else fail .invalidProtocolVersion := by
  have hs : (slice (v :: lo :: hi :: t :: rest) 1 3 : Res Bytes) = .ok [lo, hi] := by
    simp [slice]
  rw [decodeHeader, index_of_getElem? (a := t) rfl, index_of_getElem? (a := v) rfl, hs]
  by_cases ht : t = pt.byte
  · by_cases hv : protocolSupported v <;> simp [ht, hv, index]
  · simp [ht]

/-- A decoder gets past the header exactly when its own header is there. -/
theorem decodeHeader_eq_ok_iff {hd : Header} (h : 4 ≤ data.length) :
    decodeHeader pt data = .ok hd ↔
      protocolSupported hd.protocolVersion ∧
        ∃ rest, data = header hd.protocolVersion hd.randomToken pt ++ rest := by
  obtain ⟨v, lo, hi, t, rest, rfl⟩ := exists_cons₄ h
  rw [decodeHeader_cons]
  constructor
  · intro hok
    split_ifs at hok with ht hv
    · exact absurd hok (fail_ne_ok _ _)
    · cases hok
      rw [ne_eq, not_not] at ht
      subst ht
      exact ⟨hv, rest, by rw [header_uint16]; rfl⟩
    · exact absurd hok (fail_ne_ok _ _)
  · rintro ⟨hv, rest', hok⟩
    obtain ⟨version, token⟩ := hd
    obtain ⟨lo', hi', rfl, hh⟩ := header_eq version token pt
    rw [hh] at hok
    simp only [List.cons_append, List.nil_append, List.cons.injEq] at hok
    obtain ⟨rfl, rfl, rfl, rfl, rfl⟩ := hok
    simp [hv]

theorem readMAC_cons (v lo hi t : UInt8) (mac : EUI64) (rest : Bytes) :
    readMAC (v :: lo :: hi :: t :: (mac.bytes ++ rest)) = .ok mac := by
  obtain ⟨bs, hbs⟩ := mac
  match bs, hbs with
  | [b₀, b₁, b₂, b₃, b₄, b₅, b₆, b₇], _ => rfl

theorem readMAC_header (mac : EUI64) (rest : Bytes) :
    readMAC (header version token pt ++ mac.bytes ++ rest) = .ok mac := by
  obtain ⟨lo, hi, -, hh⟩ := header_eq version token pt
  rw [hh, List.append_assoc]
  exact readMAC_cons version lo hi pt.byte mac rest

/-- `GetPacketType` of a datagram that begins with a header of a supported version. -/
theorem getPacketType_header (hv : protocolSupported version) (rest : Bytes) :
    getPacketType (header version token pt ++ rest) = .ok pt := by
  obtain ⟨lo, hi, -, hh⟩ := header_eq version token pt
  rw [hh, getPacketType, index_of_getElem? (a := version) rfl, index_of_getElem? (a := pt.byte) rfl]
  simp [hv]

/-! ### The decoders do not panic -/

theorem decodeHeader_noPanic (h : 4 ≤ data.length) : NoPanic (decodeHeader pt data) := by
  obtain ⟨v, lo, hi, t, rest, rfl⟩ := exists_cons₄ h
  rw [decodeHeader_cons]
  split_ifs
  · exact noPanic_fail _
  · exact noPanic_ok _
  · exact noPanic_fail _

theorem readMAC_noPanic (h : 12 ≤ data.length) : NoPanic (readMAC data) := by
  obtain ⟨v, lo, hi, t, rest, rfl⟩ := exists_cons₄ (show 4 ≤ data.length by omega)
  obtain ⟨mac, rest, rfl⟩ : ∃ (mac : EUI64) (rest' : Bytes), rest = mac.bytes ++ rest' :=
    exists_mac (by simpa using h)
  rw [readMAC_cons]
  exact noPanic_ok mac

theorem PullDataPacket.unmarshalBinary_noPanic (data : Bytes) :
    NoPanic (PullDataPacket.unmarshalBinary data) := by
  rw [PullDataPacket.unmarshalBinary]
  by_cases hlen : data.length = 12
  · rw [if_neg (not_not.mpr hlen)]
    exact (decodeHeader_noPanic (by omega)).bind fun _ => (readMAC_noPanic hlen.ge).bind fun _ => noPanic_ok _
  · rw [if_pos hlen]
    exact noPanic_fail _

theorem PushDataPacket.unmarshalBinary_noPanic (J : Codecs) (data : Bytes) :
    NoPanic (PushDataPacket.unmarshalBinary J data) := by
  rw [PushDataPacket.unmarshalBinary]
  by_cases hlen : data.length < 13
  · rw [if_pos hlen]
    exact noPanic_fail _
  · rw [if_neg hlen]
    refine (decodeHeader_noPanic (by omega)).bind fun _ => (readMAC_noPanic (by omega)).bind fun _ => ?_
    exact (noPanic_sliceFrom (by omega)).bind fun _ => (noPanic_orFail _ _).bind fun _ => noPanic_ok _

theorem TXACKPacket.unmarshalBinary_noPanic (J : Codecs) (data : Bytes) :
    NoPanic (TXACKPacket.unmarshalBinary J data) := by
  rw [TXACKPacket.unmarshalBinary]
  by_cases hlen : data.length < 12
  · rw [if_pos hlen]
    exact noPanic_fail _
  · rw [if_neg hlen]
    refine (decodeHeader_noPanic (by omega)).bind fun _ => (readMAC_noPanic (by omega)).bind fun _ => ?_
    split_ifs
    · exact (noPanic_sliceFrom (by omega)).bind fun _ => (noPanic_orFail _ _).bind fun _ => noPanic_ok _
    · exact noPanic_ok _

/-- `GetPacketType` returns an error, or the type of a datagram that begins with a header. -/
theorem getPacketType_cases (data : Bytes) :
    (∃ e, getPacketType data = fail e) ∨
      ∃ v lo hi t rest, data = v :: lo :: hi :: t :: rest ∧ protocolSupported v ∧
        getPacketType data = .ok ⟨t⟩ := by
  by_cases hlen : data.length < 4
  · refine .inl ⟨.atLeast 4, ?_⟩
    rw [getPacketType, if_pos hlen]
    rfl
  · obtain ⟨v, lo, hi, t, rest, rfl⟩ := exists_cons₄ (show 4 ≤ data.length by omega)
    rw [getPacketType, if_neg hlen, index_of_getElem? (a := v) rfl, index_of_getElem? (a := t) rfl]
    by_cases hv : protocolSupported v
    · exact .inr ⟨v, lo, hi, t, rest, rfl, hv, by simp [hv]⟩
    · exact .inl ⟨.invalidProtocolVersion, by simp [hv]⟩

/-! ### What the decoders accept -/

/-- The header and the MAC, then the rest of a decoder. -/
theorem decodeMAC_bind_eq_ok_iff {β : Type} {f : Header → EUI64 → Res β} {b : β}
    (h : 12 ≤ data.length) :
    (do
      let h ← decodeHeader pt data
      let mac ← readMAC data
      f h mac : Res β) = .ok b ↔
      ∃ (hd : Header) (mac : EUI64) (rest : Bytes), protocolSupported hd.protocolVersion ∧
        data = header hd.protocolVersion hd.randomToken pt ++ mac.bytes ++ rest ∧
          f hd mac = .ok b := by
  simp only [bind_eq_ok, decodeHeader_eq_ok_iff (show 4 ≤ data.length by omega)]
  constructor
  · rintro ⟨hd, ⟨hv, rest, rfl⟩, mac, hm, hf⟩
    obtain ⟨mac', rest, rfl⟩ : ∃ (mac : EUI64) (rest' : Bytes), rest = mac.bytes ++ rest' :=
      exists_mac (by rw [List.length_append, length_header] at h; omega)
    rw [← List.append_assoc, readMAC_header] at hm
    cases hm
    exact ⟨hd, mac, rest, hv, (List.append_assoc _ _ _).symm, hf⟩
  · rintro ⟨hd, mac, rest, hv, rfl, hf⟩
    exact ⟨hd, ⟨hv, mac.bytes ++ rest, List.append_assoc _ _ _⟩, mac, readMAC_header mac rest, hf⟩

/-- The decoders of the two acknowledgements, which are a header and nothing else. -/
theorem decodeACK_eq_ok_iff {β : Type} {mk : UInt8 → UInt16 → β} {b : β} :
    (do
      if data.length ≠ 4 then fail (.exactly 4)
      let h ← decodeHeader pt data
      .ok (mk h.protocolVersion h.randomToken) : Res β) = .ok b ↔
      ∃ hd : Header, protocolSupported hd.protocolVersion ∧
        data = header hd.protocolVersion hd.randomToken pt ∧
          mk hd.protocolVersion hd.randomToken = b := by
  by_cases hlen : data.length = 4
  · simp only [hlen, ne_eq, not_true_eq_false, if_false, bind_eq_ok, decodeHeader_eq_ok_iff hlen.ge,
      Except.ok.injEq]
    constructor
    · rintro ⟨hd, ⟨hv, rest, rfl⟩, rfl⟩
      rw [List.length_append, length_header, Nat.add_eq_left, List.length_eq_zero_iff] at hlen
      exact ⟨hd, hv, by rw [hlen, List.append_nil], rfl⟩
    · rintro ⟨hd, hv, rfl, rfl⟩
      exact ⟨hd, ⟨hv, [], (List.append_nil _).symm⟩, rfl⟩
  · simp only [hlen, ne_eq, not_false_eq_true, if_true, fail_bind, fail_ne_ok, false_iff]
    rintro ⟨hd, -, rfl, -⟩
    exact hlen rfl

theorem PushACKPacket.unmarshalBinary_eq_ok_iff {p : PushACKPacket} :
    PushACKPacket.unmarshalBinary data = .ok p ↔
      protocolSupported p.protocolVersion ∧ data = header p.protocolVersion p.randomToken .pushACK := by
  rw [PushACKPacket.unmarshalBinary, decodeACK_eq_ok_iff]
  constructor
  · rintro ⟨hd, hv, hdata, rfl⟩
    exact ⟨hv, hdata⟩
  · rintro ⟨hv, hdata⟩
    exact ⟨⟨_, _⟩, hv, hdata, rfl⟩

theorem PullACKPacket.unmarshalBinary_eq_ok_iff {p : PullACKPacket} :
    PullACKPacket.unmarshalBinary data = .ok p ↔
      protocolSupported p.protocolVersion ∧ data = header p.protocolVersion p.randomToken .pullACK := by
  rw [PullACKPacket.unmarshalBinary, decodeACK_eq_ok_iff]
  constructor
  · rintro ⟨hd, hv, hdata, rfl⟩
    exact ⟨hv, hdata⟩
  · rintro ⟨hv, hdata⟩
    exact ⟨⟨_, _⟩, hv, hdata, rfl⟩

theorem PullDataPacket.unmarshalBinary_eq_ok_iff {p : PullDataPacket} :
    PullDataPacket.unmarshalBinary data = .ok p ↔
      protocolSupported p.protocolVersion ∧
        data = header p.protocolVersion p.randomToken .pullData ++ p.gatewayMAC.bytes := by
  rw [PullDataPacket.unmarshalBinary]
  by_cases hlen : data.length = 12
  · simp only [hlen, ne_eq, not_true_eq_false, if_false, decodeMAC_bind_eq_ok_iff hlen.ge]
    constructor
    · rintro ⟨hd, mac, rest, hv, rfl, hp⟩
      cases hp
      simp only [List.length_append, length_header, EUI64.length_bytes, Nat.reduceAdd,
        Nat.add_eq_left, List.length_eq_zero_iff] at hlen
      exact ⟨hv, by rw [hlen, List.append_nil]⟩
    · rintro ⟨hv, hdata⟩
      exact ⟨⟨_, _⟩, _, [], hv, by rw [hdata, List.append_nil], rfl⟩
  · simp only [hlen, ne_eq, not_false_eq_true, if_true, fail_bind, fail_ne_ok, false_iff]
    rintro ⟨-, rfl⟩
    simp at hlen

theorem PushDataPacket.unmarshalBinary_eq_ok_iff {p : PushDataPacket} :
    PushDataPacket.unmarshalBinary J data = .ok p ↔
      protocolSupported p.protocolVersion ∧ ∃ pb, pb ≠ [] ∧
        data = header p.protocolVersion p.randomToken .pushData ++ p.gatewayMAC.bytes ++ pb ∧
          J.pushData.unmarshal pb = .ok p.payload := by
  rw [PushDataPacket.unmarshalBinary]
  by_cases hlen : data.length < 13
  · simp only [hlen, if_true, fail_bind, fail_ne_ok, false_iff]
    rintro ⟨-, pb, hpb, rfl, -⟩
    have := List.length_pos_iff.mpr hpb
    simp only [List.length_append, length_header, EUI64.length_bytes] at hlen
    omega
  · simp only [hlen, if_false, decodeMAC_bind_eq_ok_iff (show 12 ≤ data.length by omega)]
    constructor
    · rintro ⟨hd, mac, pb, hv, rfl, hf⟩
      rw [sliceFrom_append (by simp), ok_bind, bind_eq_ok] at hf
      obtain ⟨payload, hpl, hp⟩ := hf
      cases hp
      refine ⟨hv, pb, ?_, rfl, orFail_eq_ok.mp hpl⟩
      rintro rfl
      simp at hlen
    · rintro ⟨hv, pb, -, rfl, hpl⟩
      refine ⟨⟨_, _⟩, _, pb, hv, rfl, ?_⟩
      rw [sliceFrom_append (by simp), ok_bind, hpl]
      rfl

theorem PullRespPacket.unmarshalBinary_eq_ok_iff {p : PullRespPacket} :
    PullRespPacket.unmarshalBinary J data = .ok p ↔
      protocolSupported p.protocolVersion ∧ ∃ pb, pb ≠ [] ∧
        data = header p.protocolVersion p.randomToken .pullResp ++ pb ∧
          J.pullResp.unmarshal pb = .ok p.payload := by
  rw [PullRespPacket.unmarshalBinary]
  by_cases hlen : data.length < 5
  · simp only [hlen, if_true, fail_bind, fail_ne_ok, false_iff]
    rintro ⟨-, pb, hpb, rfl, -⟩
    have := List.length_pos_iff.mpr hpb
    simp only [List.length_append, length_header] at hlen
    omega
  · simp only [hlen, if_false, bind_eq_ok, decodeHeader_eq_ok_iff (show 4 ≤ data.length by omega)]
    constructor
    · rintro ⟨hd, ⟨hv, pb, rfl⟩, pb', hpb', payload, hpl, hp⟩
      cases hp
      rw [sliceFrom_append (by simp)] at hpb'
      cases hpb'
      refine ⟨hv, pb, ?_, rfl, orFail_eq_ok.mp hpl⟩
      rintro rfl
      simp at hlen
    · rintro ⟨hv, pb, -, rfl, hpl⟩
      exact ⟨⟨_, _⟩, ⟨hv, pb, rfl⟩, pb, sliceFrom_append (by simp), p.payload, orFail_eq_ok.mpr hpl, rfl⟩

theorem TXACKPacket.unmarshalBinary_eq_ok_iff {p : TXACKPacket} :
    TXACKPacket.unmarshalBinary J data = .ok p ↔
      protocolSupported p.protocolVersion ∧ ∃ pb,
        data = header p.protocolVersion p.randomToken .txACK ++ p.gatewayMAC.bytes ++ pb ∧
          match p.payload with
          | none => pb = []
          | some payload => pb ≠ [] ∧ J.txACK.unmarshal pb = .ok payload := by
  rw [TXACKPacket.unmarshalBinary]
  by_cases hlen : data.length < 12
  · simp only [hlen, if_true, fail_bind, fail_ne_ok, false_iff]
    rintro ⟨-, pb, rfl, -⟩
    simp only [List.length_append, length_header, EUI64.length_bytes] at hlen
    omega
  · simp only [hlen, if_false, decodeMAC_bind_eq_ok_iff (show 12 ≤ data.length by omega)]
    constructor
    · rintro ⟨hd, mac, pb, hv, rfl, hf⟩
      by_cases hpb : pb = []
      · subst hpb
        rw [if_neg (by simp)] at hf
        cases hf
        exact ⟨hv, [], rfl, rfl⟩
      · have hpos := List.length_pos_iff.mpr hpb
        rw [if_pos (by simp; omega), sliceFrom_append (by simp), ok_bind, bind_eq_ok] at hf
        obtain ⟨payload, hpl, hp⟩ := hf
        cases hp
        exact ⟨hv, pb, rfl, hpb, orFail_eq_ok.mp hpl⟩
    · obtain ⟨version, token, mac, payload⟩ := p
      rintro ⟨hv, pb, rfl, hpl⟩
      refine ⟨⟨_, _⟩, _, pb, hv, rfl, ?_⟩
      cases payload with
      | none =>
        dsimp only at hpl
        subst hpl
        rw [if_neg (by simp)]
      | some payload =>
        obtain ⟨hpb, hpl⟩ := hpl
        have hpos := List.length_pos_iff.mpr hpb
        rw [if_pos (by simp; omega), sliceFrom_append (by simp), ok_bind, hpl]
        rfl

/-! ### Datagrams, byte by byte -/

/-- Twelve bytes: a supported version, a token, the type PULL_DATA, a MAC. -/
def IsPullData (data : Bytes) (version t₀ t₁ : UInt8) (mac : EUI64) : Prop :=
  (version = 1 ∨ version = 2) ∧ data = version :: t₀ :: t₁ :: 2 :: mac.bytes

/-- At least thirteen bytes: a supported version, a token, the type PUSH_DATA, a MAC, and JSON that
decodes to `payload`. -/
def IsPushData (J : Codecs) (data : Bytes) (version t₀ t₁ : UInt8) (mac : EUI64)
    (payload : PushDataPayload) : Prop :=
  (version = 1 ∨ version = 2) ∧ ∃ pb, pb ≠ [] ∧
    data = version :: t₀ :: t₁ :: 0 :: (mac.bytes ++ pb) ∧ J.pushData.unmarshal pb = .ok payload

theorem isPullData_iff {mac : EUI64} {version t₀ t₁ : UInt8} :
    IsPullData data version t₀ t₁ mac ↔
      PullDataPacket.unmarshalBinary data = .ok ⟨version, uint16 t₀ t₁, mac⟩ := by
  rw [IsPullData, PullDataPacket.unmarshalBinary_eq_ok_iff, protocolSupported_iff, PacketType.pullData,
    header_uint16]
  rfl

theorem isPushData_iff {mac : EUI64} {version t₀ t₁ : UInt8} {payload : PushDataPayload} :
    IsPushData J data version t₀ t₁ mac payload ↔
      PushDataPacket.unmarshalBinary J data = .ok ⟨version, uint16 t₀ t₁, mac, payload⟩ := by
  rw [IsPushData, PushDataPacket.unmarshalBinary_eq_ok_iff, protocolSupported_iff, PacketType.pushData,
    header_uint16]
  rfl

/-- What the decoder of PULL_DATA accepts is a PULL_DATA. -/
theorem exists_isPullData {p : PullDataPacket} (hp : PullDataPacket.unmarshalBinary data = .ok p) :
    ∃ t₀ t₁, IsPullData data p.protocolVersion t₀ t₁ p.gatewayMAC := by
  obtain ⟨lo, hi, ht, -⟩ := header_eq p.protocolVersion p.randomToken .pullData
  exact ⟨lo, hi, isPullData_iff.mpr (by rw [hp, ht])⟩

theorem exists_isPushData {p : PushDataPacket} (hp : PushDataPacket.unmarshalBinary J data = .ok p) :
    ∃ t₀ t₁, IsPushData J data p.protocolVersion t₀ t₁ p.gatewayMAC p.payload := by
  obtain ⟨lo, hi, ht, -⟩ := header_eq p.protocolVersion p.randomToken .pushData
  exact ⟨lo, hi, isPushData_iff.mpr (by rw [hp, ht])⟩

/-- A PULL_DATA of `sampleMAC`, for the concrete runs. -/
def samplePull (version token : UInt8) : Bytes := version :: token :: 0 :: 2 :: sampleMAC.bytes

theorem isPullData_samplePull {version : UInt8} (token : UInt8) (hv : version = 1 ∨ version = 2) :
    IsPullData (samplePull version token) version token 0 sampleMAC := ⟨hv, rfl⟩

/-! ### The six packets together -/

/-- A packet of any of the six types. -/
inductive Packet where
  /-- PUSH_DATA. -/
  | pushData (p : PushDataPacket)
  /-- PUSH_ACK. -/
  | pushACK (p : PushACKPacket)
  /-- PULL_DATA. -/
  | pullData (p : PullDataPacket)
  /-- PULL_RESP. -/
  | pullResp (p : PullRespPacket)
  /-- PULL_ACK. -/
  | pullACK (p : PullACKPacket)
  /-- TX_ACK. -/
  | txACK (p : TXACKPacket)

namespace Packet

/-- The type of a packet. -/
def type : Packet → PacketType
  | .pushData _ => .pushData
  | .pushACK _ => .pushACK
  | .pullData _ => .pullData
  | .pullResp _ => .pullResp
  | .pullACK _ => .pullACK
  | .txACK _ => .txACK

/-- The `ProtocolVersion` of a packet. -/
def protocolVersion : Packet → UInt8
  | .pushData p => p.protocolVersion
  | .pushACK p => p.protocolVersion
  | .pullData p => p.protocolVersion
  | .pullResp p => p.protocolVersion
  | .pullACK p => p.protocolVersion
  | .txACK p => p.protocolVersion

/-- `MarshalBinary` of the packet's type. -/
def marshalBinary (J : Codecs) : Packet → Res Bytes
  | .pushData p => p.marshalBinary J
  | .pushACK p => p.marshalBinary
  | .pullData p => p.marshalBinary
  | .pullResp p => p.marshalBinary J
  | .pullACK p => p.marshalBinary
  | .txACK p => p.marshalBinary J

/-- `UnmarshalBinary` of the packet's type, into a zero value, returns the packet. -/
def DecodedFrom (J : Codecs) (data : Bytes) : Packet → Prop
  | .pushData p => PushDataPacket.unmarshalBinary J data = .ok p
  | .pushACK p => PushACKPacket.unmarshalBinary data = .ok p
  | .pullData p => PullDataPacket.unmarshalBinary data = .ok p
  | .pullResp p => PullRespPacket.unmarshalBinary J data = .ok p
  | .pullACK p => PullACKPacket.unmarshalBinary data = .ok p
  | .txACK p => TXACKPacket.unmarshalBinary J data = .ok p

/-- The JSON codec inverts on the payload of the packet, if it has one. -/
def PayloadInverts (J : Codecs) : Packet → Prop
  | .pushData p => J.pushData.Inverts p.payload
  | .pullResp p => J.pullResp.Inverts p.payload
  | .txACK p => ∀ payload, p.payload = some payload → J.txACK.Inverts payload
  | _ => True

/-- What the other side makes of a packet: itself, except that a PULL_RESP of version 1 does
not carry its token. -/
def received : Packet → Packet
  | .pullResp p =>
      .pullResp (if p.protocolVersion = protocolVersion1 then { p with randomToken := 0 } else p)
  | p => p

/-- A packet whose bytes say everything: it has no JSON payload. -/
def Bare : Packet → Prop
  | .pushACK _ | .pullData _ | .pullACK _ => True
  | .txACK p => p.payload = none
  | _ => False

variable {p q : Packet}

/-- A decoded packet has a supported version, and the datagram begins with its header. -/
theorem DecodedFrom.header (h : p.DecodedFrom J data) :
    protocolSupported p.protocolVersion ∧
      ∃ token rest, data = Semtech.header p.protocolVersion token p.type ++ rest := by
  cases p with
  | pushData p =>
    obtain ⟨hv, pb, -, rfl, -⟩ := PushDataPacket.unmarshalBinary_eq_ok_iff.mp h
    exact ⟨hv, _, _, List.append_assoc _ _ _⟩
  | pushACK p =>
    obtain ⟨hv, rfl⟩ := PushACKPacket.unmarshalBinary_eq_ok_iff.mp h
    exact ⟨hv, _, _, (List.append_nil _).symm⟩
  | pullData p =>
    obtain ⟨hv, rfl⟩ := PullDataPacket.unmarshalBinary_eq_ok_iff.mp h
    exact ⟨hv, _, _, rfl⟩
  | pullResp p =>
    obtain ⟨hv, pb, -, rfl, -⟩ := PullRespPacket.unmarshalBinary_eq_ok_iff.mp h
    exact ⟨hv, _, _, rfl⟩
  | pullACK p =>
    obtain ⟨hv, rfl⟩ := PullACKPacket.unmarshalBinary_eq_ok_iff.mp h
    exact ⟨hv, _, _, (List.append_nil _).symm⟩
  | txACK p =>
    obtain ⟨hv, pb, rfl, -⟩ := TXACKPacket.unmarshalBinary_eq_ok_iff.mp h
    exact ⟨hv, _, _, List.append_assoc _ _ _⟩

/-- The dispatcher sends a datagram to the decoder that accepts it. -/
theorem DecodedFrom.getPacketType (h : p.DecodedFrom J data) : getPacketType data = .ok p.type := by
  obtain ⟨hv, token, rest, rfl⟩ := h.header
  exact getPacketType_header hv rest

/-- No datagram is accepted by two decoders. -/
theorem DecodedFrom.type_eq {q : Packet} (hp : p.DecodedFrom J data) (hq : q.DecodedFrom J data) :
    p.type = q.type :=
  Except.ok.inj (hp.getPacketType.symm.trans hq.getPacketType)

/-- An encoded packet begins with a header of its version and type. -/
theorem exists_header_of_marshalBinary (h : p.marshalBinary J = .ok data) :
    ∃ token rest, data = Semtech.header p.protocolVersion token p.type ++ rest := by
  cases p with
  | pushData p =>
    obtain ⟨pb, -, hd⟩ := bind_eq_ok.mp h
    cases hd
    exact ⟨_, _, List.append_assoc _ _ _⟩
  | pushACK p =>
    cases h
    exact ⟨_, _, (List.append_nil _).symm⟩
  | pullData p =>
    cases h
    exact ⟨_, _, rfl⟩
  | pullResp p =>
    obtain ⟨pb, -, hd⟩ := bind_eq_ok.mp h
    cases hd
    exact ⟨_, _, rfl⟩
  | pullACK p =>
    cases h
    exact ⟨_, _, (List.append_nil _).symm⟩
  | txACK p =>
    obtain ⟨version, token, mac, payload⟩ := p
    cases payload with
    | none =>
      cases h
      exact ⟨_, _, List.append_assoc _ _ _⟩
    | some payload =>
      obtain ⟨pb, -, hd⟩ := bind_eq_ok.mp h
      cases hd
      exact ⟨_, _, List.append_assoc _ _ _⟩

/-- Encoding succeeds, and the decoder of the type reads the packet back. -/
theorem decodedFrom_marshalBinary (hv : protocolSupported p.protocolVersion)
    (hJ : p.PayloadInverts J) :
    ∃ data, p.marshalBinary J = .ok data ∧ p.received.DecodedFrom J data := by
  cases p with
  | pushData p =>
    obtain ⟨pb, hm, hne, hu⟩ := hJ
    refine ⟨_, by simp [marshalBinary, PushDataPacket.marshalBinary, hm]; rfl, ?_⟩
    exact PushDataPacket.unmarshalBinary_eq_ok_iff.mpr ⟨hv, pb, hne, by simp, hu⟩
  | pushACK p => exact ⟨_, rfl, PushACKPacket.unmarshalBinary_eq_ok_iff.mpr ⟨hv, rfl⟩⟩
  | pullData p => exact ⟨_, rfl, PullDataPacket.unmarshalBinary_eq_ok_iff.mpr ⟨hv, rfl⟩⟩
  | pullResp p =>
    obtain ⟨pb, hm, hne, hu⟩ := hJ
    refine ⟨_, by simp [marshalBinary, PullRespPacket.marshalBinary, hm]; rfl, ?_⟩
    refine PullRespPacket.unmarshalBinary_eq_ok_iff.mpr ?_
    by_cases h1 : p.protocolVersion = protocolVersion1
    · simp only [h1, if_true]
      exact ⟨by decide, pb, hne, by simp, hu⟩
    · simp only [h1, if_false]
      exact ⟨hv, pb, hne, by simp, hu⟩
  | pullACK p => exact ⟨_, rfl, PullACKPacket.unmarshalBinary_eq_ok_iff.mpr ⟨hv, rfl⟩⟩
  | txACK p =>
    obtain ⟨version, token, mac, payload⟩ := p
    cases payload with
    | none => exact ⟨_, rfl, TXACKPacket.unmarshalBinary_eq_ok_iff.mpr ⟨hv, [], rfl, rfl⟩⟩
    | some payload =>
      obtain ⟨pb, hm, hne, hu⟩ := hJ payload rfl
      refine ⟨_, by simp [marshalBinary, TXACKPacket.marshalBinary, hm]; rfl, ?_⟩
      exact TXACKPacket.unmarshalBinary_eq_ok_iff.mpr ⟨hv, pb, by simp, hne, hu⟩

/-- A TX_ACK of twelve bytes has no payload. -/
theorem bare_of_length {p : TXACKPacket} (h : (txACK p).DecodedFrom J data) (hlen : data.length = 12) :
    (txACK p).Bare := by
  obtain ⟨-, pb, rfl, hpb⟩ := TXACKPacket.unmarshalBinary_eq_ok_iff.mp h
  simp only [List.length_append, length_header, EUI64.length_bytes, Nat.reduceAdd,
    Nat.add_eq_left, List.length_eq_zero_iff] at hlen
  cases hpl : p.payload with
  | none => exact hpl
  | some payload =>
    rw [hpl] at hpb
    exact absurd hlen hpb.1

/-- A packet without a JSON payload is encoded as it was received. -/
theorem DecodedFrom.marshalBinary (h : p.DecodedFrom J data) (hb : p.Bare) :
    p.marshalBinary J = .ok data := by
  cases p with
  | pushData p => exact hb.elim
  | pushACK p =>
    rw [(PushACKPacket.unmarshalBinary_eq_ok_iff.mp h).2]
    rfl
  | pullData p =>
    rw [(PullDataPacket.unmarshalBinary_eq_ok_iff.mp h).2]
    rfl
  | pullResp p => exact hb.elim
  | pullACK p =>
    rw [(PullACKPacket.unmarshalBinary_eq_ok_iff.mp h).2]
    rfl
  | txACK p =>
    obtain ⟨version, token, mac, payload⟩ := p
    obtain rfl : payload = none := hb
    obtain ⟨-, pb, rfl, rfl⟩ := TXACKPacket.unmarshalBinary_eq_ok_iff.mp h
    rfl

end Packet

/-- **The wire format.** For packets of a supported version whose JSON payload the codec
inverts, decoding gives back what was encoded, up to the token of a PULL_RESP of version 1;
a datagram accepted as PUSH_ACK, PULL_DATA, PULL_ACK, or as TX_ACK of twelve bytes is what its
packet is encoded as; and a datagram accepted by a decoder has that decoder's type, so it is
accepted by no other, as has every encoded packet. -/
theorem wire_format (J : Codecs) :
    (∀ p : Packet, protocolSupported p.protocolVersion → p.PayloadInverts J →
      ∃ data, p.marshalBinary J = .ok data ∧ p.received.DecodedFrom J data) ∧
    (∀ (p : Packet) (data : Bytes), p.DecodedFrom J data →
      p.type = .pushACK ∨ p.type = .pullData ∨ p.type = .pullACK ∨
        (p.type = .txACK ∧ data.length = 12) → p.marshalBinary J = .ok data) ∧
    (∀ (p : Packet) (data : Bytes), p.DecodedFrom J data → getPacketType data = .ok p.type) ∧
    (∀ (p q : Packet) (data : Bytes), p.DecodedFrom J data → q.DecodedFrom J data → p.type = q.type) ∧
    (∀ (p : Packet) (data : Bytes), protocolSupported p.protocolVersion →
      p.marshalBinary J = .ok data → getPacketType data = .ok p.type) := by
  refine ⟨fun p hv hJ => Packet.decodedFrom_marshalBinary hv hJ, ?_, fun p data h => h.getPacketType,
    ?_, ?_⟩
  · intro p data h hp
    refine h.marshalBinary ?_
    simp only [PacketType.pushACK, PacketType.pullData, PacketType.pullACK, PacketType.txACK,
      PacketType.ext_iff] at hp
    cases p with
    | pushData p => exact absurd hp (by simp [Packet.type, PacketType.pushData])
    | pushACK p => trivial
    | pullData p => trivial
    | pullResp p => exact absurd hp (by simp [Packet.type, PacketType.pullResp])
    | pullACK p => trivial
    | txACK p => exact Packet.bare_of_length h (by simpa [Packet.type, PacketType.txACK] using hp)
  · intro p q data hp hq
    exact hp.type_eq hq
  · intro p data hv h
    obtain ⟨token, rest, rfl⟩ := Packet.exists_header_of_marshalBinary h
    exact getPacketType_header hv rest

/-- A TX_ACK that reports no error, as a gateway sends it, comes back as it was. -/
theorem wire_format_txACK :
    let payload : TXACKPayload := ⟨str "NONE"⟩
    let J : Codecs := ⟨.ofTable [], .ofTable [],
      .ofTable [(payload, str "\x7b\"txpk_ack\":\x7b\"error\":\"NONE\"\x7d\x7d")]⟩
    let p : Packet := .txACK ⟨2, 12345, ⟨[1, 2, 3, 4, 5, 6, 7, 8], rfl⟩, some payload⟩
    ∃ data, p.marshalBinary J = .ok data ∧ p.received.DecodedFrom J data := by
  intro payload J p
  refine (wire_format J).1 p (by decide) ?_
  rintro payload' ⟨⟩
  exact ⟨_, rfl, by decide, rfl⟩

end GatewayBridge.Semtech
