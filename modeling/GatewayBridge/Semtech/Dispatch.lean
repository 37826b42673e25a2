import GatewayBridge.Semtech.Backend
import GatewayBridge.Semtech.Wire

/-!
# Which handler gets a datagram, and what it can do

`handlePacket` looks at the packet type and then decodes, and the two checks agree:
`handlePacket_cases` says which program is left for every byte string. The effects
that each call of the backend can perform (`Call.Allowed`) are bounded by its call
alone, whatever the other goroutines do: a handler registers a gateway only if its
datagram is a PULL_DATA, under the MAC, the address and the version of that datagram.
-/

namespace GatewayBridge.Semtech

open GatewayBridge.Go GatewayBridge.Lora GatewayBridge.Process Prog

variable {J : Codecs} {addr : UDPAddr} {data : Bytes}

/-! ### Dispatch -/

/-- `handlePacket` once the type of the datagram is known. -/
theorem handlePacket_eq {pt : PacketType} (hpt : getPacketType data = .ok pt) :
    handlePacket J addr data =
      if pt = .pushData then handlePushData J addr data
      else if pt = .pullData then handlePullData addr data
      else if pt = .txACK then handleTXACK J data
      else lift (fail (.unknownPacketType pt)) := by
  rcases getPacketType_cases data with ⟨e, he⟩ | ⟨v, lo, hi, t, rest, rfl, -, -⟩
  · rw [hpt] at he
    cases he
  · rw [handlePacket, hpt]
    rfl

/-- **Which program a datagram leads to**: one of the three handlers, on a datagram that its
decoder accepts, or none, and then an error. -/
theorem handlePacket_cases (J : Codecs) (addr : UDPAddr) (data : Bytes) :
    (∃ p, PullDataPacket.unmarshalBinary data = .ok p ∧
      (handlePacket J addr data).run = (handlePullData addr data).run) ∨
    (∃ p, PushDataPacket.unmarshalBinary J data = .ok p ∧
      (handlePacket J addr data).run = (handlePushData J addr data).run) ∨
    (∃ p, TXACKPacket.unmarshalBinary J data = .ok p ∧ (handlePacket J addr data).run = .ret (.ok ())) ∨
    ((∀ p, PullDataPacket.unmarshalBinary data ≠ .ok p) ∧
      (∀ p, PushDataPacket.unmarshalBinary J data ≠ .ok p) ∧
      (∀ p, TXACKPacket.unmarshalBinary J data ≠ .ok p) ∧
      ∃ e, (handlePacket J addr data).run = .ret (fail e)) := by
  by_cases hpull : ∃ p, PullDataPacket.unmarshalBinary data = .ok p
  · obtain ⟨p, hp⟩ := hpull
    refine .inl ⟨p, hp, ?_⟩
    rw [handlePacket_eq (Packet.DecodedFrom.getPacketType (J := J) (p := .pullData p) hp)]
    rfl
  by_cases hpush : ∃ p, PushDataPacket.unmarshalBinary J data = .ok p
  · obtain ⟨p, hp⟩ := hpush
    refine .inr (.inl ⟨p, hp, ?_⟩)
    rw [handlePacket_eq (Packet.DecodedFrom.getPacketType (p := .pushData p) hp)]
    rfl
  by_cases htx : ∃ p, TXACKPacket.unmarshalBinary J data = .ok p
  · obtain ⟨p, hp⟩ := htx
    refine .inr (.inr (.inl ⟨p, hp, ?_⟩))
    rw [handlePacket_eq (Packet.DecodedFrom.getPacketType (p := .txACK p) hp)]
    simp only [Packet.type, PacketType.txACK, PacketType.pushData, PacketType.pullData]
    rw [handleTXACK, hp]
    rfl
  rw [not_exists] at hpull hpush htx
  refine .inr (.inr (.inr ⟨hpull, hpush, htx, ?_⟩))
  rcases getPacketType_cases data with ⟨e, he⟩ | ⟨v, lo, hi, t, rest, -, -, ht⟩
  · exact ⟨e, by rw [handlePacket, he]; rfl⟩
  · rw [handlePacket_eq ht]
    split_ifs
    · obtain ⟨e, he⟩ := (PushDataPacket.unmarshalBinary_noPanic J data).exists_fail hpush
      exact ⟨e, by rw [handlePushData, he]; rfl⟩
    · obtain ⟨e, he⟩ := (PullDataPacket.unmarshalBinary_noPanic data).exists_fail hpull
      exact ⟨e, by rw [handlePullData, he]; rfl⟩
    · obtain ⟨e, he⟩ := (TXACKPacket.unmarshalBinary_noPanic J data).exists_fail htx
      exact ⟨e, by rw [handleTXACK, he]; rfl⟩
    · exact ⟨_, rfl⟩

/-- A PULL_DATA as a program: it reads the clock, registers the gateway, and acknowledges. -/
theorem handlePacket_run_of_isPullData {version t₀ t₁ : UInt8} {mac : EUI64}
    (hdata : IsPullData data version t₀ t₁ mac) :
    (handlePacket J addr data).run = .eff .now fun now =>
      .eff (.set mac ⟨some addr, now, version⟩) fun answer =>
        match answer with
        | .error e => .ret (fail e)
        | .ok _ => .eff (.udpSend ⟨some addr, [version, t₀, t₁, 4]⟩) fun answer => .ret (orPanic answer) := by
  have hp := isPullData_iff.mp hdata
  rw [handlePacket_eq (Packet.DecodedFrom.getPacketType (J := J) (p := .pullData _) hp)]
  simp only [Packet.type, PacketType.pushData, PacketType.pullData]
  rw [handlePullData, hp, ← header_uint16]
  refine congrArg (Prog.eff Eff.now) (funext fun now =>
    congrArg (Prog.eff (Eff.set mac _)) (funext fun answer => ?_))
  cases answer with
  | error e => rfl
  | ok _ => rfl

/-! ### The effects of a call -/

/-- The effects that a call can perform. -/
def Call.Allowed : Call → Eff → Prop
  | .datagram addr data, .set mac gw => ∃ p, PullDataPacket.unmarshalBinary data = .ok p ∧
      p.gatewayMAC = mac ∧ gw.addr = some addr ∧ gw.protocolVersion = p.protocolVersion
  | .datagram _ _, .now | .datagram _ _, .get _ | .datagram _ _, .udpSend _
  | .datagram _ _, .statsSend _ | .datagram _ _, .rxSend _ => True
  | .send txPacket, .get mac => mac = txPacket.txInfo.mac
  | .send _, .udpSend _ => True
  | .cleanup, .cleanup => True
  | .close, .setClosed | .close, .closeUdpSendChan | .close, .connClose | .close, .wgWait => True
  | _, _ => False

theorem handlePullData_uses {p : PullDataPacket} (hp : PullDataPacket.unmarshalBinary data = .ok p) :
    (handlePullData addr data).run.Uses (Call.datagram addr data).Allowed := by
  rw [handlePullData, hp]
  refine ⟨trivial, fun now => ⟨⟨p, hp, rfl, rfl, rfl⟩, fun answer => ?_⟩⟩
  cases answer with
  | error e => trivial
  | ok _ => exact ⟨trivial, fun _ => trivial⟩

/-- The effects of a handler once its PUSH_DATA is acknowledged. -/
def Acknowledged : Eff → Prop
  | .get _ | .statsSend _ | .rxSend _ => True
  | _ => False

theorem handleRXPackets_uses (mac : EUI64) (rxpks : List RXPK) :
    (handleRXPackets mac rxpks).run.Uses Acknowledged := by
  induction rxpks with
  | nil => trivial
  | cons rxpk rest ih =>
    refine uses_go_bind (uses_go_bind (uses_lift _) fun rxPacket => ?_) fun _ => ih
    split_ifs
    · trivial
    · exact ⟨trivial, fun _ => trivial⟩

theorem handlePayload_uses (addr : UDPAddr) (mac : EUI64) (payload : PushDataPayload) :
    (handlePayload addr mac payload).run.Uses Acknowledged := by
  rw [handlePayload]
  cases payload.stat with
  | none => exact handleRXPackets_uses mac payload.rxpk
  | some stat =>
    exact uses_go_bind ⟨trivial, fun _ => ⟨trivial, fun _ => trivial⟩⟩ fun _ => handleRXPackets_uses mac _

/-- A PUSH_DATA as a program: it acknowledges, and what comes after is no send on `udpSendChan`. -/
theorem handlePushData_run (addr : UDPAddr) {p : PushDataPacket}
    (hp : PushDataPacket.unmarshalBinary J data = .ok p) :
    ∃ ack k, (handlePushData J addr data).run = .eff (.udpSend ack) k ∧ ∀ answer, (k answer).Uses Acknowledged := by
  rw [handlePushData, hp]
  refine ⟨_, _, rfl, fun answer => ?_⟩
  cases answer with
  | error e => trivial
  | ok _ => exact handlePayload_uses addr p.gatewayMAC p.payload

theorem handlePushData_uses {p : PushDataPacket} (hp : PushDataPacket.unmarshalBinary J data = .ok p) :
    (handlePushData J addr data).run.Uses (Call.datagram addr data).Allowed := by
  obtain ⟨ack, k, hrun, hk⟩ := handlePushData_run addr hp
  rw [hrun]
  refine ⟨trivial, fun answer => (hk answer).mono fun e he => ?_⟩
  cases e with
  | get _ | statsSend _ | rxSend _ => trivial
  | _ => exact he.elim

theorem handlePacket_uses (J : Codecs) (addr : UDPAddr) (data : Bytes) :
    (handlePacket J addr data).run.Uses (Call.datagram addr data).Allowed := by
  rcases handlePacket_cases J addr data with ⟨p, hp, h⟩ | ⟨p, hp, h⟩ | ⟨-, -, h⟩ | ⟨-, -, -, e, h⟩
  · rw [h]
    exact handlePullData_uses hp
  · rw [h]
    exact handlePushData_uses hp
  · rw [h]
    trivial
  · rw [h]
    trivial

theorem send_uses (J : Codecs) (txPacket : TXPacketBytes) :
    (send J txPacket).run.Uses (Call.send txPacket).Allowed := by
  refine ⟨rfl, fun answer => ?_⟩
  obtain ⟨gw, err⟩ := answer
  cases err with
  | some e => trivial
  | none => exact uses_go_bind (uses_lift _) fun _ => ⟨trivial, fun _ => trivial⟩

theorem close_uses : close.run.Uses Call.close.Allowed := by
  refine ⟨trivial, fun _ => ⟨trivial, fun answer => ?_⟩⟩
  cases answer with
  | error e => trivial
  | ok _ =>
    refine ⟨trivial, fun answer => ?_⟩
    cases answer with
    | error e => trivial
    | ok _ => exact ⟨trivial, fun _ => trivial⟩

/-- **What a call can do**, whatever its effects are answered. -/
theorem Call.body_uses (J : Codecs) (l : Call) : (l.body J).Uses l.Allowed := by
  cases l with
  | datagram addr data => exact handlePacket_uses J addr data
  | send txPacket => exact send_uses J txPacket
  | cleanup => exact ⟨trivial, fun _ => trivial⟩
  | close => exact close_uses

/-- Every effect but `wg.Wait` has an answer, in every state. -/
theorem sem_total {cb : Callbacks} (e : Eff) (h : e ≠ .wgWait) (s : BackendState) :
    ∃ r s', sem cb e s r s' := by
  cases e with
  | now => exact ⟨(0 : ℤ), s, rfl⟩
  | get mac => exact onRegistry_total _ s
  | set mac gw => exact onRegistry_total _ s
  | cleanup => exact onRegistry_total _ s
  | udpSend p => exact ⟨_, s, rfl, rfl⟩
  | statsSend stats => exact ⟨(), s, rfl⟩
  | rxSend rxPacket => exact ⟨(), s, rfl⟩
  | setClosed => exact ⟨(), _, rfl⟩
  | closeUdpSendChan => exact ⟨_, _, rfl, rfl⟩
  | connClose => exact ⟨.ok (), _, rfl⟩
  | wgWait => exact absurd rfl h

/-- Only `Close` waits for the loops, so every effect of another call has an answer. -/
theorem sem_total_of_allowed {cb : Callbacks} (l : Call) (hl : l ≠ .close) (e : Eff) (h : l.Allowed e)
    (s : BackendState) : ∃ r s', sem cb e s r s' := by
  refine sem_total e ?_ s
  rintro rfl
  cases l with
  | close => exact hl rfl
  | datagram addr data => exact h
  | send txPacket => exact h
  | cleanup => exact h

end GatewayBridge.Semtech
