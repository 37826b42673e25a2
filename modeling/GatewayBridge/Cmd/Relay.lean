import GatewayBridge.Semtech.Uplink
import GatewayBridge.Semtech.Routing
import GatewayBridge.Ttn.Downlink
import GatewayBridge.Ttn.Composition
import GatewayBridge.Process.Emits

/-!
# The bridge as a whole

`run` of `cmd/lora-gateway-bridge/main.go`: the backend of the gateways (`Semtech.Backend`) and that
of the router (`Ttn.Backend`), joined by the callbacks of the registry and by three loops.

* A goroutine for each packet from `RXPacketChan()` calls `PublishGatewayRX`, and one for
  each packet from `StatsChan()` calls `PublishGatewayStats`. The loop takes the next packet
  once the goroutine is started: at most one packet is in its hands.
* A loop takes the packets from `TXPacketChan()` and calls `Send` for each, one after the other.

All the channels are unbuffered: a send is performed when the packet is received. A handler of a
datagram registers its gateway by the steps of the registry and of its callbacks (`frontWire`), under
the lock of the registry, and reads the registry (`get`) when nobody holds that lock. The goroutine of
`SubscribeGatewayTX` consumes the messages of its stream. What becomes of an error is to be
logged, so no call has a result here.

The runs are those up to the end of `gwBackend.Close()`. The `ttn.Close()` that `run` defers as well
comes after it: it closes all the streams, while the other goroutines go on and the registry still
has its gateways.
-/

namespace GatewayBridge.Cmd

open GatewayBridge.Go GatewayBridge.Lora GatewayBridge.Process GatewayBridge.Semtech GatewayBridge.Ttn Prog

/-! ### Effects -/

/-- What the goroutines do to what they share. -/
inductive RelayEff where
  /-- An effect of the backend of the gateways. -/
  | front (e : Eff)
  /-- An effect of the registry with its lock, or of the backend of the router. -/
  | bridge (e : BridgeEff)
  /-- An effect of the goroutine of `SubscribeGatewayTX`. -/
  | downlink (e : DownlinkEff)
  /-- `go func(rxPacket gw.RXPacketBytes)`: the goroutine has the packet. -/
  | takeRX
  /-- `go func(stats gw.GatewayStatsPacket)`: the goroutine has the packet. -/
  | takeStats
  /-- The loop over `ttn.TXPacketChan()` waits for a packet. -/
  | rangeTX
  /-- The loop over `ttn.TXPacketChan()` has received a packet. -/
  | takeTX

/-- The answers. -/
abbrev RelayEff.Resp : RelayEff → Type
  | .front e => e.Resp
  | .bridge e => e.Resp
  | .downlink e => e.Resp
  | .takeRX => RXPacketBytes
  | .takeStats => GatewayStatsPacket
  | .rangeTX => Unit
  | .takeTX => TXPacketBytes

/-- A program of the bridge. -/
abbrev RelayProg := Prog RelayEff RelayEff.Resp

/-- Steps of the registry and of the backend of the router. -/
def callBridge {α : Type} (p : BridgeProg α) : RelayProg α := p.handle fun e => ask (RelayEff.bridge e)

/-- The registry in place of the effects `set` and `cleanup` of the backend of the gateways. -/
def frontWire : (e : Eff) → RelayProg e.Resp
  | .set mac gw => callBridge (registryLock.locked ((Gateways.set runCallbacks mac gw).handle wire))
  | .cleanup => callBridge (registryLock.locked ((Gateways.cleanup runCallbacks).handle wire))
  | .now => ask (RelayEff.front .now)
  | .get mac => ask (RelayEff.front (.get mac))
  | .udpSend p => ask (RelayEff.front (.udpSend p))
  | .statsSend stats => ask (RelayEff.front (.statsSend stats))
  | .rxSend rxPacket => ask (RelayEff.front (.rxSend rxPacket))
  | .setClosed => ask (RelayEff.front .setClosed)
  | .closeUdpSendChan => ask (RelayEff.front .closeUdpSendChan)
  | .connClose => ask (RelayEff.front .connClose)
  | .wgWait => ask (RelayEff.front .wgWait)

/-- A function of the backend of the gateways. -/
def callFront {α : Type} (p : M α) : RelayProg (Except (Fault GwError) α) := p.run.handle frontWire

/-- A method of the backend of the router. -/
def callBackend {α : Type} (p : TtnProg α) : RelayProg α := callBridge (callTtn p)

/-- The result is logged. -/
def discard {α : Type} (p : RelayProg α) : RelayProg Unit := do
  let _ ← p
  pure ()

/-! ### The goroutines -/

/-- `ttn.PublishGatewayRX(rxPacket.RXInfo.MAC, rxPacket)`, of the packet that the goroutine has. -/
def forwardRX (cfg : Settings) : RelayProg Unit := do
  let rxPacket ← ask RelayEff.takeRX
  discard (callBackend (publishGatewayRX cfg rxPacket.rxInfo.mac rxPacket))

/-- `ttn.PublishGatewayStats(stats.MAC, stats)`, of the packet that the goroutine has. -/
def forwardStats (cfg : Settings) : RelayProg Unit := do
  let stats ← ask RelayEff.takeStats
  discard (callBackend (publishGatewayStats cfg stats.mac stats))

/-- `for txPacket := range ttn.TXPacketChan()`, for the first `n` packets. A panic ends it. -/
def forwardTX (J : Codecs) : ℕ → RelayProg Unit
  | 0 => pure ()
  | n + 1 => do
      ask RelayEff.rangeTX
      let txPacket ← ask RelayEff.takeTX
      match ← callFront (Semtech.send J txPacket) with
      | .error (.panic _) => pure ()
      | _ => forwardTX J n

/-- `for in := range gtw.downlink.Channel()`, on the messages it receives. -/
def consumeDownlinks (mac : EUI64) : List DownlinkMessage → GoProg Empty DownlinkEff DownlinkEff.Resp Unit
  | [] => lift (.ok ())
  | message :: messages => do
      consumeDownlink mac message
      consumeDownlinks mac messages

/-- What runs at once. -/
inductive RelayCall where
  /-- A datagram arrives. -/
  | datagram (addr : UDPAddr) (data : Bytes)
  /-- The registry is cleaned up. -/
  | cleanup
  /-- `gwBackend.Close()`. -/
  | close
  /-- A goroutine for a packet from `RXPacketChan()`. -/
  | forwardRX
  /-- A goroutine for a packet from `StatsChan()`. -/
  | forwardStats
  /-- The loop over `TXPacketChan()`. -/
  | forwardTX (n : ℕ)
  /-- A goroutine of `SubscribeGatewayTX(mac)`, with the stream `st` that it reads and what it receives. There
  may be several on one stream. -/
  | consume (mac : EUI64) (st : ℕ) (messages : List DownlinkMessage)
  /-- The goroutine of `newGtw`. -/
  | findConf (gtw : ℕ)
  /-- `b.tick()`. -/
  | tick

/-- The program of each. -/
def RelayCall.body (J : Codecs) (cfg : Settings) : RelayCall → RelayProg Unit
  | .datagram addr data => discard (callFront (Semtech.handlePacket J addr data))
  | .cleanup => discard (callFront Semtech.cleanup)
  | .close => discard (callFront Semtech.close)
  | .forwardRX => Cmd.forwardRX cfg
  | .forwardStats => Cmd.forwardStats cfg
  | .forwardTX n => Cmd.forwardTX J n
  | .consume mac _ messages =>
      discard ((consumeDownlinks mac messages).run.handle fun e => ask (RelayEff.downlink e))
  | .findConf gtw => discard (callBackend (Ttn.findConf gtw))
  | .tick => callBackend (ask TtnEff.tick)

/-! ### The shared state -/

/-- The loop over `TXPacketChan()`. -/
inductive TxLoop where
  /-- It is in `Send`, or has not begun. -/
  | busy
  /-- It waits for a packet. -/
  | ready
  /-- It has received a packet. -/
  | received (txPacket : TXPacketBytes)

/-- What the goroutines share. -/
structure RelayState where
  /-- The registry, with its lock, and the backend of the router. -/
  bridge : BridgeState := {}
  /-- `b.closed`, of the backend of the gateways. -/
  closed : Bool := false
  /-- `udpSendChan` has been closed. -/
  udpSendClosed : Bool := false
  /-- The socket has been closed. -/
  connClosed : Bool := false
  /-- The packet in the hands of the loop over `RXPacketChan()`. -/
  rx : Option RXPacketBytes := none
  /-- The packet in the hands of the loop over `StatsChan()`. -/
  stats : Option GatewayStatsPacket := none
  /-- The loop over `TXPacketChan()`. -/
  tx : TxLoop := .busy

/-- `b.gateways.get(mac)` waits for the lock of the registry, which it only reads. -/
def registryGet (mac : EUI64) (s : BridgeState) (r : Gateway × Option GwError) : Prop :=
  s.locked = false ∧ ∃ tr, Runs (regSem freeWorld) (Gateways.get mac) (s.registry, ()) tr r (s.registry, ())

/-- What the effects of the backend of the gateways do. `set` and `cleanup` are never performed:
`frontWire` has a program in their place. -/
def frontSem : (e : Eff) → RelayState → e.Resp → RelayState → Prop
  | .now, s, _, s' => s' = s
  | .get mac, s, r, s' => registryGet mac s.bridge r ∧ s' = s
  | .set _ _, _, _, _ => False
  | .cleanup, _, _, _ => False
  | .udpSend _, s, r, s' => r = (if s.udpSendClosed then .error .sendOnClosedChannel else .ok ()) ∧ s' = s
  | .statsSend stats, s, _, s' => s.stats = none ∧ s' = { s with stats := some stats }
  | .rxSend rxPacket, s, _, s' => s.rx = none ∧ s' = { s with rx := some rxPacket }
  | .setClosed, s, _, s' => s' = { s with closed := true }
  | .closeUdpSendChan, s, r, s' =>
      r = (if s.udpSendClosed then .error .closeOfClosedChannel else .ok ()) ∧
        s' = { s with udpSendClosed := true }
  | .connClose, s, _, s' => s' = { s with connClosed := true }
  | .wgWait, s, _, s' => s.connClosed ∧ s' = s

/-- What the effects do. -/
def relaySem (cfg : Settings) : (e : RelayEff) → RelayState → e.Resp → RelayState → Prop
  | .front e, s, r, s' => frontSem e s r s'
  | .bridge e, s, r, s' => ∃ b, bridgeSem cfg e s.bridge r b ∧ s' = { s with bridge := b }
  | .downlink (.txSend txPacket), s, _, s' => s.tx = .ready ∧ s' = { s with tx := .received txPacket }
  | .takeRX, s, r, s' => s.rx = some r ∧ s' = { s with rx := none }
  | .takeStats, s, r, s' => s.stats = some r ∧ s' = { s with stats := none }
  | .rangeTX, s, _, s' => s.tx = .busy ∧ s' = { s with tx := .ready }
  | .takeTX, s, r, s' => s.tx = .received r ∧ s' = { s with tx := .busy }

/-- The bridge, up to `ttn.Close()`: any datagrams, at any time. No datagram arrives on a closed socket, and the
goroutine of `SubscribeGatewayTX` reads the stream that its `gtw` has when it begins to. -/
def relay (J : Codecs) (cfg : Settings) : System RelayState RelayCall RelayEff RelayEff.Resp Unit where
  body := RelayCall.body J cfg
  sem := relaySem cfg
  starts
    | .datagram _ _, s => s.connClosed = false
    | .consume mac st _, s => ∃ gtw, s.bridge.ttn.gateways.lookup mac = some gtw ∧
        s.bridge.ttn.downlink gtw = some st
    | .findConf gtw, s => cfg.accountServer = true ∧ s.bridge.ttn.gtws[gtw]?.map Gtw.conf = some none
    | _, _ => True

/-- An effect that the bridge performed. -/
abbrev RelayEntry := Entry RelayState RelayEff RelayEff.Resp

/-- A configuration of the bridge. -/
abbrev RelayCfg := Cfg RelayState RelayCall RelayEff RelayEff.Resp Unit

/-- `run` starts one loop over `TXPacketChan()`. -/
def OneLoop (c : RelayCfg) : Move RelayCall RelayEff → Prop
  | .start (.forwardTX _) => ∀ i n, c.call i ≠ some (.forwardTX n)
  | _ => True

variable {J : Codecs} {cfg : Settings} {l : RelayCall} {mac : EUI64} {gw : Gateway} {gtw : ℕ}

/-! ### The channels -/

/-- What is put on `rxChan`. -/
def rxPut : Event RelayEff RelayEff.Resp → Option RXPacketBytes
  | ⟨.front (.rxSend rxPacket), _⟩ => some rxPacket
  | _ => none

/-- What the loop over `RXPacketChan()` hands on. -/
def rxTake : Event RelayEff RelayEff.Resp → Option RXPacketBytes
  | ⟨.takeRX, rxPacket⟩ => some rxPacket
  | _ => none

/-- What is put on `statsChan`. -/
def statsPut : Event RelayEff RelayEff.Resp → Option GatewayStatsPacket
  | ⟨.front (.statsSend stats), _⟩ => some stats
  | _ => none

/-- What the loop over `StatsChan()` hands on. -/
def statsTake : Event RelayEff RelayEff.Resp → Option GatewayStatsPacket
  | ⟨.takeStats, stats⟩ => some stats
  | _ => none

/-- What is put on `txPacketChan`. -/
def txPut : Event RelayEff RelayEff.Resp → Option TXPacketBytes
  | ⟨.downlink (.txSend txPacket), _⟩ => some txPacket
  | _ => none

/-- What the loop over `TXPacketChan()` receives. -/
def txTake : Event RelayEff RelayEff.Resp → Option TXPacketBytes
  | ⟨.takeTX, txPacket⟩ => some txPacket
  | _ => none

/-- The packet that the loop over `TXPacketChan()` has received. -/
def TxLoop.packet : TxLoop → Option TXPacketBytes
  | .received txPacket => some txPacket
  | _ => none

/-- What an effect does to the channels. -/
theorem channels_of_relaySem {s s' : RelayState} {e : RelayEff} {r : e.Resp} (hs : relaySem cfg e s r s') :
    s.rx.toList ++ (rxPut ⟨e, r⟩).toList = (rxTake ⟨e, r⟩).toList ++ s'.rx.toList ∧
      s.stats.toList ++ (statsPut ⟨e, r⟩).toList = (statsTake ⟨e, r⟩).toList ++ s'.stats.toList ∧
      s.tx.packet.toList ++ (txPut ⟨e, r⟩).toList = (txTake ⟨e, r⟩).toList ++ s'.tx.packet.toList := by
  cases e with
  | front e =>
    cases e with
    | set mac gw => exact hs.elim
    | cleanup => exact hs.elim
    | rxSend rxPacket | statsSend stats =>
      obtain ⟨hnone, rfl⟩ := hs
      simp [hnone, rxPut, rxTake, statsPut, statsTake, txPut, txTake]
    | now | setClosed | connClose =>
      cases hs
      simp [rxPut, rxTake, statsPut, statsTake, txPut, txTake]
    | get _ | udpSend _ | closeUdpSendChan | wgWait =>
      cases hs.2
      simp [rxPut, rxTake, statsPut, statsTake, txPut, txTake]
  | bridge e =>
    obtain ⟨b, -, rfl⟩ := hs
    simp [rxPut, rxTake, statsPut, statsTake, txPut, txTake]
  | takeRX | takeStats | takeTX =>
    obtain ⟨hsome, rfl⟩ := hs
    simp [hsome, rxPut, rxTake, statsPut, statsTake, txPut, txTake, TxLoop.packet]
  | downlink e | rangeTX =>
    obtain ⟨hloop, rfl⟩ := hs
    simp [hloop, rxPut, rxTake, statsPut, statsTake, txPut, txTake, TxLoop.packet]

section Channels

variable {ok : RelayCfg → Move RelayCall RelayEff → Prop} {h : List RelayEntry} {c : RelayCfg}

/-- The packets on `rxChan` have been handed on, but for the one that the loop has. -/
theorem rx_channel (hr : Run (relay J cfg) ok {} h c) :
    (emitted rxPut h).map Prod.snd = (emitted rxTake h).map Prod.snd ++ c.shared.rx.toList :=
  hr.linked.channel (fun s => s.rx.toList) fun _ _ _ _ hs => (channels_of_relaySem hs).1

/-- The packets on `statsChan` have been handed on, but for the one that the loop has. -/
theorem stats_channel (hr : Run (relay J cfg) ok {} h c) :
    (emitted statsPut h).map Prod.snd = (emitted statsTake h).map Prod.snd ++ c.shared.stats.toList :=
  hr.linked.channel (fun s => s.stats.toList) fun _ _ _ _ hs => (channels_of_relaySem hs).2.1

/-- The packets on `txPacketChan` have been received, but for the one that the loop takes next. -/
theorem tx_channel (hr : Run (relay J cfg) ok {} h c) :
    (emitted txPut h).map Prod.snd = (emitted txTake h).map Prod.snd ++ c.shared.tx.packet.toList :=
  hr.linked.channel (fun s => s.tx.packet.toList) fun _ _ _ _ hs => (channels_of_relaySem hs).2.2

end Channels

/-! ### Who performs what -/

/-- The datagram is an acknowledgement. -/
def IsAck (p : UdpPacket) : Prop :=
  ∃ version token, p.data = header version token .pushACK ∨ p.data = header version token .pullACK

/-- The effects of `l`. Only a PULL_DATA stores an entry in the registry, and it is that of its sender. -/
def RelayCall.Allowed (l : RelayCall) : RelayEff → Prop
  | .front (.rxSend _) => ∃ addr data, l = .datagram addr data
  | .front (.statsSend _) => ∃ addr data, l = .datagram addr data
  | .front (.udpSend p) => IsAck p ∨ ∃ n, l = .forwardTX n
  | .bridge (.registry (.store mac gw)) => ∃ addr data p, l = .datagram addr data ∧
      PullDataPacket.unmarshalBinary data = .ok p ∧ p.gatewayMAC = mac ∧ gw.addr = some addr ∧
      gw.protocolVersion = p.protocolVersion
  | .bridge (.ttn (.uplinkSend _ _)) => l = .forwardRX
  | .bridge (.ttn (.statusSend _ _)) => l = .forwardStats
  | .downlink _ => ∃ mac st messages, l = .consume mac st messages
  | .takeRX => l = .forwardRX
  | .takeStats => l = .forwardStats
  | .rangeTX => ∃ n, l = .forwardTX n
  | .takeTX => ∃ n, l = .forwardTX n
  | _ => True

theorem uses_discard {α : Type} {P : RelayEff → Prop} {p : RelayProg α} (hp : p.Uses P) :
    (discard p).Uses P := hp.bind fun _ => trivial

theorem uses_callBackend {α : Type} {P : RelayEff → Prop} {P' : TtnEff → Prop} {p : TtnProg α}
    (hp : p.Uses P') (hP : ∀ e, P' e → P (.bridge (.ttn e))) : (callBackend p).Uses P := by
  have hcall : (callTtn p).Uses fun e => P (.bridge e) :=
    hp.handle fun e he => ⟨hP e he, fun _ => trivial⟩
  exact hcall.handle fun _ he => ⟨he, fun _ => trivial⟩

/-- An effect that publishes nothing. -/
def Mute : TtnEff → Prop
  | .uplinkSend _ _ => False
  | .statusSend _ _ => False
  | _ => True

theorem allowed_of_mute (l : RelayCall) (e : TtnEff) (h : Mute e) : l.Allowed (.bridge (.ttn e)) := by
  cases e with
  | uplinkSend gtw message => exact h.elim
  | statusSend gtw status => exact h.elim
  | _ => trivial

theorem mute_session (mac : EUI64) : (session mac).Uses Mute := uses_session trivial trivial

theorem mute_subscribeGatewayTX (mac : EUI64) : (subscribeGatewayTX mac).Uses Mute :=
  (mute_session mac).bind fun _ => ⟨trivial, fun _ => ⟨trivial, fun _ => trivial⟩⟩

theorem mute_unSubscribeGatewayTX (mac : EUI64) : (unSubscribeGatewayTX mac).Uses Mute := by
  refine ⟨trivial, fun found => ?_⟩
  cases found with
  | none => trivial
  | some gtw =>
    refine ⟨trivial, fun downlink => ?_⟩
    cases downlink with
    | none => trivial
    | some st => exact ⟨trivial, fun _ => trivial⟩

theorem uses_wire (l : RelayCall) (e : RegEff) (h : l.Allowed (.bridge (.registry e))) :
    (wire e).Uses fun e => l.Allowed (.bridge e) := by
  have hmute : ∀ {p : TtnProg (Except GwError Unit)}, p.Uses Mute →
      (callTtn p).Uses fun e => l.Allowed (.bridge e) :=
    fun hp => hp.handle fun e he => ⟨allowed_of_mute l e he, fun _ => trivial⟩
  cases e with
  | onNew mac => exact hmute (mute_subscribeGatewayTX mac)
  | onDelete mac => exact hmute (mute_unSubscribeGatewayTX mac)
  | _ => exact ⟨h, fun _ => trivial⟩

/-- A method of the registry, under its lock. -/
theorem uses_locked {α : Type} {p : RegProg α} (l : RelayCall)
    (hp : p.Uses fun e => l.Allowed (.bridge (.registry e))) :
    (callBridge (registryLock.locked (p.handle wire))).Uses l.Allowed := by
  have hlocked : (registryLock.locked (p.handle wire)).Uses fun e => l.Allowed (.bridge e) :=
    ⟨trivial, fun _ => (hp.handle (uses_wire l)).bind fun _ => ⟨trivial, fun _ => trivial⟩⟩
  exact hlocked.handle fun _ he => ⟨he, fun _ => trivial⟩

theorem uses_set (h : l.Allowed (.bridge (.registry (.store mac gw)))) :
    (Gateways.set runCallbacks mac gw).Uses fun e => l.Allowed (.bridge (.registry e)) := by
  refine ⟨trivial, fun known => ?_⟩
  cases known with
  | some gw => exact ⟨h, fun _ => trivial⟩
  | none =>
    refine ⟨trivial, fun added => ?_⟩
    cases added with
    | error e => trivial
    | ok _ => exact ⟨h, fun _ => trivial⟩

theorem uses_cleanupRange (l : RelayCall) (macs : List EUI64) :
    (Gateways.cleanupRange runCallbacks macs).Uses fun e => l.Allowed (.bridge (.registry e)) := by
  induction macs with
  | nil => trivial
  | cons mac macs ih =>
    refine ⟨trivial, fun found => ⟨trivial, fun now => ?_⟩⟩
    by_cases hstale : (found.getD .zero).lastSeen < now + gatewayCleanupDuration
    · simp only [bind_ret, hstale, if_true]
      refine ⟨trivial, fun deleted => ?_⟩
      cases deleted with
      | error e => trivial
      | ok _ => exact ⟨trivial, fun _ => ih⟩
    · simp only [bind_ret, hstale, if_false]
      exact ih

/-- The backend of the gateways, with the registry in place of two of its effects. -/
theorem uses_callFront {α : Type} {P : Eff → Prop} {p : M α} (l : RelayCall) (hp : p.run.Uses P)
    (hP : ∀ e, P e → l.Allowed (.front e))
    (hset : ∀ mac gw, P (.set mac gw) → l.Allowed (.bridge (.registry (.store mac gw)))) :
    (callFront p).Uses l.Allowed := by
  refine hp.handle fun e he => ?_
  cases e with
  | set mac gw => exact uses_locked l (uses_set (hset mac gw he))
  | cleanup => exact uses_locked l ⟨trivial, uses_cleanupRange l⟩
  | _ => exact ⟨hP _ he, fun _ => trivial⟩

/-- A handler sends acknowledgements only. -/
def Acknowledges : Eff → Prop
  | .udpSend p => IsAck p
  | _ => True

theorem uses_handleRXPackets (mac : EUI64) (rxpks : List RXPK) :
    (handleRXPackets mac rxpks).run.Uses fun e => ∃ rxPacket, e = .rxSend rxPacket := by
  induction rxpks with
  | nil => trivial
  | cons rxpk rest ih =>
    refine uses_go_bind (uses_go_bind (uses_lift _) fun rxPacket => ?_) fun _ => ih
    split_ifs
    · trivial
    · exact ⟨⟨rxPacket, rfl⟩, fun _ => trivial⟩

theorem acknowledges_handleRXPackets (mac : EUI64) (rxpks : List RXPK) :
    (handleRXPackets mac rxpks).run.Uses Acknowledges := by
  refine (uses_handleRXPackets mac rxpks).mono ?_
  rintro _ ⟨rxPacket, rfl⟩
  trivial

theorem acknowledges_handlePayload (addr : UDPAddr) (mac : EUI64) (payload : PushDataPayload) :
    (handlePayload addr mac payload).run.Uses Acknowledges := by
  rw [handlePayload]
  cases payload.stat with
  | none => exact acknowledges_handleRXPackets mac payload.rxpk
  | some stat =>
    exact uses_go_bind ⟨trivial, fun _ => ⟨trivial, fun _ => trivial⟩⟩ fun _ => acknowledges_handleRXPackets mac _

theorem acknowledges_handlePacket (J : Codecs) (addr : UDPAddr) (data : Bytes) :
    (handlePacket J addr data).run.Uses Acknowledges := by
  rcases handlePacket_cases J addr data with ⟨p, hp, h⟩ | ⟨p, hp, h⟩ | ⟨-, -, h⟩ | ⟨-, -, -, e, h⟩
  · rw [h, handlePullData, hp]
    refine ⟨trivial, fun now => ⟨trivial, fun answer => ?_⟩⟩
    cases answer with
    | error e => trivial
    | ok _ => exact ⟨⟨_, _, .inr rfl⟩, fun _ => trivial⟩
  · rw [h, handlePushData, hp]
    refine ⟨⟨_, _, .inl rfl⟩, fun answer => ?_⟩
    cases answer with
    | error e => trivial
    | ok _ => exact acknowledges_handlePayload addr p.gatewayMAC p.payload
  · rw [h]
    trivial
  · rw [h]
    trivial

theorem uses_datagram (J : Codecs) (addr : UDPAddr) (data : Bytes) :
    (callFront (handlePacket J addr data)).Uses (RelayCall.datagram addr data).Allowed := by
  refine uses_callFront _ ((handlePacket_uses J addr data).and (acknowledges_handlePacket J addr data)) ?_ ?_
  · rintro e ⟨he, hack⟩
    cases e with
    | udpSend p => exact .inl hack
    | rxSend rxPacket => exact ⟨addr, data, rfl⟩
    | statsSend stats => exact ⟨addr, data, rfl⟩
    | _ => trivial
  · rintro mac gw ⟨⟨p, hp, hmac, haddr, hversion⟩, -⟩
    exact ⟨addr, data, p, rfl, hp, hmac, haddr, hversion⟩

theorem uses_send (J : Codecs) (txPacket : TXPacketBytes) (n : ℕ) :
    (callFront (Semtech.send J txPacket)).Uses (RelayCall.forwardTX n).Allowed := by
  refine uses_callFront _ (send_uses J txPacket) ?_ ?_
  · intro e he
    cases e with
    | udpSend p => exact .inr ⟨n, rfl⟩
    | rxSend rxPacket => exact he.elim
    | statsSend stats => exact he.elim
    | _ => trivial
  · intro mac gw he
    exact he.elim

theorem uses_forwardTX (J : Codecs) (n m : ℕ) : (forwardTX J n).Uses (RelayCall.forwardTX m).Allowed := by
  induction n with
  | zero => trivial
  | succ n ih =>
    refine ⟨⟨m, rfl⟩, fun _ => ⟨⟨m, rfl⟩, fun txPacket => (uses_send J txPacket m).bind fun answer => ?_⟩⟩
    rcases answer with (e | p) | _
    · exact ih
    · trivial
    · exact ih

theorem uses_consumeDownlinks (mac : EUI64) (messages : List DownlinkMessage) :
    (consumeDownlinks mac messages).run.Uses fun _ => True := uses_of_forall (fun _ => trivial) _

/-- **Who performs what.** -/
theorem RelayCall.body_uses (J : Codecs) (cfg : Settings) (l : RelayCall) :
    (l.body J cfg).Uses l.Allowed := by
  cases l with
  | datagram addr data => exact uses_discard (uses_datagram J addr data)
  | cleanup =>
    refine uses_discard (uses_callFront _ (P := Call.cleanup.Allowed) ⟨trivial, fun _ => trivial⟩ ?_ ?_)
    · intro e he
      cases e with
      | cleanup => trivial
      | _ => exact he.elim
    · intro mac gw he
      exact he.elim
  | close =>
    refine uses_discard (uses_callFront _ close_uses ?_ ?_)
    · intro e he
      cases e with
      | setClosed | closeUdpSendChan | connClose | wgWait => trivial
      | _ => exact he.elim
    · intro mac gw he
      exact he.elim
  | forwardRX =>
    have hallowed : ∀ {e : TtnEff}, Mute e → RelayCall.forwardRX.Allowed (.bridge (.ttn e)) :=
      fun h => allowed_of_mute _ _ h
    refine ⟨rfl, fun rxPacket => uses_discard (uses_callBackend ?_ fun e he => he)⟩
    exact uses_publishGatewayRX (uses_session (hallowed trivial) (hallowed trivial))
      (fun _ => hallowed trivial) (fun _ => hallowed trivial) (hallowed trivial) fun _ _ => rfl
  | forwardStats =>
    have hallowed : ∀ {e : TtnEff}, Mute e → RelayCall.forwardStats.Allowed (.bridge (.ttn e)) :=
      fun h => allowed_of_mute _ _ h
    refine ⟨rfl, fun stats => uses_discard (uses_callBackend ?_ fun e he => he)⟩
    exact uses_publishGatewayStats (uses_session (hallowed trivial) (hallowed trivial))
      (fun _ => hallowed trivial) fun _ _ => rfl
  | forwardTX n => exact uses_forwardTX J n n
  | consume mac st messages =>
    refine uses_discard ((uses_consumeDownlinks mac messages).handle fun e _ => ⟨?_, fun _ => trivial⟩)
    exact ⟨mac, st, messages, rfl⟩
  | findConf gtw =>
    exact uses_discard (uses_callBackend (uses_findConf trivial fun _ => trivial) (allowed_of_mute _))
  | tick =>
    have hmute : (ask TtnEff.tick : TtnProg Unit).Uses Mute := ⟨trivial, fun _ => trivial⟩
    exact uses_callBackend hmute (allowed_of_mute _)

end GatewayBridge.Cmd
