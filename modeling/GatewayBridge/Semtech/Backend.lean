import GatewayBridge.Semtech.Registry
import GatewayBridge.Process.Pool

/-!
# The UDP front end

`Backend` of `gateway/backend.go`: what it does with a datagram (`handlePacket`),
with a downlink (`Send`) and at shutdown (`Close`). The loop over the datagrams
waiting to be sent is in `Semtech.SendLoop`.

Each function is a program over the effects of `Eff`: the operations of the
registry, each atomic under its lock; the sends on the three channels; the clock;
and the steps of `Close`. A send waits for its receiver and is performed when the
receiver takes the value, so the order in which a program performs its sends is
the order in which they are received. A send on `udpSendChan` after it was closed
panics. Log entries are left out.

`sem` says what the effects do to the shared state of the backend, and `backend`
is the system in which every datagram is handled by a goroutine of its own
(`readPackets`), next to any number of calls of `Send`, `cleanup` and `Close`.
-/

namespace GatewayBridge.Semtech

open GatewayBridge.Go GatewayBridge.Lora GatewayBridge.Process Prog

/-- `udpPacket`. -/
structure UdpPacket where
  /-- The destination. -/
  addr : Option UDPAddr
  /-- The datagram. -/
  data : Bytes
  deriving DecidableEq

/-! ### Effects -/

/-- What the functions of the backend do to what they share. -/
inductive Eff where
  /-- `time.Now()`. -/
  | now
  /-- `b.gateways.get(mac)`. -/
  | get (mac : EUI64)
  /-- `b.gateways.set(mac, gw)`. -/
  | set (mac : EUI64) (gw : Gateway)
  /-- `b.gateways.cleanup()`. -/
  | cleanup
  /-- `b.udpSendChan <- p`. -/
  | udpSend (p : UdpPacket)
  /-- `b.statsChan <- stats`. -/
  | statsSend (stats : GatewayStatsPacket)
  /-- `b.rxChan <- rxPacket`. -/
  | rxSend (rxPacket : RXPacketBytes)
  /-- `b.closed = true`. -/
  | setClosed
  /-- `close(b.udpSendChan)`. -/
  | closeUdpSendChan
  /-- `b.conn.Close()`. -/
  | connClose
  /-- `b.wg.Wait()`. -/
  | wgWait

/-- The answers. -/
abbrev Eff.Resp : Eff → Type
  | .now => Time
  | .get _ => Gateway × Option GwError
  | .set _ _ => Except GwError Unit
  | .cleanup => Except GwError Unit
  | .udpSend _ => Except Panic Unit
  | .statsSend _ => Unit
  | .rxSend _ => Unit
  | .setClosed => Unit
  | .closeUdpSendChan => Except Panic Unit
  | .connClose => Except GwError Unit
  | .wgWait => Unit

/-- A function of the backend. -/
abbrev M := GoProg GwError Eff Eff.Resp

/-- `b.udpSendChan <- p`, which panics if the channel is closed. -/
def sendUdp (p : UdpPacket) : M Unit := do
  lift (orPanic (← perform (Eff.udpSend p)))

/-! ### Datagrams -/

/-- `handlePullData`. -/
def handlePullData (addr : UDPAddr) (data : Bytes) : M Unit := do
  let p ← lift (PullDataPacket.unmarshalBinary data)
  let ack : PullACKPacket := ⟨p.protocolVersion, p.randomToken⟩
  let bytes ← lift ack.marshalBinary
  let now ← perform Eff.now
  lift (orFail id (← perform (Eff.set p.gatewayMAC ⟨some addr, now, p.protocolVersion⟩)))
  sendUdp ⟨some addr, bytes⟩

/-- `handleStat`. -/
def handleStat (addr : UDPAddr) (mac : EUI64) (stat : Stat) : M Unit := do
  let gwStats := addIPToGatewayStatsPacket (newGatewayStatsPacket mac stat) addr.ip
  let (gtw, err) ← perform (Eff.get mac)
  let gwStats := match err, gtw.addr with
    | some _, some a => addIPToGatewayStatsPacket gwStats a.ip
    | _, _ => gwStats
  perform (Eff.statsSend gwStats)

/-- `handleRXPacket`. -/
def handleRXPacket (mac : EUI64) (rxpk : RXPK) : M Unit := do
  let rxPacket ← lift (orFail id (newRXPacketFromRXPK mac rxpk))
  if rxPacket.rxInfo.crcStatus ≠ 1 then lift (fail .invalidCRC)
  else perform (Eff.rxSend rxPacket)

/-- `for _, rxpk := range p.Payload.RXPK { … return err … }`. -/
def handleRXPackets (mac : EUI64) : List RXPK → M Unit
  | [] => lift (.ok ())
  | rxpk :: rest => do
      handleRXPacket mac rxpk
      handleRXPackets mac rest

/-- What `handlePushData` does once the datagram is acknowledged: the status, then the uplinks. -/
def handlePayload (addr : UDPAddr) (mac : EUI64) (payload : PushDataPayload) : M Unit := do
  match payload.stat with
  | some stat => handleStat addr mac stat
  | none => lift (.ok ())
  handleRXPackets mac payload.rxpk

/-- `handlePushData`. -/
def handlePushData (J : Codecs) (addr : UDPAddr) (data : Bytes) : M Unit := do
  let p ← lift (PushDataPacket.unmarshalBinary J data)
  let ack : PushACKPacket := ⟨p.protocolVersion, p.randomToken⟩
  let bytes ← lift ack.marshalBinary
  sendUdp ⟨some addr, bytes⟩
  handlePayload addr p.gatewayMAC p.payload

/-- `handleTXACK`: the acknowledgement is only logged. -/
def handleTXACK (J : Codecs) (data : Bytes) : M Unit := do
  let _ ← lift (TXACKPacket.unmarshalBinary J data)
  lift (.ok ())

/-- `handlePacket`. -/
def handlePacket (J : Codecs) (addr : UDPAddr) (data : Bytes) : M Unit := do
  let pt ← lift (getPacketType data)
  -- the version is read for the log entry
  let _ ← lift (index data 0)
  if pt = .pushData then handlePushData J addr data
  else if pt = .pullData then handlePullData addr data
  else if pt = .txACK then handleTXACK J data
  else lift (fail (.unknownPacketType pt))

/-! ### Downlinks and shutdown -/

/-- `fmt.Errorf("gateway: json marshall PullRespPacket error: %s", err)`. -/
def wrapPullResp : Fault GwError → Fault GwError
  | .err e => .err (.pullResp e.message)
  | .panic p => .panic p

/-- `Send`. -/
def send (J : Codecs) (txPacket : TXPacketBytes) : M Unit := do
  let (gw, err) ← perform (Eff.get txPacket.txInfo.mac)
  match err with
  | some e => lift (fail e)
  | none =>
      let pullResp : PullRespPacket :=
        ⟨gw.protocolVersion, 0, ⟨newTXPKFromTXPacket txPacket⟩⟩
      let bytes ← lift ((pullResp.marshalBinary J).mapError wrapPullResp)
      sendUdp ⟨gw.addr, bytes⟩

/-- One call of `b.gateways.cleanup()`, in the loop of `NewBackend`; its error is only logged. -/
def cleanup : M Unit := do
  let _ ← perform Eff.cleanup
  lift (.ok ())

/-- `Close`. -/
def close : M Unit := do
  perform Eff.setClosed
  lift (orPanic (← perform Eff.closeUdpSendChan))
  lift (orFail id (← perform Eff.connClose))
  perform Eff.wgWait

/-! ### The shared state -/

/-- What the goroutines of the backend share. -/
structure BackendState where
  /-- The registry. -/
  gateways : Gateways := ∅
  /-- `b.closed`. -/
  closed : Bool := false
  /-- `udpSendChan` has been closed. -/
  udpSendClosed : Bool := false
  /-- The socket has been closed. -/
  connClosed : Bool := false

/-- A method of the registry, run alone on the registry of the backend. -/
def onRegistry {α : Type} (p : RegProg α) (s : BackendState) (r : α) (s' : BackendState) : Prop :=
  ∃ tr g', Runs (regSem freeWorld) p (s.gateways, ()) tr r (g', ()) ∧ s' = { s with gateways := g' }

/-- How a send on `udpSendChan` ends. -/
def sendAnswer (s : BackendState) : Except Panic Unit :=
  if s.udpSendClosed then .error .sendOnClosedChannel else .ok ()

/-- What the effects do. -/
def sem (cb : Callbacks) : (e : Eff) → BackendState → e.Resp → BackendState → Prop
  | .now, s, _, s' => s' = s
  | .get mac, s, r, s' => onRegistry (Gateways.get mac) s r s'
  | .set mac gw, s, r, s' => onRegistry (Gateways.set cb mac gw) s r s'
  | .cleanup, s, r, s' => onRegistry (Gateways.cleanup cb) s r s'
  | .udpSend _, s, r, s' => r = sendAnswer s ∧ s' = s
  | .statsSend _, s, _, s' => s' = s
  | .rxSend _, s, _, s' => s' = s
  | .setClosed, s, _, s' => s' = { s with closed := true }
  | .closeUdpSendChan, s, r, s' =>
      r = (if s.udpSendClosed then .error .closeOfClosedChannel else .ok ()) ∧
        s' = { s with udpSendClosed := true }
  | .connClose, s, _, s' => s' = { s with connClosed := true }
  | .wgWait, s, _, s' => s.connClosed ∧ s' = s

/-- What can be called. -/
inductive Call where
  /-- A datagram arrives, and `readPackets` starts `handlePacket`. -/
  | datagram (addr : UDPAddr) (data : Bytes)
  /-- `Send`. -/
  | send (txPacket : TXPacketBytes)
  /-- `cleanup`. -/
  | cleanup
  /-- `Close`. -/
  | close

/-- The program of a call. -/
def Call.body (J : Codecs) : Call → Prog Eff Eff.Resp (Except (Fault GwError) Unit)
  | .datagram addr data => (handlePacket J addr data).run
  | .send txPacket => (Semtech.send J txPacket).run
  | .cleanup => Semtech.cleanup.run
  | .close => Semtech.close.run

/-- The backend: any number of calls at once. No datagram arrives on a closed socket. -/
def backend (J : Codecs) (cb : Callbacks) :
    System BackendState Call Eff Eff.Resp (Except (Fault GwError) Unit) where
  body := Call.body J
  sem := sem cb
  starts
    | .datagram _ _, s => s.connClosed = false
    | _, _ => True

/-- An effect that the backend performed. -/
abbrev BackendEntry := Entry BackendState Eff Eff.Resp

/-- A configuration of the backend. -/
abbrev BackendCfg := Cfg BackendState Call Eff Eff.Resp (Except (Fault GwError) Unit)

/-! ### What the effects do, one by one -/

variable {J : Codecs} {cb : Callbacks} {mac : EUI64} {gw : Gateway} {s s' : BackendState}
  {tr : List (Event Eff Eff.Resp)}

theorem sendAnswer_open (h : s.udpSendClosed = false) : sendAnswer s = .ok () := by
  rw [sendAnswer, h]
  rfl

theorem sem_get {r : Gateway × Option GwError} (h : sem cb (.get mac) s r s') :
    s' = s ∧
      match s.gateways.lookup mac with
      | none => r = (Gateway.zero, some .gatewayDoesNotExist)
      | some gw => r = (gw, none) := by
  obtain ⟨_, g', hr, rfl⟩ := h
  obtain ⟨hs, hget⟩ := get_runs hr
  cases hs
  exact ⟨rfl, hget⟩

/-- `set` stores the entry, or returns the error of `onNew` for a new MAC and changes nothing. -/
theorem sem_set {r : Except GwError Unit} (h : sem cb (.set mac gw) s r s') :
    (r = .ok () ∧ s' = { s with gateways := s.gateways.insert mac gw }) ∨
      ∃ e, r = .error e ∧ s' = s ∧ mac ∉ s.gateways ∧ cb.onNew := by
  obtain ⟨_, g', hr, rfl⟩ := h
  rcases set_runs hr with ⟨rfl, rfl, -⟩ | ⟨e, rfl, rfl, hmac, hcb, -⟩
  · exact .inl ⟨rfl, rfl⟩
  · exact .inr ⟨e, rfl, rfl, hmac, hcb⟩

/-- `cleanup` changes the registry only, and there no entry but by evicting it. -/
theorem sem_cleanup {r : Except GwError Unit} (h : sem cb .cleanup s r s') :
    ∃ g', s' = { s with gateways := g' } ∧
      ∀ mac, g'.lookup mac = s.gateways.lookup mac ∨ g'.lookup mac = none := by
  obtain ⟨_, g', hr, rfl⟩ := h
  exact ⟨g', rfl, fun mac => cleanup_lookup mac hr⟩

/-- A successful `set` leaves its entry in the registry. -/
theorem sem_set_lookup (h : sem cb (.set mac gw) s (.ok ()) s') : s'.gateways.lookup mac = some gw := by
  rcases sem_set h with ⟨-, rfl⟩ | ⟨e, he, -⟩
  · exact Finmap.lookup_insert _
  · cases he

/-- The entry of a MAC is changed by a successful `set` of it and by an eviction, and by nothing else. -/
theorem sem_lookup {e : Eff} {r : e.Resp} (h : sem cb e s r s')
    (hset : ∀ gw, (⟨e, r⟩ : Event Eff Eff.Resp) ≠ ⟨.set mac gw, .ok ()⟩) :
    s'.gateways.lookup mac = s.gateways.lookup mac ∨ e = .cleanup ∧ s'.gateways.lookup mac = none := by
  cases e with
  | set mac' gw =>
    rcases sem_set h with ⟨rfl, rfl⟩ | ⟨e, rfl, rfl, -⟩
    · by_cases hmac : mac = mac'
      · subst hmac
        exact absurd rfl (hset gw)
      · exact .inl (Finmap.lookup_insert_of_ne _ hmac)
    · exact .inl rfl
  | cleanup =>
    obtain ⟨g', rfl, hg'⟩ := sem_cleanup h
    rcases hg' mac with hsame | hnone
    · exact .inl hsame
    · exact .inr ⟨rfl, hnone⟩
  | get mac' =>
    obtain ⟨rfl, -⟩ := sem_get h
    exact .inl rfl
  | now | statsSend _ | rxSend _ | setClosed | connClose =>
    cases h
    exact .inl rfl
  | udpSend _ | closeUdpSendChan | wgWait =>
    cases h.2
    exact .inl rfl

/-- Only `close` closes `udpSendChan`. -/
theorem sem_udpSendClosed {e : Eff} {r : e.Resp} (h : sem cb e s r s') (he : e ≠ .closeUdpSendChan) :
    s'.udpSendClosed = s.udpSendClosed := by
  cases e with
  | closeUdpSendChan => exact absurd rfl he
  | get _ | set _ _ | cleanup =>
    obtain ⟨_, g', -, rfl⟩ := h
    rfl
  | now | statsSend _ | rxSend _ | setClosed | connClose =>
    cases h
    rfl
  | udpSend _ | wgWait =>
    cases h.2
    rfl

theorem sem_now (cb : Callbacks) (now : Time) (s : BackendState) : sem cb .now s now s := rfl

theorem sem_udpSend (cb : Callbacks) (p : UdpPacket) (s : BackendState) :
    sem cb (.udpSend p) s (sendAnswer s) s := ⟨rfl, rfl⟩

theorem sem_setClosed (cb : Callbacks) (s : BackendState) :
    sem cb .setClosed s () { s with closed := true } := rfl

theorem sem_closeUdpSendChan (cb : Callbacks) (h : s.udpSendClosed = false) :
    sem cb .closeUdpSendChan s (.ok ()) { s with udpSendClosed := true } := by
  refine ⟨?_, rfl⟩
  rw [h]
  rfl

/-- `set` can succeed in every state. -/
theorem sem_set_ok (cb : Callbacks) (mac : EUI64) (gw : Gateway) (s : BackendState) :
    sem cb (.set mac gw) s (.ok ()) { s with gateways := s.gateways.insert mac gw } := by
  by_cases hnew : ((s.gateways.lookup mac).isNone && cb.onNew) = true
  · refine ⟨[⟨.lookup mac, _⟩, ⟨.onNew mac, .ok ()⟩, ⟨.store mac gw, ()⟩], _, .eff ⟨rfl, rfl⟩ ?_, rfl⟩
    rw [bind_ret, if_pos hnew]
    have hcall : regSem freeWorld (.onNew mac) (s.gateways, ()) (.ok ()) (s.gateways, ()) := ⟨trivial, rfl⟩
    exact .eff hcall (.eff rfl .ret)
  · refine ⟨[⟨.lookup mac, _⟩, ⟨.store mac gw, ()⟩], _, .eff ⟨rfl, rfl⟩ ?_, rfl⟩
    rw [bind_ret, if_neg hnew]
    exact .eff rfl .ret

theorem sem_get_ok (h : s.gateways.lookup mac = some gw) : sem cb (.get mac) s (gw, none) s := by
  refine ⟨[⟨.lookup mac, some gw⟩], _, .eff ⟨h.symm, rfl⟩ ?_, rfl⟩
  exact .ret

/-- A method of the registry always has an answer. -/
theorem onRegistry_total {α : Type} (p : RegProg α) (s : BackendState) : ∃ r s', onRegistry p s r s' := by
  have htotal := regSem_total (w := freeWorld) (fun _ u => ⟨.ok (), u, trivial⟩)
    (fun _ u => ⟨.ok (), u, trivial⟩)
  obtain ⟨tr, r, s', h⟩ :=
    exists_runs (fun e _ => htotal e) (uses_of_forall (fun _ => trivial) p) (s.gateways, ())
  exact ⟨r, _, tr, _, h, rfl⟩

/-- A send either is performed or panics, and changes nothing. -/
theorem sendUdp_runs {p : UdpPacket} {r : Except (Fault GwError) Unit}
    (h : Runs (sem cb) (sendUdp p).run s tr r s') :
    s' = s ∧ tr = [⟨.udpSend p, sendAnswer s⟩] ∧ r = orPanic (sendAnswer s) := by
  obtain ⟨a, s, _, ⟨rfl, rfl⟩, rfl, hk⟩ := runs_eff_iff.mp h
  obtain ⟨rfl, rfl, rfl⟩ := runs_lift_iff.mp hk
  exact ⟨rfl, rfl, rfl⟩

end GatewayBridge.Semtech
