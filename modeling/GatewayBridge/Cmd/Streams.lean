import GatewayBridge.Cmd.Downlinks
import GatewayBridge.Process.Component

/-!
# The registry in the whole of the bridge

The registry with its callbacks and the backend of the router are a system of their own (`Ttn.bridge`): any
calls of their methods at once. In the bridge as a whole these methods are called by the handlers of
datagrams and by the goroutines of `run`, between other effects. `relay_component` says that
nothing more can happen to the registry and to the backend than in the smaller system.

So what holds of every run of that system holds here: `streams_registered` says of the streams to the
router that there is one for each gateway in the registry, and that such a gateway has sent a PULL_DATA.
These runs end where `run` comes to its `ttn.Close()`, which closes all the streams.

The backend of the router alone is in turn a part of the smaller system (`ttnPart`), so a stream that is
read as the `downlink` of a gateway was opened for it (`streamOf_consume`). A goroutine that is late may
read the stream of a later subscription of its gateway, and two may read the same one: the order of the
downlinks is that in which each goroutine received them (`downlinks_accounted`).
-/

namespace GatewayBridge.Cmd

open GatewayBridge.Go GatewayBridge.Lora GatewayBridge.Process GatewayBridge.Semtech GatewayBridge.Ttn Prog

variable {J : Codecs} {cfg : Settings} {mac : EUI64} {gw : Gateway}
  {ok : RelayCfg → Move RelayCall RelayEff → Prop} {h : List RelayEntry} {c : RelayCfg}

/-- The effect on the registry or on the backend of the router. -/
def bridgeSeen : Event RelayEff RelayEff.Resp → Option (Event BridgeEff BridgeEff.Resp)
  | ⟨.bridge e, r⟩ => some ⟨e, r⟩
  | _ => none

/-- The registry and the backend of the router, as a part of the bridge. -/
def bridgePart (J : Codecs) (cfg : Settings) : Component (bridge cfg) (relay J cfg) where
  view := RelayState.bridge
  seen := bridgeSeen
  sem_seen e s r s' hs ev hseen := by
    cases e with
    | bridge e =>
      cases hseen
      obtain ⟨b, hb, rfl⟩ := hs
      exact hb
    | _ => cases hseen
  sem_unseen e s r s' hs hseen := by
    cases e with
    | bridge e => cases hseen
    | front e => exact bridge_of_frontSem hs
    | downlink e =>
      obtain ⟨-, rfl⟩ := hs
      rfl
    | takeRX | takeStats | rangeTX | takeTX =>
      obtain ⟨-, rfl⟩ := hs
      rfl

/-! ### The programs -/

/-- A call of the smaller system, and what follows. -/
theorem tracks_callBridge {q : BridgeProg (Except GwError Unit)} {f : Except GwError Unit → RelayProg Unit}
    (hf : ∀ a, (bridgePart J cfg).Tracks none (f a)) : (bridgePart J cfg).Tracks (some q) (callBridge q >>= f) :=
  Component.tracks_handle (g := fun e => ask (RelayEff.bridge e)) (fun e => ⟨.bridge e, id, rfl, fun _ => rfl⟩) hf

theorem tracks_front {α : Type} (p : Prog Eff Eff.Resp α) {f : α → RelayProg Unit}
    (hf : ∀ a, (bridgePart J cfg).Tracks none (f a)) :
    (bridgePart J cfg).Tracks none (p.handle frontWire >>= f) := by
  induction p with
  | ret a => exact hf a
  | eff e k ih =>
    rw [handle_eff, bind_assoc]
    cases e with
    | set mac gw => exact .call (BridgeCall.set mac gw) (fun _ => trivial) (tracks_callBridge ih)
    | cleanup => exact .call BridgeCall.cleanup (fun _ => trivial) (tracks_callBridge ih)
    | _ => exact .own (fun _ => rfl) ih

theorem tracks_discard {α : Type} (p : M α) : (bridgePart J cfg).Tracks none (discard (callFront p)) :=
  tracks_front p.run fun _ => .ret ()

theorem tracks_forwardTX (J' : Codecs) (n : ℕ) : (bridgePart J cfg).Tracks none (forwardTX J' n) := by
  induction n with
  | zero => exact .ret ()
  | succ n ih =>
    refine .own (fun _ => rfl) fun _ => .own (fun _ => rfl) fun txPacket => tracks_front _ fun answer => ?_
    rcases answer with (e | p) | _
    · exact ih
    · exact .ret ()
    · exact ih

theorem tracks_consume {α : Type} (p : Prog DownlinkEff DownlinkEff.Resp α) :
    (bridgePart J cfg).Tracks none (discard (p.handle fun e => ask (RelayEff.downlink e))) := by
  induction p with
  | ret a => exact .ret ()
  | eff e k ih => exact .own (fun _ => rfl) ih

/-- Every goroutine calls methods of the smaller system, one after the other. -/
theorem tracks_body (l : RelayCall) (s : RelayState) (hstarts : (relay J cfg).starts l s) :
    (bridgePart J cfg).Tracks none ((relay J cfg).body l) ∨ ∃ l', (bridge cfg).starts l' s.bridge ∧
      (bridgePart J cfg).Tracks (some ((bridge cfg).body l')) ((relay J cfg).body l) := by
  cases l with
  | datagram addr data => exact .inl (tracks_discard _)
  | cleanup => exact .inl (tracks_discard _)
  | close => exact .inl (tracks_discard _)
  | forwardRX =>
    refine .inl (.own (fun _ => rfl) fun rxPacket => ?_)
    exact .call (BridgeCall.publishRX rxPacket.rxInfo.mac rxPacket) (fun _ => trivial)
      (tracks_callBridge fun _ => .ret ())
  | forwardStats =>
    refine .inl (.own (fun _ => rfl) fun stats => ?_)
    exact .call (BridgeCall.publishStats stats.mac stats) (fun _ => trivial) (tracks_callBridge fun _ => .ret ())
  | forwardTX n => exact .inl (tracks_forwardTX J n)
  | consume mac st messages => exact .inl (tracks_consume _)
  | findConf gtw => exact .inr ⟨.findConf gtw, hstarts, tracks_callBridge fun _ => .ret ()⟩
  | tick =>
    refine .inl (.call BridgeCall.tick (fun _ => trivial) ?_)
    exact .step id (fun _ => rfl) fun _ => .done _ (.ret ())

/-! ### Runs -/

/-- **What the bridge does to the registry and to the backend of the router**, these can do on their own: for
every run there is one of the smaller system that ends in the same state, with the same effects on the same
states, in the same order. -/
theorem relay_component (hr : Run (relay J cfg) ok {} h c) :
    ∃ h' c', Run (bridge cfg) (fun _ _ => True) {} h' c' ∧ c'.shared = c.shared.bridge ∧
      h'.map Entry.transition = h.filterMap (bridgePart J cfg).entry :=
  hr.component (bridgePart J cfg) tracks_body

/-- When the gateway of the run has registered, so it has in a run of the smaller system. -/
theorem relay_component_registered : ∃ h' c', Run (bridge sampleSettings) (fun _ _ => True) {} h' c' ∧
    sampleMAC ∈ c'.shared.registry := by
  obtain ⟨h, p, hr, -, -⟩ := exists_run_pullData noCodecs
  obtain ⟨h', c', hr', hshared, -⟩ := relay_component hr
  refine ⟨h', c', hr', ?_⟩
  rw [hshared]
  exact Finmap.mem_insert.mpr (.inl rfl)

/-- While the lock of the registry is free, the gateways in the registry have one open stream each. -/
theorem oneStream_relay (hr : Run (relay J cfg) ok {} h c) (hfree : c.shared.bridge.locked = false) :
    OneStream c.shared.bridge := by
  obtain ⟨h', c', hr', hshared, -⟩ := hr.component (bridgePart J cfg) tracks_body
  rw [show c.shared.bridge = c'.shared from hshared.symm] at hfree ⊢
  exact (lockInv_bridge hr').1.inv_of_free (not_held_of_unlocked hfree)

/-- **The streams of the bridge.** In every run, up to `ttn.Close()` and while no goroutine is at work on the
registry: a gateway in the registry is there with the address and the version of a PULL_DATA that it has sent,
and has one open stream for downlinks; and every open stream is that of such a gateway. -/
theorem streams_registered (hr : Run (relay J cfg) ok {} h c) (hfree : c.shared.bridge.locked = false) :
    (∀ mac gw, c.shared.bridge.registry.lookup mac = some gw →
      Registered c mac gw ∧ ∃! st, c.shared.bridge.ttn.OpenStream mac st) ∧
    ∀ st gtw, c.shared.bridge.ttn.streams[st]? = some ⟨gtw, true⟩ → ∃ mac gw,
      c.shared.bridge.registry.lookup mac = some gw ∧ Registered c mac gw ∧
        c.shared.bridge.ttn.OpenStream mac st := by
  have hone := oneStream_relay hr hfree
  constructor
  · intro mac gw hlookup
    exact ⟨allRegistered hr mac gw hlookup, hone.existsUnique_openStream (Finmap.mem_of_lookup_eq_some hlookup)⟩
  · intro st gtw hopen
    rcases hone.of_open st gtw hopen with hf | ⟨mac, hm, hl, -⟩
    · cases hf
    · obtain ⟨gw, hlookup⟩ := Finmap.mem_iff.mp hm
      exact ⟨mac, gw, hlookup, allRegistered hr mac gw hlookup, gtw, hl, hopen⟩

/-- The gateway of the run has a stream. -/
theorem streams_registered_one : ∃ h c, Run (relay noCodecs sampleSettings) OneLoop {} h c ∧
    ∃ gw, Registered c sampleMAC gw ∧ ∃! st, c.shared.bridge.ttn.OpenStream sampleMAC st := by
  obtain ⟨h, p, hr, -, -⟩ := exists_run_pullData noCodecs
  exact ⟨h, _, hr, _, (streams_registered hr rfl).1 sampleMAC sampleEntryOf (Finmap.lookup_insert _)⟩

/-! ### The backend of the router in it -/

/-- The effect on the backend of the router. -/
def ttnSeen : Event BridgeEff BridgeEff.Resp → Option (Event TtnEff TtnEff.Resp)
  | ⟨.ttn e, r⟩ => some ⟨e, r⟩
  | _ => none

/-- The backend of the router, as a part of the smaller system. -/
def ttnPart (cfg : Settings) : Component (backend cfg) (bridge cfg) where
  view := BridgeState.ttn
  seen := ttnSeen
  sem_seen e s r s' hs ev hseen := by
    cases e with
    | ttn e =>
      cases hseen
      obtain ⟨t, ht, rfl⟩ := hs
      exact ht
    | _ => cases hseen
  sem_unseen e s r s' hs hseen := by
    cases e with
    | ttn e => cases hseen
    | registry e =>
      obtain ⟨g, -, rfl⟩ := hs
      rfl
    | lock =>
      obtain ⟨-, rfl⟩ := hs
      rfl
    | unlock =>
      cases hs
      rfl

theorem tracks_callTtn {q : TtnProg (Except GwError Unit)} {f : Except GwError Unit → BridgeProg (Except GwError Unit)}
    (hf : ∀ a, (ttnPart cfg).Tracks none (f a)) : (ttnPart cfg).Tracks (some q) (callTtn q >>= f) :=
  Component.tracks_handle (g := fun e => ask (BridgeEff.ttn e)) (fun e => ⟨.ttn e, id, rfl, fun _ => rfl⟩) hf

theorem tracks_method (q : TtnProg (Except GwError Unit)) : (ttnPart cfg).Tracks (some q) (callTtn q) := by
  rw [← bind_ret_right (callTtn q)]
  exact tracks_callTtn .ret

theorem tracks_wire {α : Type} (p : RegProg α) {f : α → BridgeProg (Except GwError Unit)}
    (hf : ∀ a, (ttnPart cfg).Tracks none (f a)) : (ttnPart cfg).Tracks none (p.handle wire >>= f) := by
  induction p with
  | ret a => exact hf a
  | eff e k ih =>
    rw [handle_eff, bind_assoc]
    cases e with
    | onNew mac => exact .call (TtnCall.subscribe mac) (fun _ => trivial) (tracks_callTtn ih)
    | onDelete mac => exact .call (TtnCall.unSubscribe mac) (fun _ => trivial) (tracks_callTtn ih)
    | _ => exact .own (fun _ => rfl) ih

theorem tracks_locked (p : RegProg (Except GwError Unit)) :
    (ttnPart cfg).Tracks none (registryLock.locked (p.handle wire)) :=
  .own (fun _ => rfl) fun _ => tracks_wire p fun a => .own (fun _ => rfl) fun _ => .ret a

theorem tracks_bridgeCall (l : BridgeCall) (s : BridgeState) (hstarts : (bridge cfg).starts l s) :
    (ttnPart cfg).Tracks none ((bridge cfg).body l) ∨ ∃ l', (backend cfg).starts l' s.ttn ∧
      (ttnPart cfg).Tracks (some ((backend cfg).body l')) ((bridge cfg).body l) := by
  cases l with
  | set mac gw => exact .inl (tracks_locked _)
  | cleanup => exact .inl (tracks_locked _)
  | publishRX mac rxPacket => exact .inr ⟨.publishRX mac rxPacket, trivial, tracks_method _⟩
  | publishStats mac stats => exact .inr ⟨.publishStats mac stats, trivial, tracks_method _⟩
  | findConf gtw => exact .inr ⟨.findConf gtw, hstarts, tracks_method _⟩
  | tick => exact .inr ⟨.tick, trivial, tracks_method _⟩

/-- The `downlink` of a `gtw` is a stream that was opened for it, throughout the bridge. -/
theorem owned_relay (hr : Run (relay J cfg) ok {} h c) : Owned c.shared.bridge.ttn := by
  obtain ⟨h₁, c₁, hr₁, hshared₁, -⟩ := hr.component (bridgePart J cfg) tracks_body
  obtain ⟨h₂, c₂, hr₂, hshared₂, -⟩ := hr₁.component (ttnPart cfg) tracks_bridgeCall
  have howned := owned_backend hr₂
  rw [hshared₂, hshared₁] at howned
  exact howned

/-- The goroutine of `SubscribeGatewayTX(mac)` reads a stream that was opened for the gateway. -/
theorem streamOf_consume (hr : Run (relay J cfg) ok {} h c) {i st : ℕ} {messages : List DownlinkMessage}
    (hcall : c.call i = some (.consume mac st messages)) : StreamOf c.shared.bridge.ttn mac st := by
  refine hr.started_keeps (Q := fun l s => ∀ mac st messages, l = RelayCall.consume mac st messages →
    StreamOf s.bridge.ttn mac st) ?_ ?_ hcall mac st messages rfl
  · rintro h c l hr hstarts mac st messages rfl
    obtain ⟨gtw, hlookup, hdownlink⟩ := hstarts
    obtain ⟨b, hst⟩ := owned_relay hr gtw st hdownlink
    exact ⟨gtw, b, hlookup, hst⟩
  · intro l e s r s' hs hold mac st messages hl
    have hkeep := (ttnPart cfg).keeps (I := fun t => StreamOf t mac st) fun e t r t' ht hst =>
      hst.change (change_of_ttnSem ht)
    exact (bridgePart J cfg).keeps hkeep e s r s' hs (hold mac st messages hl)

/-! ### The downlinks of a stream -/

/-- **No downlink is duplicated or made up.** In every run of the bridge, the PULL_RESP datagrams are for
different messages that goroutines of `SubscribeGatewayTX` have received, for each goroutine in the order in
which it received them; it received them from a stream that was opened for the gateway of the packet, and the
PULL_RESP is sent to where a PULL_DATA of that gateway came from. -/
theorem downlinks_accounted (hr : Run (relay J cfg) OneLoop {} h c) :
    Accounted Numbered (fun o p => ∃ txPacket gw st, DownlinkOf c st o txPacket ∧
      StreamOf c.shared.bridge.ttn txPacket.txInfo.mac st ∧ Registered c txPacket.txInfo.mac gw ∧
      Resp J gw txPacket p) (pullResps h) := by
  refine (accounted_pullResps hr (txPut_accounted hr)).imp ?_
  rintro o p ⟨txPacket, gw, ⟨st, mac, messages, hcall, hpacket⟩, hregistered, hresp⟩
  obtain ⟨message, -, hmessage⟩ := List.mem_filterMap.mp (List.mem_of_getElem? hpacket)
  refine ⟨txPacket, gw, st, ⟨mac, messages, hcall, hpacket⟩, ?_, hregistered, hresp⟩
  rw [mac_of_downlinkOf hmessage]
  exact streamOf_consume hr hcall

/-- The PULL_RESP of the run is that of the message. -/
theorem downlinks_accounted_one : ∃ J h c, Run (relay J sampleSettings) OneLoop {} h c ∧
    ∃ o p txPacket gw st, p ∈ pullResps h ∧ DownlinkOf c st o txPacket ∧
      StreamOf c.shared.bridge.ttn txPacket.txInfo.mac st ∧ Registered c txPacket.txInfo.mac gw ∧
      Resp J gw txPacket p := by
  obtain ⟨J, h, c, hr, -, hsent, -⟩ := exists_run_downlink
  obtain ⟨os, -, hos⟩ := downlinks_accounted hr
  obtain ⟨p, hp⟩ := List.length_eq_one_iff.mp hsent
  rw [hp] at hos
  obtain ⟨o, -, ⟨txPacket, gw, st, hsrc, hstream, hregistered, hresp⟩, -, -⟩ := List.forall₂_cons_right_iff.mp hos
  exact ⟨J, h, c, hr, o, p, txPacket, gw, st, by simp [hp], hsrc, hstream, hregistered, hresp⟩

end GatewayBridge.Cmd
