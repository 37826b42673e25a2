import GatewayBridge.Cmd.Publish
import GatewayBridge.Process.Server

/-!
# From the router to a gateway

The way of a downlink through the bridge: the goroutine of `SubscribeGatewayTX` turns a message of its
stream into a packet on `txPacketChan`, and the loop of `run` calls `Send`, which looks the gateway up in
the registry and puts a PULL_RESP on `udpSendChan`. There is one loop, so nothing is overtaken.

`downlinks_fate` says what became of every packet that the loop received, by the steps of its own round: a
PULL_RESP for it, or the gateway was not in the registry when `Send` looked, or the packet has no JSON
text. So what accounts for the packets on `txPacketChan` accounts for the PULL_RESP datagrams, and each
goes to an address from which its gateway has sent a PULL_DATA (`accounted_pullResps`).
-/

namespace GatewayBridge.Cmd

open GatewayBridge.Go GatewayBridge.Lora GatewayBridge.Process GatewayBridge.Semtech GatewayBridge.Ttn Prog Service

variable {J : Codecs} {cfg : Settings} {mac : EUI64} {gw : Gateway} {txPacket : TXPacketBytes}
  {ok : RelayCfg → Move RelayCall RelayEff → Prop} {h : List RelayEntry} {c : RelayCfg}

/-! ### The packets of a stream -/

/-- The packet for a message, if the loop of `SubscribeGatewayTX` sends one. -/
def downlinkOf (mac : EUI64) (message : DownlinkMessage) : Option TXPacketBytes := do
  let lora ← getLorawan message.protocolConfiguration
  let dataRate ← (downlinkDataRate lora).toOption
  let gatewayConfiguration ← message.gatewayConfiguration
  pure (downlinkPacket mac message.payload lora dataRate gatewayConfiguration)

/-- The packet is for the gateway of the goroutine. -/
theorem mac_of_downlinkOf {message : DownlinkMessage} (h : downlinkOf mac message = some txPacket) :
    txPacket.txInfo.mac = mac := by
  obtain ⟨lora, -, h⟩ := Option.bind_eq_some_iff.mp h
  obtain ⟨dataRate, -, h⟩ := Option.bind_eq_some_iff.mp h
  obtain ⟨gatewayConfiguration, -, h⟩ := Option.bind_eq_some_iff.mp h
  cases h
  rfl

/-- The body of the loop: it sends the packet for its message, and goes on unless it panics. -/
theorem consumeDownlink_cases (mac : EUI64) (message : DownlinkMessage) :
    (∃ txPacket, downlinkOf mac message = some txPacket ∧
      (consumeDownlink mac message).run = .eff (.txSend txPacket) fun _ => .ret (.ok ())) ∨
    ∃ r, downlinkOf mac message = none ∧ (consumeDownlink mac message).run = .ret r := by
  cases hlora : getLorawan message.protocolConfiguration with
  | none => exact .inr ⟨_, by simp [downlinkOf, hlora], consumeDownlink_of_none hlora⟩
  | some lora =>
    rcases downlinkDataRate_cases lora with ⟨-, dataRate, hdr⟩ | ⟨-, hdr⟩
    · cases hgw : message.gatewayConfiguration with
      | some gatewayConfiguration =>
        refine .inl ⟨_, ?_, consumeDownlink_of_some hlora hdr hgw⟩
        simp [downlinkOf, hlora, hdr, hgw, Except.toOption]
      | none =>
        exact .inr ⟨_, by simp [downlinkOf, hlora, hgw], consumeDownlink_of_panic hlora (.inr hgw)⟩
    · exact .inr ⟨_, by simp [downlinkOf, hlora, hdr, Except.toOption], consumeDownlink_of_panic hlora (.inl hdr)⟩

/-- **The goroutine of a stream sends the packets of its messages, in order**, or the first of them. -/
theorem emits_consumeDownlinks {all l : List TXPacketBytes} {messages : List DownlinkMessage}
    (hl : l ++ messages.filterMap (downlinkOf mac) = all) :
    (consumeDownlinks mac messages).run.Emits (fun ev => txPut ⟨.downlink ev.1, ev.2⟩) (· <+: all)
      (fun _ _ => True) l := by
  induction messages generalizing l with
  | nil => exact ⟨⟨_, hl⟩, trivial⟩
  | cons message messages ih =>
    have hpre : l <+: all := ⟨_, hl⟩
    rw [consumeDownlinks, ExceptT.run_bind]
    rcases consumeDownlink_cases mac message with ⟨txPacket, hsome, hrun⟩ | ⟨r, hnone, hrun⟩
    · rw [List.filterMap_cons, hsome] at hl
      rw [hrun]
      refine ⟨hpre, fun _ => ih ?_⟩
      rw [← hl, List.append_assoc]
      rfl
    · rw [List.filterMap_cons, hnone] at hl
      rw [hrun]
      cases r with
      | ok _ => exact ih hl
      | error e => exact ⟨hpre, trivial⟩

/-- The packet is that of message `o.2`, of those that have one, that the goroutine `o.1` of
`SubscribeGatewayTX` receives from the stream `st`. -/
def DownlinkOf (c : RelayCfg) (st : ℕ) (o : ℕ × ℕ) (txPacket : TXPacketBytes) : Prop :=
  ∃ mac messages, c.call o.1 = some (.consume mac st messages) ∧
    (messages.filterMap (downlinkOf mac))[o.2]? = some txPacket

/-- **Every packet on `txPacketChan` is that of a message of its own**, for each goroutine in the order in
which it receives them. -/
theorem txPut_accounted (hr : Run (relay J cfg) ok {} h c) :
    Accounted Numbered (fun o txPacket => ∃ st, DownlinkOf c st o txPacket) ((emitted txPut h).map Prod.snd) := by
  refine (accounted_numbered _).imp ?_
  rintro ⟨i, r⟩ txPacket htx
  obtain ⟨en, hen, rfl, hput⟩ := mem_emitted_iff.mp (mem_ofKey_iff.mp (List.mem_of_getElem? htx))
  obtain ⟨t, ht, hcall, hallowed⟩ := exists_thread hr hen
  obtain ⟨mac, st, messages, hconsume⟩ : ∃ mac st messages, t.call = .consume mac st messages := by
    obtain ⟨tid, ⟨e, a⟩, pre, post⟩ := en
    cases e with
    | downlink e => exact hallowed
    | front e => cases e <;> cases hput
    | _ => cases hput
  have hbody : ((relay J cfg).body t.call).Emits txPut (· <+: messages.filterMap (downlinkOf mac))
      (fun _ _ => True) [] := by
    rw [hconsume]
    refine emits_discard (Emits.handle ?_ (emits_consumeDownlinks rfl))
    exact fun e l hl hI => ⟨hl, fun r => ⟨hI r, rfl⟩⟩
  have hpre := hr.emits ht hbody
  obtain ⟨hlt, rfl⟩ := List.getElem?_eq_some_iff.mp htx
  exact ⟨st, mac, messages, hcall.trans (congrArg some hconsume), List.prefix_iff_getElem?.mp hpre r hlt⟩

/-! ### The loop -/

/-- What is put on `udpSendChan` for a downlink: the datagrams that are no acknowledgements. -/
def pullRespPut : Event RelayEff RelayEff.Resp → Option UdpPacket
  | ⟨.front (.udpSend p), .ok _⟩ => if p.data[3]? = some PacketType.pullResp.byte then some p else none
  | _ => none

/-- The datagram is a PULL_RESP for the packet, to the gateway `gw`. -/
def Resp (J : Codecs) (gw : Gateway) (txPacket : TXPacketBytes) (p : UdpPacket) : Prop :=
  p.addr = gw.addr ∧
    (⟨gw.protocolVersion, 0, ⟨newTXPKFromTXPacket txPacket⟩⟩ : PullRespPacket).marshalBinary J = .ok p.data

/-- A PULL_RESP is told from an acknowledgement by its type. -/
theorem pullRespPut_resp {p : UdpPacket} (hresp : Resp J gw txPacket p) :
    pullRespPut ⟨.front (.udpSend p), .ok ()⟩ = some p := by
  obtain ⟨addr, data⟩ := p
  obtain ⟨-, hdata⟩ := hresp
  refine if_pos ?_
  rw [PullRespPacket.marshalBinary] at hdata
  cases hpb : orFail GwError.json (J.pullResp.marshal ⟨newTXPKFromTXPacket txPacket⟩) with
  | error e =>
    rw [hpb] at hdata
    cases hdata
  | ok pb =>
    rw [hpb] at hdata
    cases hdata
    rfl

/-- The effects of a round in which the loop receives the packet and looks its gateway up, up to the answer. -/
abbrev lookedUp (txPacket : TXPacketBytes) (answer : Gateway × Option GwError) :
    List (Event RelayEff RelayEff.Resp) :=
  [⟨.rangeTX, ()⟩, ⟨.takeTX, txPacket⟩, ⟨.front (.get txPacket.txInfo.mac), answer⟩]

/-- The effects of one round of the loop, for a packet. -/
inductive TxRound (J : Codecs) : List (Event RelayEff RelayEff.Resp) → TXPacketBytes → Option UdpPacket → Prop
  /-- The PULL_RESP is sent. -/
  | sent (tx : TXPacketBytes) (gw : Gateway) (p : UdpPacket) : Resp J gw tx p →
      TxRound J (lookedUp tx (gw, none) ++ [⟨.front (.udpSend p), .ok ()⟩]) tx (some p)
  /-- The gateway is not in the registry. -/
  | unknown (tx : TXPacketBytes) (gw : Gateway) (e : GwError) : TxRound J (lookedUp tx (gw, some e)) tx none
  /-- The packet has no JSON text. -/
  | unwritten (tx : TXPacketBytes) (gw : Gateway) : (∀ p, ¬ Resp J gw tx p) →
      TxRound J (lookedUp tx (gw, none)) tx none

/-- What the loop is for. -/
def txService (J : Codecs) : Service (Event RelayEff RelayEff.Resp) TXPacketBytes UdpPacket where
  item := txTake
  reply := pullRespPut
  Fate := TxRound J
  fate_item hround := by cases hround <;> rfl
  fate_reply hround := by
    cases hround with
    | sent tx gw p hresp =>
      change [⟨.front (.udpSend p), .ok ()⟩].filterMap pullRespPut = [p]
      rw [List.filterMap_cons, pullRespPut_resp hresp]
      rfl
    | unknown tx gw e => rfl
    | unwritten tx gw hresp => rfl

variable {l : List (Event RelayEff RelayEff.Resp)}

/-- `Send` in the bridge: it looks the gateway up, and sends the PULL_RESP if there is one. -/
theorem callFront_send (J : Codecs) (txPacket : TXPacketBytes) :
    ∃ k : Gateway × Option GwError → RelayProg (Except (Fault GwError) Unit),
      callFront (Semtech.send J txPacket) = .eff (.front (.get txPacket.txInfo.mac)) k ∧
      (∀ gw e, k (gw, some e) = .ret (fail e)) ∧
      ∀ gw, (∃ r, k (gw, none) = .ret r ∧ ∀ p, ¬ Resp J gw txPacket p) ∨
        ∃ p, Resp J gw txPacket p ∧
          k (gw, none) = .eff (.front (.udpSend p)) fun answer => .ret (orPanic answer) := by
  refine ⟨_, rfl, fun gw e => rfl, fun gw => ?_⟩
  cases hdata : (⟨gw.protocolVersion, 0, ⟨newTXPKFromTXPacket txPacket⟩⟩ : PullRespPacket).marshalBinary J with
  | error e =>
    refine .inl ⟨.error (wrapPullResp e), ?_, ?_⟩
    · simp only [bind_ret, ExceptT.bindCont, hdata]
      rfl
    · rintro p ⟨-, hp⟩
      rw [hdata] at hp
      cases hp
  | ok data =>
    refine .inr ⟨⟨gw.addr, data⟩, ⟨rfl, hdata⟩, ?_⟩
    simp only [bind_ret, ExceptT.bindCont, hdata]
    rfl

/-- **One round of the loop**: `Send` is done with the packet, unless it panics. -/
theorem emits_send (hl : (txService J).Served l) (txPacket : TXPacketBytes) :
    (callFront (Semtech.send J txPacket)).Emits some (txService J).Serving
      (fun r l' => (∀ p, r ≠ .error (.panic p)) → (txService J).Served l')
      (l ++ [⟨.rangeTX, ()⟩, ⟨.takeTX, txPacket⟩]) := by
  obtain ⟨k, hsend, hunknown, hfound⟩ := callFront_send J txPacket
  rw [hsend]
  refine ⟨hl.take (Nat.le_refl 1) rfl, fun answer => ?_⟩
  rw [List.append_assoc]
  obtain ⟨gw, err⟩ := answer
  cases err with
  | some e =>
    rw [hunknown]
    exact ⟨hl.take (Nat.le_refl 1) rfl, fun _ => hl.round (.unknown txPacket gw e)⟩
  | none =>
    rcases hfound gw with ⟨r, hr, hresp⟩ | ⟨p, hresp, hp⟩
    · rw [hr]
      exact ⟨hl.take (Nat.le_refl 1) rfl, fun _ => hl.round (.unwritten txPacket gw hresp)⟩
    · rw [hp]
      refine ⟨hl.take (Nat.le_refl 1) rfl, fun answer => ?_⟩
      rw [List.append_assoc]
      cases answer with
      | error panic => exact ⟨hl.take (Nat.le_refl 1) rfl, fun hne => absurd rfl (hne panic)⟩
      | ok _ =>
        have hround := hl.round (.sent txPacket gw p hresp)
        exact ⟨hround.serving, fun _ => hround⟩

theorem emits_forwardTX (hl : (txService J).Served l) (n : ℕ) :
    (forwardTX J n).Emits some (txService J).Serving (fun _ _ => True) l := by
  induction n generalizing l with
  | zero => exact ⟨hl.serving, trivial⟩
  | succ n ih =>
    refine ⟨hl.serving, fun _ => ⟨hl.take (Nat.zero_le 1) rfl, fun txPacket => ?_⟩⟩
    rw [List.append_assoc]
    refine (emits_send hl txPacket).bind fun r l' hl' hserved => ?_
    rcases r with (e | p) | _
    · exact ih (hserved (by rintro p ⟨⟩))
    · exact ⟨hl', trivial⟩
    · exact ih (hserved (by rintro p ⟨⟩))

/-- The PULL_RESP datagrams, in the order in which they were put on `udpSendChan`. -/
def pullResps (h : List RelayEntry) : List UdpPacket := (emitted pullRespPut h).map Prod.snd

theorem pullRespPut_ack {p : UdpPacket} (hack : IsAck p) (r : (RelayEff.front (.udpSend p)).Resp) :
    pullRespPut ⟨.front (.udpSend p), r⟩ = none := by
  obtain ⟨addr, data⟩ := p
  obtain ⟨version, token, rfl | rfl⟩ := hack <;> cases r <;> rfl

/-- Only the loop receives packets, and only it sends a PULL_RESP. -/
theorem forwardTX_of_txStep (hr : Run (relay J cfg) ok {} h c) {en : RelayEntry} (hen : en ∈ h)
    (hstep : (txTake en.event).isSome ∨ (pullRespPut en.event).isSome) :
    ∃ n, c.call en.tid = some (.forwardTX n) := by
  obtain ⟨t, -, hcall, hallowed⟩ := exists_thread hr hen
  obtain ⟨tid, ⟨e, r⟩, pre, post⟩ := en
  suffices hforward : ∃ n, t.call = .forwardTX n by
    obtain ⟨n, hn⟩ := hforward
    exact ⟨n, hcall.trans (congrArg some hn)⟩
  cases e with
  | takeTX => exact hallowed
  | front e =>
    cases e with
    | udpSend p =>
      rcases hallowed with hack | hforward
      · rw [pullRespPut_ack hack] at hstep
        rcases hstep with hstep | hstep <;> cases hstep
      · exact hforward
    | _ => rcases hstep with hstep | hstep <;> cases hstep
  | _ => rcases hstep with hstep | hstep <;> cases hstep

/-- What the thread `i` did. -/
def doneBy (i : ℕ) (h : List RelayEntry) : List RelayEntry := h.filter fun en => en.tid = i

theorem map_event_doneBy (i : ℕ) (h : List RelayEntry) : (doneBy i h).map Entry.event = performed i h := by
  rw [doneBy, performed, ← List.filterMap_eq_filter, List.map_filterMap]
  refine List.filterMap_congr fun en _ => ?_
  by_cases htid : en.tid = i <;> simp [htid, Option.guard]

/-- **The loop serves.** The packets received and the PULL_RESP datagrams are those of one thread, which
sends one datagram at most for each packet. -/
theorem exists_serving (hr : Run (relay J cfg) OneLoop {} h c) :
    ∃ i, ((txService J).comap Entry.event).Serving (doneBy i h) ∧
      (emitted txTake h).map Prod.snd = (doneBy i h).filterMap (fun en => txTake en.event) ∧
      pullResps h = (doneBy i h).filterMap fun en => pullRespPut en.event := by
  suffices hloop : ∃ i, (txService J).Serving (performed i h) ∧
      ∀ en ∈ h, (txTake en.event).isSome ∨ (pullRespPut en.event).isSome → en.tid = i by
    obtain ⟨i, hserving, hsole⟩ := hloop
    have hof : ∀ {β : Type} (out : Event RelayEff RelayEff.Resp → Option β),
        ofKey i (emitted out h) = (doneBy i h).filterMap fun en => out en.event := by
      intro β out
      rw [ofKey_emitted, ← map_event_doneBy, List.filterMap_map]
      rfl
    rw [← map_event_doneBy] at hserving
    refine ⟨i, hserving.of_map, ?_, ?_⟩
    · rw [emitted_of_sole fun en hen ho => hsole en hen (.inl ho), hof]
    · rw [pullResps, emitted_of_sole fun en hen ho => hsole en hen (.inr ho), hof]
  by_cases hstarted : ∃ i n, c.call i = some (.forwardTX n)
  · obtain ⟨i, n, hcall⟩ := hstarted
    obtain ⟨t, ht, hforward⟩ := Option.map_eq_some_iff.mp hcall
    have hbody : ((relay J cfg).body t.call).Emits some (txService J).Serving (fun _ _ => True) [] := by
      rw [hforward]
      exact emits_forwardTX served_nil n
    have hserving := (hbody.exec (hr.exec ht)).inv
    rw [List.filterMap_some, List.nil_append] at hserving
    refine ⟨i, hserving, fun en hen hstep => ?_⟩
    obtain ⟨m, hcall'⟩ := forwardTX_of_txStep hr hen hstep
    refine hr.unique (K := fun l => ∃ n, l = .forwardTX n) ?_ hcall' hcall ⟨m, rfl⟩ ⟨n, rfl⟩
    rintro c l hok ⟨n, rfl⟩ j _ hj ⟨m, rfl⟩
    exact hok j m hj
  · -- no thread has the number `c.threads.length`
    refine ⟨c.threads.length, ?_, fun en hen hstep => ?_⟩
    · rw [performed_eq_nil fun en hen => Nat.ne_of_lt (hr.tid_lt en hen)]
      exact served_nil.serving
    · exact absurd ⟨en.tid, forwardTX_of_txStep hr hen hstep⟩ hstarted

/-! ### The registry -/

/-- `gw` is the entry that a PULL_DATA of the gateway left in the registry. -/
def Registered (c : RelayCfg) (mac : EUI64) (gw : Gateway) : Prop :=
  ∃ i addr data p, c.call i = some (.datagram addr data) ∧ PullDataPacket.unmarshalBinary data = .ok p ∧
    p.gatewayMAC = mac ∧ gw.addr = some addr ∧ gw.protocolVersion = p.protocolVersion

theorem lookup_of_relaySem {s s' : RelayState} {e : RelayEff} {r : e.Resp} (hs : relaySem cfg e s r s')
    (hlookup : s'.bridge.registry.lookup mac = some gw) :
    s.bridge.registry.lookup mac = some gw ∨ e = .bridge (.registry (.store mac gw)) := by
  cases e with
  | front e =>
    rw [bridge_of_frontSem hs] at hlookup
    exact .inl hlookup
  | bridge e =>
    obtain ⟨b, hb, rfl⟩ := hs
    cases e with
    | lock =>
      obtain ⟨-, rfl⟩ := hb
      exact .inl hlookup
    | unlock =>
      cases hb
      exact .inl hlookup
    | ttn e =>
      obtain ⟨t, -, rfl⟩ := hb
      exact .inl hlookup
    | registry e =>
      obtain ⟨g, hg, rfl⟩ := hb
      cases e with
      | store mac' gw' =>
        cases hg
        by_cases hmac : mac = mac'
        · subst hmac
          rw [Finmap.lookup_insert] at hlookup
          cases hlookup
          exact .inr rfl
        · rw [Finmap.lookup_insert_of_ne _ hmac] at hlookup
          exact .inl hlookup
      | delete mac' =>
        cases hg
        by_cases hmac : mac = mac'
        · subst hmac
          rw [Finmap.lookup_erase] at hlookup
          cases hlookup
        · rw [Finmap.lookup_erase_ne hmac] at hlookup
          exact .inl hlookup
      | now =>
        cases hg
        exact .inl hlookup
      | lookup mac' | range | onNew mac' | onDelete mac' =>
        cases hg.2
        exact .inl hlookup
  | downlink e =>
    obtain ⟨-, rfl⟩ := hs
    exact .inl hlookup
  | takeRX | takeStats | rangeTX | takeTX =>
    obtain ⟨-, rfl⟩ := hs
    exact .inl hlookup

/-- Every entry of the registry is that of a PULL_DATA. -/
def AllRegistered (c : RelayCfg) (s : RelayState) : Prop :=
  ∀ mac gw, s.bridge.registry.lookup mac = some gw → Registered c mac gw

theorem allRegistered_step (hr : Run (relay J cfg) ok {} h c) {en : RelayEntry} (hen : en ∈ h)
    (hpre : AllRegistered c en.pre) : AllRegistered c en.post := by
  intro mac gw hpost
  rcases lookup_of_relaySem (hr.linked.sem_of_mem hen) hpost with hlookup | he
  · exact hpre mac gw hlookup
  · obtain ⟨t, -, hcall, hallowed⟩ := exists_thread hr hen
    rw [he] at hallowed
    obtain ⟨addr, data, p, hdatagram, hp, hmac, haddr, hversion⟩ := hallowed
    exact ⟨en.tid, addr, data, p, hcall.trans (congrArg some hdatagram), hp, hmac, haddr, hversion⟩

theorem allRegistered_empty (c : RelayCfg) : AllRegistered c {} := by
  rintro mac gw ⟨⟩

/-- **Every entry of the registry is that of a PULL_DATA**, at any time. -/
theorem allRegistered (hr : Run (relay J cfg) ok {} h c) : AllRegistered c c.shared :=
  hr.linked.invariant_of_mem (allRegistered_empty c) fun _ hen => allRegistered_step hr hen

theorem allRegistered_pre (hr : Run (relay J cfg) ok {} h c) : ∀ en ∈ h, AllRegistered c en.pre :=
  hr.linked.invariant_pre (allRegistered_empty c) fun _ hen => allRegistered_step hr hen

/-! ### What becomes of a packet -/

/-- The loop receives the packet, and `found` is the look of `Send` at the registry for it. -/
structure Looked (range take found : RelayEntry) (txPacket : TXPacketBytes) : Prop where
  /-- The loop waits for a packet. -/
  range : range.event.1 = .rangeTX
  /-- It has received this one. -/
  take : take.event = ⟨.takeTX, txPacket⟩
  /-- `Send` looks the gateway up. -/
  found : found.event.1 = .front (.get txPacket.txInfo.mac)

/-- The steps are those of a round of the loop for the packet, which goes by what the registry has when
`Send` looks. -/
inductive Fate (J : Codecs) (c : RelayCfg) : List RelayEntry → TXPacketBytes → Option UdpPacket → Prop
  /-- A PULL_RESP is sent to where a PULL_DATA of the gateway came from. -/
  | sent {range take found put : RelayEntry} {tx : TXPacketBytes} (gw : Gateway) {p : UdpPacket} :
      Looked range take found tx → found.pre.bridge.registry.lookup tx.txInfo.mac = some gw →
        Registered c tx.txInfo.mac gw → put.event = ⟨.front (.udpSend p), .ok ()⟩ → Resp J gw tx p →
        Fate J c [range, take, found, put] tx (some p)
  /-- The gateway is not in the registry. -/
  | unknown {range take found : RelayEntry} {tx : TXPacketBytes} :
      Looked range take found tx → found.pre.bridge.registry.lookup tx.txInfo.mac = none →
        Fate J c [range, take, found] tx none
  /-- The packet has no JSON text. -/
  | unwritten {range take found : RelayEntry} {tx : TXPacketBytes} (gw : Gateway) :
      Looked range take found tx → found.pre.bridge.registry.lookup tx.txInfo.mac = some gw →
        (∀ p, ¬ Resp J gw tx p) → Fate J c [range, take, found] tx none

/-- The answer of `get` is what the registry has for the MAC. -/
theorem registry_of_get (hr : Run (relay J cfg) ok {} h c) {en : RelayEntry} (hen : en ∈ h)
    {answer : Gateway × Option GwError} (hget : en.event = ⟨.front (.get mac), answer⟩) :
    match en.pre.bridge.registry.lookup mac with
    | none => answer = (Gateway.zero, some .gatewayDoesNotExist)
    | some gw => answer = (gw, none) := by
  have hsem := hr.linked.sem_of_mem hen
  rw [hget] at hsem
  obtain ⟨⟨-, tr, hruns⟩, -⟩ := hsem
  exact (get_runs hruns).2

theorem registered_of_get (hr : Run (relay J cfg) ok {} h c) {en : RelayEntry} (hen : en ∈ h)
    (hget : en.event = ⟨.front (.get mac), (gw, none)⟩) :
    en.pre.bridge.registry.lookup mac = some gw ∧ Registered c mac gw := by
  have hanswer := registry_of_get hr hen hget
  cases hlookup : en.pre.bridge.registry.lookup mac with
  | none =>
    rw [hlookup] at hanswer
    cases hanswer
  | some gw' =>
    rw [hlookup] at hanswer
    cases hanswer
    exact ⟨rfl, allRegistered_pre hr en hen mac gw hlookup⟩

theorem unregistered_of_get (hr : Run (relay J cfg) ok {} h c) {en : RelayEntry} (hen : en ∈ h) {e : GwError}
    (hget : en.event = ⟨.front (.get mac), (gw, some e)⟩) : en.pre.bridge.registry.lookup mac = none := by
  have hanswer := registry_of_get hr hen hget
  cases hlookup : en.pre.bridge.registry.lookup mac with
  | none => rfl
  | some gw' =>
    rw [hlookup] at hanswer
    cases hanswer

theorem exists_looked {steps : List RelayEntry} {answer : Gateway × Option GwError}
    {l : List (Event RelayEff RelayEff.Resp)} (h : steps.map Entry.event = lookedUp txPacket answer ++ l) :
    ∃ range take found steps', steps = range :: take :: found :: steps' ∧ Looked range take found txPacket ∧
      found.event = ⟨.front (.get txPacket.txInfo.mac), answer⟩ ∧ steps'.map Entry.event = l := by
  obtain ⟨range, steps, rfl, hrange, h⟩ := List.map_eq_cons_iff.mp h
  obtain ⟨take, steps, rfl, htake, h⟩ := List.map_eq_cons_iff.mp h
  obtain ⟨found, steps, rfl, hfound, h⟩ := List.map_eq_cons_iff.mp h
  exact ⟨range, take, found, steps, rfl, ⟨by rw [hrange], htake, by rw [hfound]⟩, hfound, h⟩

theorem fate_of_txRound (hr : Run (relay J cfg) ok {} h c) {steps : List RelayEntry} (hsteps : ∀ en ∈ steps, en ∈ h)
    {o : Option UdpPacket} (hround : TxRound J (steps.map Entry.event) txPacket o) : Fate J c steps txPacket o := by
  generalize hl : steps.map Entry.event = l at hround
  cases hround with
  | sent _ gw p hresp =>
    obtain ⟨range, take, found, rest, rfl, hlooked, hget, hrest⟩ := exists_looked hl
    obtain ⟨put, rest, rfl, hput, hnil⟩ := List.map_eq_cons_iff.mp hrest
    cases List.map_eq_nil_iff.mp hnil
    obtain ⟨hlookup, hregistered⟩ := registered_of_get hr (hsteps found (by simp)) hget
    exact .sent gw hlooked hlookup hregistered hput hresp
  | unknown _ gw e =>
    obtain ⟨range, take, found, rest, rfl, hlooked, hget, hrest⟩ := exists_looked (hl.trans (List.append_nil _).symm)
    cases List.map_eq_nil_iff.mp hrest
    exact .unknown hlooked (unregistered_of_get hr (hsteps found (by simp)) hget)
  | unwritten _ gw hresp =>
    obtain ⟨range, take, found, rest, rfl, hlooked, hget, hrest⟩ := exists_looked (hl.trans (List.append_nil _).symm)
    cases List.map_eq_nil_iff.mp hrest
    exact .unwritten gw hlooked (registered_of_get hr (hsteps found (by simp)) hget).1 hresp

/-- **The rounds of the loop**, each with what became of its packet. -/
theorem exists_rounds (hr : Run (relay J cfg) OneLoop {} h c) :
    ∃ i, ∃ rounds : List (Round RelayEntry TXPacketBytes UdpPacket), ∃ last rest,
      doneBy i h = rounds.flatMap Round.steps ++ last ∧
      (∀ r ∈ rounds, Fate J c r.steps r.item r.reply) ∧
      (emitted txTake h).map Prod.snd = rounds.map Round.item ++ rest ∧ rest.length ≤ 1 ∧
      pullResps h = rounds.filterMap Round.reply := by
  obtain ⟨i, hserving, htake, hresps⟩ := exists_serving hr
  obtain ⟨rounds, last, hrounds, hsteps, hitems, hrest, hreplies⟩ := hserving.items_replies
  refine ⟨i, rounds, last, _, hsteps, fun r hround => ?_, htake.trans hitems, hrest, hresps.trans hreplies⟩
  refine fate_of_txRound hr (fun en hen => ?_) (hrounds r hround)
  have hdone : en ∈ doneBy i h := by
    rw [hsteps]
    exact List.mem_append_left _ (List.mem_flatMap.mpr ⟨r, hround, hen⟩)
  exact List.mem_of_mem_filter hdone

/-- A source for every packet on `txPacketChan` is one for every PULL_RESP, which goes to where a PULL_DATA of
the gateway came from. -/
theorem accounted_pullResps {ι : Type} {ord : ι → ι → Prop} {Src : ι → TXPacketBytes → Prop}
    (hr : Run (relay J cfg) OneLoop {} h c) (hpackets : Accounted ord Src ((emitted txPut h).map Prod.snd)) :
    Accounted ord (fun i p => ∃ txPacket gw, Src i txPacket ∧ Registered c txPacket.txInfo.mac gw ∧
      Resp J gw txPacket p) (pullResps h) := by
  obtain ⟨i, rounds, last, rest, -, hfates, htake, -, hresps⟩ := exists_rounds hr
  have hitems : Accounted ord Src (rounds.map Round.item) := by
    refine hpackets.sublist ?_
    rw [tx_channel hr, htake, List.append_assoc]
    exact List.sublist_append_left _ _
  rw [hresps]
  refine (hitems.replies hfates).imp fun o p hp => ?_
  obtain ⟨txPacket, hsrc, steps, hfate⟩ := hp
  cases hfate with
  | sent gw _ _ hregistered _ hresp => exact ⟨txPacket, gw, hsrc, hregistered, hresp⟩

/-! ### A run -/

/-- A message for a gateway. -/
abbrev sampleMessage : DownlinkMessage := Ttn.sampleDownlink (str "SF7BW125")

/-- The packet for it has a text. -/
abbrev codecsOf (txPacket : TXPacketBytes) : Codecs :=
  ⟨.ofTable [], .ofTable [(⟨newTXPKFromTXPacket txPacket⟩, sampleTXText)], .ofTable []⟩

/-- The datagram with which the gateway registers. -/
abbrev pullCall : RelayCall := .datagram ⟨[192, 168, 1, 2], 1700, []⟩ (samplePull 2 1)

/-- The entry that it leaves. -/
def sampleEntryOf : Gateway := ⟨some ⟨[192, 168, 1, 2], 1700, []⟩, 0, 2⟩

theorem exists_sampleTX : ∃ txPacket, downlinkOf sampleMAC sampleMessage = some txPacket ∧
    (consumeDownlink sampleMAC sampleMessage).run = .eff (.txSend txPacket) (fun _ => .ret (.ok ())) ∧
    txPacket.txInfo.mac = sampleMAC := by
  have hdr : downlinkDataRate ⟨.lora, str "SF7BW125", 0, str "4/5"⟩ =
    .ok { modulation := loRaModulation, spreadFactor := 7, bandwidth := 125 } := by decide
  refine ⟨_, ?_, consumeDownlink_of_some rfl hdr rfl, rfl⟩
  rw [downlinkOf]
  simp [Ttn.sampleDownlink, getLorawan, hdr, Except.toOption]

theorem pullCall_body (J : Codecs) (cfg : Settings) :
    ∃ k : Time → Except GwError Unit → Prog Eff Eff.Resp (Except (Fault GwError) Unit), pullCall.body J cfg =
    discard (Prog.handle frontWire (.eff Eff.now fun now =>
      .eff (.set sampleMAC ⟨some ⟨[192, 168, 1, 2], 1700, []⟩, now, 2⟩) (k now))) := by
  have hpull := isPullData_samplePull 1 (.inr rfl : (2 : UInt8) = 1 ∨ _)
  rw [RelayCall.body, callFront, handlePacket_run_of_isPullData hpull]
  exact ⟨_, rfl⟩

/-- The state once the gateway is registered. -/
def registeredState : RelayState := { bridge := ⟨false, (∅ : Gateways).insert sampleMAC sampleEntryOf,
  (sampleTtn.openStream 0).modify 0 fun g => { g with downlink := some 0 }⟩ }

/-- A run in which the gateway registers. -/
theorem exists_run_pullData (J : Codecs) : ∃ h p, Run (relay J sampleSettings) OneLoop {} h
    ⟨registeredState, [⟨pullCall, p⟩]⟩ ∧ emitted txTake h = [] ∧ pullResps h = [] := by
  obtain ⟨k, hpull⟩ := pullCall_body J sampleSettings
  have r₀ : Run (relay J sampleSettings) OneLoop {} [] ⟨{}, []⟩ := .init
  have r₁ := r₀.start_of_body (l := pullCall) hpull rfl trivial
  have r₂ := r₁.act (i := 0) (e := RelayEff.front .now) (r := (0 : ℤ)) rfl rfl trivial
  have r₃ : Run (relay J sampleSettings) _ _ _ ⟨{ bridge := ⟨true, ∅, {}⟩ }, _⟩ :=
    r₂.act (i := 0) (e := RelayEff.bridge .lock) (r := ()) rfl ⟨_, ⟨rfl, rfl⟩, rfl⟩ trivial
  have r₄ : Run (relay J sampleSettings) _ _ _ ⟨{ bridge := ⟨true, ∅, {}⟩ }, _⟩ :=
    r₃.act (i := 0) (e := RelayEff.bridge (.registry (.lookup sampleMAC))) (r := none) rfl
      ⟨_, ⟨_, ⟨rfl, rfl⟩, rfl⟩, rfl⟩ trivial
  have r₅ : Run (relay J sampleSettings) _ _ _ ⟨{ bridge := ⟨true, ∅, {}⟩ }, _⟩ :=
    r₄.act (i := 0) (e := RelayEff.bridge (.ttn (.getGtw sampleMAC))) (r := none) rfl
      ⟨_, ⟨_, ⟨rfl, rfl⟩, rfl⟩, rfl⟩ trivial
  have r₆ : Run (relay J sampleSettings) _ _ _ ⟨{ bridge := ⟨true, ∅, sampleTtn⟩ }, _⟩ :=
    r₅.act (i := 0) (e := RelayEff.bridge (.ttn (.newGtw sampleMAC))) (r := (0 : ℕ)) rfl
      ⟨_, ⟨_, newGtw_sample, rfl⟩, rfl⟩ trivial
  have r₇ : Run (relay J sampleSettings) _ _ _ ⟨{ bridge := ⟨true, ∅, sampleTtn.openStream 0⟩ }, _⟩ :=
    r₆.act (i := 0) (e := RelayEff.bridge (.ttn (.newDownlinkStream 0))) (r := (0 : ℕ)) rfl
      ⟨_, ⟨_, ⟨rfl, rfl⟩, rfl⟩, rfl⟩ trivial
  have r₈ := r₇.act (i := 0) (e := RelayEff.bridge (.ttn (.setDownlink 0 0))) (r := ()) rfl
    ⟨_, ⟨_, rfl, rfl⟩, rfl⟩ trivial
  have r₉ := r₈.act (i := 0) (e := RelayEff.bridge (.registry (.store sampleMAC sampleEntryOf))) (r := ()) rfl
    ⟨_, ⟨_, rfl, rfl⟩, rfl⟩ trivial
  have r₁₀ := r₉.act (i := 0) (e := RelayEff.bridge .unlock) (r := ()) rfl ⟨_, rfl, rfl⟩ trivial
  exact ⟨_, _, r₁₀, rfl, rfl⟩

/-- The goroutine of its stream. -/
abbrev consumeCall : RelayCall := .consume sampleMAC 0 [sampleMessage]

theorem consumeCall_body {txPacket : TXPacketBytes} (J : Codecs) (cfg : Settings)
    (hconsume : (consumeDownlink sampleMAC sampleMessage).run = .eff (.txSend txPacket) (fun _ => .ret (.ok ()))) :
    consumeCall.body J cfg = .eff (.downlink (.txSend txPacket)) fun _ => .ret () := by
  have hrun : (consumeDownlinks sampleMAC [sampleMessage]).run =
      (consumeDownlink sampleMAC sampleMessage).run >>= _ := rfl
  rw [RelayCall.body, hrun, hconsume]
  rfl

theorem forwardTX_body {txPacket : TXPacketBytes} {J : Codecs} {pb : Bytes}
    (hpb : J.pullResp.marshal ⟨newTXPKFromTXPacket txPacket⟩ = .ok pb) (cfg : Settings) :
    ∃ k, RelayCall.body J cfg (.forwardTX 1) = .eff .rangeTX (fun _ => .eff .takeTX k) ∧
      ∃ k', k txPacket = .eff (.front (.get txPacket.txInfo.mac)) k' ∧
        ∀ gw, ∃ k'', k' (gw, none) =
          .eff (.front (.udpSend ⟨gw.addr, gw.protocolVersion :: 0 :: 0 :: 3 :: pb⟩)) k'' := by
  have hsend : callFront (Semtech.send J txPacket) = Prog.handle frontWire _ :=
    congrArg (Prog.handle frontWire) (send_run hpb)
  refine ⟨fun txPacket => callFront (Semtech.send J txPacket) >>= _, rfl, ?_⟩
  beta_reduce
  rw [hsend]
  exact ⟨_, rfl, fun gw => ⟨_, rfl⟩⟩

/-- A run in which a message on the stream of the gateway reaches it. -/
theorem exists_run_downlink : ∃ J h c, Run (relay J sampleSettings) OneLoop {} h c ∧
    ((emitted txTake h).map Prod.snd).length = 1 ∧ (pullResps h).length = 1 ∧
      c.threads.map Thread.call = [pullCall, .forwardTX 1, consumeCall] := by
  obtain ⟨txPacket, -, hconsume, hmac⟩ := exists_sampleTX
  have hpb : (codecsOf txPacket).pullResp.marshal ⟨newTXPKFromTXPacket txPacket⟩ = .ok sampleTXText :=
    Json.ofTable_marshal _ _ _
  obtain ⟨h, p, r₀, htake, hresps⟩ := exists_run_pullData (codecsOf txPacket)
  obtain ⟨k, hloop, k', hk, hk'⟩ := forwardTX_body hpb sampleSettings
  obtain ⟨k'', hk''⟩ := hk' sampleEntryOf
  have hlookup : registeredState.bridge.registry.lookup sampleMAC = some sampleEntryOf := Finmap.lookup_insert _
  have hget : registryGet txPacket.txInfo.mac registeredState.bridge (sampleEntryOf, none) := by
    rw [hmac]
    exact ⟨rfl, [⟨.lookup sampleMAC, some sampleEntryOf⟩], .eff ⟨hlookup.symm, rfl⟩ .ret⟩
  have r₁ := r₀.start_of_body (l := RelayCall.forwardTX 1) hloop trivial
    (by rintro (- | i) n hcall <;> cases hcall)
  have r₂ : Run (relay (codecsOf txPacket) sampleSettings) _ _ _ ⟨{ registeredState with tx := .ready }, _⟩ :=
    r₁.act (i := 1) (e := RelayEff.rangeTX) (r := ()) rfl ⟨rfl, rfl⟩ trivial
  have hbody := consumeCall_body (codecsOf txPacket) sampleSettings hconsume
  have r₃ := r₂.start_of_body (l := consumeCall) hbody ⟨0, rfl, rfl⟩ trivial
  have r₄ : Run (relay (codecsOf txPacket) sampleSettings) _ _ _
      ⟨{ registeredState with tx := .received txPacket }, _⟩ :=
    r₃.act (i := 2) (e := RelayEff.downlink (.txSend txPacket)) (r := ()) rfl ⟨rfl, rfl⟩ trivial
  have r₅ : Run (relay (codecsOf txPacket) sampleSettings) _ _ _ ⟨registeredState, _⟩ :=
    r₄.act (i := 1) (e := RelayEff.takeTX) (r := txPacket) rfl ⟨rfl, rfl⟩ trivial
  rw [hk] at r₅
  have r₆ := r₅.act (i := 1) (e := RelayEff.front (.get txPacket.txInfo.mac)) (r := (sampleEntryOf, none)) rfl
    ⟨hget, rfl⟩ trivial
  rw [hk''] at r₆
  have r₇ := r₆.act (i := 1) (e := RelayEff.front (.udpSend _)) (r := .ok ()) rfl ⟨rfl, rfl⟩ trivial
  refine ⟨_, _, _, r₇, ?_, ?_, rfl⟩
  · simp only [emitted_append, htake]
    rfl
  · simp only [pullResps, emitted_append, List.map_append]
    rw [← pullResps, hresps]
    rfl

/-! ### From end to end -/

/-- **What became of every downlink.** Every packet that was put on `txPacketChan` has been received by the
loop of `run`, but for the one that it takes next; and the loop is done with each packet that it has received,
but for the last one. The steps of the loop for a packet are one round: where its look at the registry
found the gateway there is a PULL_RESP for the packet, to where a PULL_DATA of the gateway came from, unless the
packet has no text; and where it did not there is none. These are all the PULL_RESP datagrams, in that order. -/
theorem downlinks_fate (hr : Run (relay J cfg) OneLoop {} h c) :
    (emitted txPut h).map Prod.snd = (emitted txTake h).map Prod.snd ++ c.shared.tx.packet.toList ∧
    ∃ i, ∃ rounds : List (Round RelayEntry TXPacketBytes UdpPacket), ∃ last rest,
      doneBy i h = rounds.flatMap Round.steps ++ last ∧
      (∀ r ∈ rounds, Fate J c r.steps r.item r.reply) ∧
      (emitted txTake h).map Prod.snd = rounds.map Round.item ++ rest ∧ rest.length ≤ 1 ∧
      pullResps h = rounds.filterMap Round.reply :=
  ⟨tx_channel hr, exists_rounds hr⟩

/-- The packet of the run has its PULL_RESP. -/
theorem downlinks_fate_one : ∃ J h c, Run (relay J sampleSettings) OneLoop {} h c ∧
    ∃ steps txPacket p, txPacket ∈ (emitted txTake h).map Prod.snd ∧ p ∈ pullResps h ∧
      Fate J c steps txPacket (some p) := by
  obtain ⟨J, h, c, hr, -, hsent, -⟩ := exists_run_downlink
  obtain ⟨-, i, rounds, last, rest, -, hfates, htake, -, hresps⟩ := downlinks_fate hr
  obtain ⟨p, hp⟩ := List.length_eq_one_iff.mp hsent
  have hmem : p ∈ rounds.filterMap Round.reply := by
    rw [← hresps, hp]
    exact List.mem_singleton_self p
  obtain ⟨r, hround, hreply⟩ := List.mem_filterMap.mp hmem
  refine ⟨J, h, c, hr, r.steps, r.item, p, ?_, by rw [hp]; exact List.mem_singleton_self p, ?_⟩
  · rw [htake]
    exact List.mem_append_left _ (List.mem_map_of_mem hround)
  · rw [← hreply]
    exact hfates r hround

end GatewayBridge.Cmd
