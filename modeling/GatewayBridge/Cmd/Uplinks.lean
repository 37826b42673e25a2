import GatewayBridge.Cmd.Publish

/-!
# From a datagram to the router

The way of an uplink through the bridge: an entry of a PUSH_DATA is put on `rxChan` by the handler of
the datagram, the loop of `run` starts a goroutine for it, and that publishes it on the stream of
its gateway. Any number of datagrams and goroutines are under way at once, so uplinks overtake one
another; but every message on a stream to the router is that of an entry of its own of some
datagram of that gateway (`uplinks_accounted`).

Nor is an uplink lost in between: the goroutine of a packet publishes it, unless the gateway is over
its rate limit (`uplinks_fate`).
-/

namespace GatewayBridge.Cmd

open GatewayBridge.Go GatewayBridge.Lora GatewayBridge.Process GatewayBridge.Semtech GatewayBridge.Ttn Prog

variable {J : Codecs} {cfg : Settings} {addr : UDPAddr} {data : Bytes} {mac : EUI64}
  {ok : RelayCfg → Move RelayCall RelayEff → Prop} {h : List RelayEntry} {c : RelayCfg}

/-! ### The packets of a datagram -/

/-- The uplinks that the handler of a datagram puts on `rxChan`. -/
def uplinksOf (J : Codecs) (data : Bytes) : List RXPacketBytes :=
  match PushDataPacket.unmarshalBinary J data with
  | .ok p => forwarded p.gatewayMAC p.payload.rxpk
  | .error _ => []

/-- Each uplink is that of the entry at its place, and has the MAC of the datagram. -/
theorem forwarded_getElem? {rxpks : List RXPK} {r : ℕ} {rxPacket : RXPacketBytes}
    (h : (forwarded mac rxpks)[r]? = some rxPacket) :
    ∃ rxpk, rxpks[r]? = some rxpk ∧ uplink mac rxpk = some rxPacket := by
  induction rxpks generalizing r with
  | nil => cases h
  | cons rxpk rest ih =>
    rw [forwarded] at h
    cases hu : uplink mac rxpk with
    | none =>
      rw [hu] at h
      cases h
    | some rx =>
      rw [hu] at h
      cases r with
      | zero =>
        cases h
        exact ⟨rxpk, rfl, hu⟩
      | succ r => exact ih h

theorem emits_handleRXPacket {all l : List RXPacketBytes} {rxpk : RXPK}
    (hl : l ++ (uplink mac rxpk).toList <+: all) :
    (handleRXPacket mac rxpk).run.Emits (frontView rxPut) (· <+: all)
      (fun r l' => l' = l ++ (uplink mac rxpk).toList ∧ (r = .ok () → (uplink mac rxpk).isSome)) l := by
  have hl₀ : l <+: all := (List.prefix_append _ _).trans hl
  rw [handleRXPacket]
  cases hrx : newRXPacketFromRXPK mac rxpk with
  | error e =>
    have hu : uplink mac rxpk = none := by rw [uplink, hrx]
    rw [hu]
    exact ⟨hl₀, by simp, by rintro ⟨⟩⟩
  | ok rxPacket =>
    rw [orFail_ok, run_lift_ok_bind]
    simp only [(newRXPacketFromRXPK_eq_ok hrx).2.1, ne_eq, toInt_eq_one_iff]
    by_cases hstat : rxpk.stat = 1
    · have hu := uplink_eq_some_iff.mpr ⟨hrx, hstat⟩
      rw [hu] at hl ⊢
      rw [if_neg (not_not.mpr hstat)]
      exact ⟨hl₀, fun _ => ⟨hl, rfl, fun _ => rfl⟩⟩
    · have hu : uplink mac rxpk = none := by
        rw [uplink, hrx]
        exact if_neg hstat
      rw [hu, if_pos hstat]
      exact ⟨hl₀, by simp, by rintro ⟨⟩⟩

/-- The loop over the entries puts out what is left to forward. -/
theorem emits_handleRXPackets {all l : List RXPacketBytes} {rxpks : List RXPK}
    (hl : l ++ forwarded mac rxpks = all) :
    (handleRXPackets mac rxpks).run.Emits (frontView rxPut) (· <+: all) (fun _ _ => True) l := by
  induction rxpks generalizing l with
  | nil => exact ⟨⟨_, hl⟩, trivial⟩
  | cons rxpk rest ih =>
    rw [forwarded] at hl
    cases hu : uplink mac rxpk with
    | none =>
      rw [hu] at hl
      have hpre : l ++ (uplink mac rxpk).toList <+: all := by
        rw [hu]
        exact ⟨[], by simpa using hl⟩
      refine emits_go_bind (emits_handleRXPacket hpre) ?_ fun _ _ _ => trivial
      rintro ⟨⟩ l' - ⟨-, hsome⟩
      rw [hu] at hsome
      cases hsome rfl
    | some rx =>
      rw [hu] at hl
      have hpre : l ++ (uplink mac rxpk).toList <+: all := by
        rw [hu]
        exact ⟨forwarded mac rest, by simpa using hl⟩
      refine emits_go_bind (emits_handleRXPacket hpre) ?_ fun _ _ _ => trivial
      rintro ⟨⟩ l' - ⟨rfl, -⟩
      refine ih ?_
      rw [hu, ← hl]
      simp

theorem emits_handleStat (addr : UDPAddr) (stat : Stat) {all l : List RXPacketBytes} (hl : l <+: all) :
    (handleStat addr mac stat).run.Emits (frontView rxPut) (· <+: all) (fun _ l' => l' = l) l := by
  refine emits_eff_none hl (fun _ => rfl) fun answer => emits_eff_none hl (fun _ => rfl) fun _ => ?_
  exact ⟨hl, rfl⟩

theorem emits_handlePayload (addr : UDPAddr) (mac : EUI64) (payload : PushDataPayload) :
    (handlePayload addr mac payload).run.Emits (frontView rxPut) (· <+: forwarded mac payload.rxpk)
      (fun _ _ => True) [] := by
  rw [handlePayload]
  cases payload.stat with
  | none => exact emits_handleRXPackets rfl
  | some stat =>
    refine emits_go_bind (emits_handleStat addr stat List.nil_prefix) ?_ fun _ _ _ => trivial
    rintro ⟨⟩ l' - rfl
    exact emits_handleRXPackets rfl

/-- **The handler of a datagram puts its uplinks on `rxChan`, in order**, or the first of them. -/
theorem emits_handlePacket (J : Codecs) (addr : UDPAddr) (data : Bytes) :
    (handlePacket J addr data).run.Emits (frontView rxPut) (· <+: uplinksOf J data) (fun _ _ => True) [] := by
  have hnil : [] <+: uplinksOf J data := List.nil_prefix
  rcases handlePacket_cases J addr data with ⟨p, hp, h⟩ | ⟨p, hp, h⟩ | ⟨-, -, h⟩ | ⟨-, -, -, e, h⟩
  · rw [h, handlePullData, hp]
    refine emits_eff_none hnil (fun _ => rfl) fun now => emits_eff_none hnil (fun _ => rfl) fun answer => ?_
    cases answer with
    | error e => exact ⟨hnil, trivial⟩
    | ok _ => exact emits_eff_none hnil (fun _ => rfl) fun _ => ⟨hnil, trivial⟩
  · have huplinks : uplinksOf J data = forwarded p.gatewayMAC p.payload.rxpk := by rw [uplinksOf, hp]
    rw [huplinks] at hnil ⊢
    rw [h, handlePushData, hp]
    refine emits_eff_none hnil (fun _ => rfl) fun answer => ?_
    cases answer with
    | error e => exact ⟨hnil, trivial⟩
    | ok _ => exact emits_handlePayload addr p.gatewayMAC p.payload
  · rw [h]
    exact ⟨hnil, trivial⟩
  · rw [h]
    exact ⟨hnil, trivial⟩

/-- The uplink is that of entry `o.2` of the PUSH_DATA with which thread `o.1` was called. -/
def UplinkOf (J : Codecs) (c : RelayCfg) (o : ℕ × ℕ) (rxPacket : RXPacketBytes) : Prop :=
  ∃ addr data p rxpk, c.call o.1 = some (.datagram addr data) ∧ PushDataPacket.unmarshalBinary J data = .ok p ∧
    p.payload.rxpk[o.2]? = some rxpk ∧ newRXPacketFromRXPK p.gatewayMAC rxpk = .ok rxPacket ∧ rxpk.stat = 1

/-- **Every packet on `rxChan` is that of an entry of its own**, in the order of the entries for each
datagram. -/
theorem rxPut_accounted (hr : Run (relay J cfg) ok {} h c) :
    Accounted Numbered (UplinkOf J c) ((emitted rxPut h).map Prod.snd) := by
  refine (accounted_numbered _).imp ?_
  rintro ⟨i, r⟩ rxPacket hrx
  obtain ⟨en, hen, rfl, hput⟩ := mem_emitted_iff.mp (mem_ofKey_iff.mp (List.mem_of_getElem? hrx))
  obtain ⟨t, ht, hcall, hallowed⟩ := exists_thread hr hen
  obtain ⟨addr, data, hdatagram⟩ : ∃ addr data, t.call = .datagram addr data := by
    obtain ⟨tid, ⟨e, a⟩, pre, post⟩ := en
    cases e with
    | front e =>
      cases e with
      | rxSend rxPacket => exact hallowed
      | _ => cases hput
    | _ => cases hput
  have hbody : ((relay J cfg).body t.call).Emits rxPut (· <+: uplinksOf J data) (fun _ _ => True) [] := by
    rw [hdatagram]
    exact emits_discard
      (emits_callFront (fun _ _ _ => rfl) (fun _ => rfl) (fun _ _ => rfl) (emits_handlePacket J addr data))
  have hpre := hr.emits ht hbody
  obtain ⟨hlt, rfl⟩ := List.getElem?_eq_some_iff.mp hrx
  have huplink := List.prefix_iff_getElem?.mp hpre r hlt
  cases hp : PushDataPacket.unmarshalBinary J data with
  | error e =>
    rw [uplinksOf, hp] at huplink
    cases huplink
  | ok p =>
    rw [uplinksOf, hp] at huplink
    obtain ⟨rxpk, hrxpk, hu⟩ := forwarded_getElem? huplink
    obtain ⟨hnew, hstat⟩ := uplink_eq_some_iff.mp hu
    exact ⟨addr, data, p, rxpk, hcall.trans (congrArg some hdatagram), hp, hrxpk, hnew, hstat⟩

/-! ### Uplinks -/

/-- What is sent on the streams for uplinks. -/
def uplinkSend : Event TtnEff TtnEff.Resp → Option (ℕ × UplinkMessage)
  | ⟨.uplinkSend gtw message, _⟩ => some (gtw, message)
  | _ => none

/-- The message for a packet. -/
def MessageOf (rxPacket : RXPacketBytes) (message : UplinkMessage) : Prop :=
  ∃ now, message = convertRXPacket now rxPacket

/-- The steps of a goroutine for a packet from `RXPacketChan()`. -/
abbrev RXWorks : List (WorkStep RXPacketBytes EUI64 ℕ UplinkMessage) → Prop :=
  Works (fun rxPacket => rxPacket.rxInfo.mac) MessageOf

theorem emits_publishGatewayRX (cfg : Settings) (rxPacket : RXPacketBytes) :
    (publishGatewayRX cfg rxPacket.rxInfo.mac rxPacket).Emits (ttnView (workStep rxTake uplinkSend)) RXWorks
      (fun _ _ => True) [.took rxPacket] := by
  refine (emits_session (fun _ => rfl) (fun _ => rfl) (.took _) (.found _)).bind fun gtw l' hl' heq => ?_
  subst heq
  refine emits_eff_none hl' (fun _ => rfl) fun _ => ?_
  have huses : (overRate cfg gtw).Uses (· = .rxRate gtw) := uses_overRate rfl
  have hnone : ∀ e, e = TtnEff.rxRate gtw → ∀ r, ttnView (workStep rxTake uplinkSend) ⟨e, r⟩ = none := by
    rintro _ rfl r
    rfl
  refine (huses.emits hnone hl').bind fun limited l' _ heq => ?_
  subst heq
  cases limited with
  | true => exact ⟨hl', trivial⟩
  | false =>
    refine emits_eff_none hl' (fun _ => rfl) fun now => ⟨hl', fun _ => ⟨?_, trivial⟩⟩
    exact .sent _ gtw _ ⟨now, rfl⟩

/-- The goroutines for the packets from `RXPacketChan()`. -/
def rxPublisher (J : Codecs) (cfg : Settings) : Publisher J cfg RXPacketBytes UplinkMessage where
  call := .forwardRX
  take := rxTake
  send := uplinkSend
  mac rxPacket := rxPacket.rxInfo.mac
  message := MessageOf
  take_bridge _ _ := rfl
  take_allowed l e r p hl hp := by
    cases e with
    | takeRX => exact hl
    | _ => cases hp
  send_allowed l e r m hl hm := by
    cases e with
    | uplinkSend gtw message => exact hl
    | _ => cases hm
  emits := ⟨.idle, fun rxPacket => emits_discard (emits_callBackend (emits_publishGatewayRX cfg rxPacket))⟩

/-! ### A run -/

/-- Where the gateway is. -/
def sampleAddr : UDPAddr := ⟨[192, 168, 1, 2], 1700, []⟩

/-- A datagram with a good uplink and a bad one. -/
abbrev sampleCall : RelayCall := .datagram sampleAddr (sampleData "1" "-1")

/-- The codec of the datagram. -/
abbrev sampleJ : Codecs := sampleCodecs 1 (-1) "1" "-1"

/-- A bridge without a limit. -/
def unlimited : Settings := { sampleSettings with rxRateLimit := 0 }

/-- The bridge without a limit, as a system. -/
abbrev sampleRelay : System RelayState RelayCall RelayEff RelayEff.Resp Unit := relay sampleJ unlimited

theorem overRate_unlimited (gtw : ℕ) : overRate unlimited gtw = pure false := if_neg (lt_irrefl 0)

theorem exists_sampleRX : ∃ rx, newRXPacketFromRXPK sampleMAC (sampleEntry 1) = .ok rx := by
  have h : (uplink sampleMAC (sampleEntry 1)).isSome := by decide
  obtain ⟨rx, hrx⟩ := Option.isSome_iff_exists.mp h
  exact ⟨rx, (uplink_eq_some_iff.mp hrx).1⟩

/-- The state once the `gtw` is made. -/
def madeState : RelayState := { bridge := { ttn := (TtnState.newGtw unlimited sampleMAC {}).2 } }

theorem exists_rxSend {rx : RXPacketBytes} (hrx : newRXPacketFromRXPK sampleMAC (sampleEntry 1) = .ok rx) :
    ∃ k, (handlePayload sampleAddr sampleMAC (samplePush 1 (-1)).payload).run = .eff (.rxSend rx) k := by
  have hcrc : rx.rxInfo.crcStatus = 1 := (newRXPacketFromRXPK_eq_ok hrx).2.1
  have hpacket : handleRXPacket sampleMAC (sampleEntry 1) = perform (Eff.rxSend rx) := by
    rw [handleRXPacket, hrx]
    exact if_neg (not_not.mpr hcrc)
  have hpayload : handlePayload sampleAddr sampleMAC (samplePush 1 (-1)).payload =
      (handleRXPacket sampleMAC (sampleEntry 1) >>= fun _ => handleRXPackets sampleMAC [sampleEntry (-1)]) := rfl
  rw [hpayload, hpacket]
  exact ⟨_, rfl⟩

/-- The handler of the datagram acknowledges it, and puts the good uplink on `rxChan`. -/
theorem sampleCall_body (cfg : Settings) : ∃ rx ack k k',
    newRXPacketFromRXPK sampleMAC (sampleEntry 1) = .ok rx ∧
    sampleCall.body sampleJ cfg = .eff (.front (.udpSend ack)) k ∧
      k (.ok ()) = .eff (.front (.rxSend rx)) k' := by
  obtain ⟨rx, hrx⟩ := exists_sampleRX
  obtain ⟨k, hk⟩ := exists_rxSend hrx
  have hp := samplePush_decodes 1 (-1) "1" "-1"
  rw [RelayCall.body, handlePacket_eq (Packet.DecodedFrom.getPacketType (p := .pushData _) hp)]
  simp only [Packet.type, if_true]
  rw [handlePushData, hp]
  refine ⟨rx, _, _, fun r => discard ((k r).handle frontWire), hrx, rfl, ?_⟩
  exact congrArg (fun p => discard (p.handle frontWire)) hk

/-- Publishing without a limit. -/
def publishUnlimited (rxPacket : RXPacketBytes) : TtnProg (Except GwError Unit) := do
  let gtw ← session sampleMAC
  ask (TtnEff.rxRateUpdate gtw 1)
  let now ← ask TtnEff.now
  ask (TtnEff.uplinkSend gtw (convertRXPacket now rxPacket))
  pure (.ok ())

theorem publishGatewayRX_unlimited {rx : RXPacketBytes} (hmac : rx.rxInfo.mac = sampleMAC) :
    publishGatewayRX unlimited rx.rxInfo.mac rx = publishUnlimited rx := by
  rw [hmac, publishGatewayRX]
  simp only [overRate_unlimited]
  rfl

/-- The backend once it has counted an uplink. -/
def countedTtn : TtnState :=
  (TtnState.newGtw unlimited sampleMAC {}).2.modify 0 fun g => { g with rxRate := g.rxRate.update 1 }

/-- A run in which the uplink reaches the stream of its gateway, and its goroutine has ended. -/
theorem exists_run_uplink : ∃ h c, Run (sampleRelay) (fun _ _ => True) {} h c ∧
    ((rxPublisher sampleJ unlimited).sent h).length = 1 ∧ ((emitted rxTake h).map Prod.snd).length = 1 ∧
      ∃ p, c.threads = [⟨sampleCall, p⟩, ⟨.forwardRX, .ret ()⟩] := by
  obtain ⟨rx, ack, k, k', hrx, hbody, hk⟩ := sampleCall_body unlimited
  have hpublish := publishGatewayRX_unlimited (newRXPacketFromRXPK_eq_ok hrx).1
  have hmade : ttnSem unlimited (.newGtw sampleMAC) {} (0 : ℕ) (TtnState.newGtw unlimited sampleMAC {}).2 := rfl
  have r₀ : Run (sampleRelay) (fun _ _ => True) {} [] ⟨{}, []⟩ := .init
  have r₁ := r₀.start_of_body (l := sampleCall) hbody rfl trivial
  have r₂ : Run (sampleRelay) _ _ _ ⟨{}, _⟩ :=
    r₁.act (i := 0) (r := .ok ()) rfl ⟨rfl, rfl⟩ trivial
  rw [hk] at r₂
  have r₃ : Run (sampleRelay) _ _ _ ⟨{ rx := some rx }, _⟩ :=
    r₂.act (i := 0) (r := ()) rfl ⟨rfl, rfl⟩ trivial
  have r₄ := r₃.start RelayCall.forwardRX trivial trivial
  have r₅ : Run (sampleRelay) _ _ _ ⟨{}, [⟨sampleCall, k' ()⟩,
      ⟨.forwardRX, discard (callBackend (publishGatewayRX unlimited rx.rxInfo.mac rx))⟩]⟩ :=
    r₄.act (i := 1) (r := rx) rfl ⟨rfl, rfl⟩ trivial
  rw [hpublish] at r₅
  have r₆ : Run (sampleRelay) _ _ _ ⟨{}, _⟩ :=
    r₅.act (i := 1) (e := RelayEff.bridge (.ttn (.getGtw sampleMAC))) (r := none) rfl
      ⟨_, ⟨_, ⟨rfl, rfl⟩, rfl⟩, rfl⟩ trivial
  have r₇ : Run (sampleRelay) _ _ _ ⟨madeState, _⟩ :=
    r₆.act (i := 1) (e := RelayEff.bridge (.ttn (.newGtw sampleMAC))) (r := (0 : ℕ)) rfl
      ⟨_, ⟨_, hmade, rfl⟩, rfl⟩ trivial
  have r₈ : Run (sampleRelay) _ _ _ ⟨{ bridge := { ttn := countedTtn } }, _⟩ :=
    r₇.act (i := 1) (e := RelayEff.bridge (.ttn (.rxRateUpdate 0 1))) (r := ()) rfl
      ⟨_, ⟨_, rfl, rfl⟩, rfl⟩ trivial
  have r₉ := r₈.act (i := 1) (e := RelayEff.bridge (.ttn .now)) (r := (0 : ℤ)) rfl ⟨_, ⟨_, rfl, rfl⟩, rfl⟩ trivial
  have r₁₀ := r₉.act (i := 1) (e := RelayEff.bridge (.ttn (.uplinkSend 0 _))) (r := ()) rfl
    ⟨_, ⟨_, rfl, rfl⟩, rfl⟩ trivial
  exact ⟨_, _, r₁₀, rfl, rfl, _, rfl⟩

/-! ### From end to end -/

/-- **No uplink is duplicated or made up.** In every run of the bridge, the messages on the streams to the
router are those of different entries of PUSH_DATA datagrams, and each is on the stream of the gateway that
sent its datagram. -/
theorem uplinks_accounted (hr : Run (relay J cfg) ok {} h c) :
    Accounted (· ≠ ·) (fun o (sent : ℕ × UplinkMessage) => ∃ rxPacket, UplinkOf J c o rxPacket ∧
      MessageOf rxPacket sent.2 ∧ c.shared.bridge.ttn.gateways.lookup rxPacket.rxInfo.mac = some sent.1)
      ((rxPublisher J cfg).sent h) := by
  exact (rxPublisher J cfg).accounted hr (fun _ _ => Numbered.ne) (rxPut_accounted hr) ⟨_, (rx_channel hr).symm⟩

/-- The uplink of the run is that of the good entry. -/
theorem uplinks_accounted_one : ∃ h c, Run sampleRelay (fun _ _ => True) {} h c ∧
    ∃ o sent rxPacket, sent ∈ (rxPublisher sampleJ unlimited).sent h ∧ UplinkOf sampleJ c o rxPacket ∧
      MessageOf rxPacket sent.2 := by
  obtain ⟨h, c, hr, hsent, -⟩ := exists_run_uplink
  obtain ⟨os, -, hos⟩ := uplinks_accounted hr
  obtain ⟨sent, hmem⟩ := List.length_eq_one_iff.mp hsent
  rw [hmem] at hos
  obtain ⟨o, -, ⟨rxPacket, hsrc, hmsg, -⟩, -, -⟩ := List.forall₂_cons_right_iff.mp hos
  exact ⟨h, c, hr, o, sent, rxPacket, by simp [hmem], hsrc, hmsg⟩

/-! ### No uplink is lost -/

/-- What becomes of a packet: its message is sent on the stream of its gateway, or the gateway is over the
limit. -/
def Settled (cfg : Settings) (rxPacket : RXPacketBytes) (l : List (Event RelayEff RelayEff.Resp)) : Prop :=
  ∃ gtw, (∃ ev ∈ l, Finds rxPacket.rxInfo.mac gtw ev) ∧
    ((∃ message, MessageOf rxPacket message ∧ ⟨.bridge (.ttn (.uplinkSend gtw message)), ()⟩ ∈ l) ∨
      ∃ rate, 0 < cfg.rxRateLimit ∧ cfg.rxRateLimit < rate ∧ ⟨.bridge (.ttn (.rxRate gtw)), rate⟩ ∈ l)

section Settling

variable {l : List (Event RelayEff RelayEff.Resp)} {gtw : ℕ}

theorem finds_session (mac : EUI64) (l : List (Event RelayEff RelayEff.Resp)) :
    (session mac).Emits (ttnView some) (fun _ => True)
      (fun gtw l' => l <+: l' ∧ ∃ ev ∈ l', Finds mac gtw ev) l := by
  refine ⟨trivial, fun found => ?_⟩
  cases found with
  | some gtw =>
    refine ⟨trivial, List.prefix_append _ _, _, List.mem_append_right _ (List.mem_singleton_self _), .inl rfl⟩
  | none =>
    refine ⟨trivial, fun gtw => ⟨trivial, ?_, ?_⟩⟩
    · exact (List.prefix_append _ _).trans (List.prefix_append _ _)
    · exact ⟨_, List.mem_append_right _ (List.mem_singleton_self _), .inr rfl⟩

theorem rate_overRate (cfg : Settings) (gtw : ℕ) (l : List (Event RelayEff RelayEff.Resp)) :
    (overRate cfg gtw).Emits (ttnView some) (fun _ => True)
      (fun limited l' => l <+: l' ∧ (limited = true → ∃ rate, 0 < cfg.rxRateLimit ∧ cfg.rxRateLimit < rate ∧
        ⟨.bridge (.ttn (.rxRate gtw)), rate⟩ ∈ l')) l := by
  unfold overRate
  split_ifs with hlimit
  · refine ⟨trivial, fun rate => ⟨trivial, List.prefix_append _ _, fun hover => ?_⟩⟩
    exact ⟨rate, hlimit, of_decide_eq_true hover, List.mem_append_right _ (List.mem_singleton_self _)⟩
  · exact ⟨trivial, List.prefix_refl l, by rintro ⟨⟩⟩

theorem settled_publishGatewayRX (cfg : Settings) (rxPacket : RXPacketBytes) :
    (publishGatewayRX cfg rxPacket.rxInfo.mac rxPacket).Emits (ttnView some) (fun _ => True)
      (fun _ l' => l <+: l' ∧ Settled cfg rxPacket l') l := by
  refine (finds_session _ l).bind fun gtw l₁ _ ⟨hl₁, ev, hev, hfinds⟩ => ⟨trivial, fun _ => ?_⟩
  refine (rate_overRate cfg gtw _).bind fun limited l₂ _ ⟨hl₂, hover⟩ => ?_
  have hl₁₂ : l₁ <+: l₂ := (List.prefix_append _ _).trans hl₂
  cases limited with
  | true => exact ⟨trivial, hl₁.trans hl₁₂, gtw, ⟨ev, hl₁₂.subset hev, hfinds⟩, .inr (hover rfl)⟩
  | false =>
    refine ⟨trivial, fun now => ⟨trivial, fun _ => ⟨trivial, ?_, gtw, ⟨ev, ?_, hfinds⟩, .inl ?_⟩⟩⟩
    · exact (hl₁.trans hl₁₂).trans ((List.prefix_append _ _).trans (List.prefix_append _ _))
    · exact List.mem_append_left _ (List.mem_append_left _ (hl₁₂.subset hev))
    · exact ⟨_, ⟨now, rfl⟩, List.mem_append_right _ (List.mem_singleton_self _)⟩

/-- A goroutine that has ended has settled the packet that it had. -/
theorem settled_forwardRX (cfg : Settings) :
    (forwardRX cfg).Emits some (fun _ => True)
      (fun _ l => ∃ rxPacket, ⟨.takeRX, rxPacket⟩ ∈ l ∧ Settled cfg rxPacket l) [] := by
  refine ⟨trivial, fun rxPacket => ?_⟩
  refine (emits_callBackend (settled_publishGatewayRX cfg rxPacket)).bind fun _ l _ ⟨hl, hsettled⟩ => ?_
  exact ⟨trivial, rxPacket, hl.subset (List.mem_singleton_self _), hsettled⟩

end Settling

/-- **No uplink is lost on the way.** Every packet that was put on `rxChan` is in the hands of the loop of
`run`, or has a goroutine of its own; and when that has ended, it has sent the message of the packet,
or has found the rate of the gateway over the limit. -/
theorem uplinks_fate (hr : Run (relay J cfg) ok {} h c) :
    (emitted rxPut h).map Prod.snd = (emitted rxTake h).map Prod.snd ++ c.shared.rx.toList ∧
    Accounted (· ≠ ·) (fun i rxPacket => c.call i = some .forwardRX ∧ ⟨.takeRX, rxPacket⟩ ∈ performed i h ∧
      (c.threads[i]? = some ⟨.forwardRX, .ret ()⟩ → Settled cfg rxPacket (performed i h)))
      ((emitted rxTake h).map Prod.snd) := by
  refine ⟨rx_channel hr, ?_⟩
  refine ((rxPublisher J cfg).taken_accounted hr).imp ?_
  rintro i rxPacket ⟨hcall, hworks, hmem⟩
  have htook : ⟨.takeRX, rxPacket⟩ ∈ performed i h := by
    obtain ⟨⟨tid, ⟨e, r⟩, pre, post⟩, hen, rfl, htake⟩ := mem_emitted_iff.mp hmem
    cases e with
    | takeRX =>
      cases htake
      exact mem_performed_iff.mpr ⟨_, hen, rfl, rfl⟩
    | _ => cases htake
  refine ⟨hcall, htook, fun ht => ?_⟩
  have hended := (settled_forwardRX cfg).exec (hr.exec ht)
  rw [List.filterMap_some, List.nil_append] at hended
  obtain ⟨rxPacket', htook', hsettled⟩ := hended.2
  have hstep : ∀ {p}, ⟨.takeRX, p⟩ ∈ performed i h → .took p ∈ ofKey i ((rxPublisher J cfg).steps h) := by
    intro p hp
    obtain ⟨en, hen, htid, hevent⟩ := mem_performed_iff.mp hp
    exact mem_ofKey_iff.mpr (mem_emitted_iff.mpr ⟨en, hen, htid, by rw [hevent]; rfl⟩)
  rw [hworks.took_unique (hstep htook) (hstep htook')]
  exact hsettled

/-- The goroutine of the run has ended, and has settled its packet. -/
theorem uplinks_fate_one : ∃ h c, Run sampleRelay (fun _ _ => True) {} h c ∧
    ∃ i rxPacket, c.threads[i]? = some ⟨.forwardRX, .ret ()⟩ ∧ ⟨.takeRX, rxPacket⟩ ∈ performed i h ∧
      Settled unlimited rxPacket (performed i h) := by
  obtain ⟨h, c, hr, -, htaken, p, hthreads⟩ := exists_run_uplink
  obtain ⟨is, -, his⟩ := (uplinks_fate hr).2
  obtain ⟨rxPacket, hmem⟩ := List.length_eq_one_iff.mp htaken
  rw [hmem] at his
  obtain ⟨i, -, ⟨hcall, htook, hsettled⟩, -, -⟩ := List.forall₂_cons_right_iff.mp his
  have hended : c.threads[i]? = some ⟨.forwardRX, .ret ()⟩ := by
    rw [Cfg.call, hthreads] at hcall
    rw [hthreads]
    obtain _ | _ | i := i
    · cases hcall
    · rfl
    · cases hcall
  exact ⟨h, c, hr, i, rxPacket, hended, htook, hsettled hended⟩

end GatewayBridge.Cmd
