import GatewayBridge.Cmd.Uplinks
import GatewayBridge.Semtech.Status

/-!
# From a datagram to the status of a gateway

The way of a status through the bridge is that of an uplink: the handler of a PUSH_DATA puts one packet
on `statsChan` if there is a `stat`, the loop of `run` starts a goroutine for it, and that publishes
the status. `statuses_accounted` says of the statuses what `uplinks_accounted` says of the uplinks.

`handleStat` would add the address that the gateway is registered with only where the registry returns an
error, and then there is no address; so the packet has the address of the datagram and no other.
-/

namespace GatewayBridge.Cmd

open GatewayBridge.Go GatewayBridge.Lora GatewayBridge.Process GatewayBridge.Semtech GatewayBridge.Ttn Prog

variable {J : Codecs} {cfg : Settings} {addr : UDPAddr} {data : Bytes} {mac : EUI64} {stat : Stat}
  {ok : RelayCfg → Move RelayCall RelayEff → Prop} {h : List RelayEntry} {c : RelayCfg}

/-! ### The packet of a datagram -/

/-- What `handleStat` does: it reads the registry, and puts a packet on `statsChan`. -/
inductive StatStep where
  /-- The answer of the registry. -/
  | got (answer : Gateway × Option GwError)
  /-- The packet. -/
  | put (stats : GatewayStatsPacket)

/-- The step that an effect is. -/
def statStep : Event RelayEff RelayEff.Resp → Option StatStep
  | ⟨.front (.get _), answer⟩ => some (.got answer)
  | ⟨.front (.statsSend stats), _⟩ => some (.put stats)
  | _ => none

/-- The packet that is put. -/
def StatStep.packet : StatStep → Option GatewayStatsPacket
  | .got _ => none
  | .put stats => some stats

/-- The packet for a `stat`. -/
def statsPacket (addr : UDPAddr) (mac : EUI64) (stat : Stat) : GatewayStatsPacket :=
  addIPToGatewayStatsPacket (newGatewayStatsPacket mac stat) addr.ip

/-- The packet that `handleStat` makes of it, given what the registry answers. -/
def withRegistered (gwStats : GatewayStatsPacket) (answer : Gateway × Option GwError) : GatewayStatsPacket :=
  match answer.2, answer.1.addr with
  | some _, some a => addIPToGatewayStatsPacket gwStats a.ip
  | _, _ => gwStats

/-- The steps of the handler of a datagram. -/
inductive Reports (J : Codecs) (addr : UDPAddr) (data : Bytes) : List StatStep → Prop
  /-- It has not read the registry. -/
  | idle : Reports J addr data []
  /-- It has an answer. -/
  | got (answer : Gateway × Option GwError) : Reports J addr data [.got answer]
  /-- It has put a packet on `statsChan`. -/
  | put (answer : Gateway × Option GwError) (p : PushDataPacket) (stat : Stat) :
      PushDataPacket.unmarshalBinary J data = .ok p → p.payload.stat = some stat →
      Reports J addr data [.got answer, .put (withRegistered (statsPacket addr p.gatewayMAC stat) answer)]

theorem reports_handleRXPackets {l : List StatStep} (hl : Reports J addr data l) (rxpks : List RXPK) :
    (handleRXPackets mac rxpks).run.Emits (frontView statStep) (Reports J addr data) (fun _ _ => True) l := by
  refine ((uses_handleRXPackets mac rxpks).emits ?_ hl).mono fun _ _ _ => trivial
  rintro _ ⟨rxPacket, rfl⟩ r
  rfl

theorem reports_handlePayload {p : PushDataPacket} (hp : PushDataPacket.unmarshalBinary J data = .ok p) :
    (handlePayload addr p.gatewayMAC p.payload).run.Emits (frontView statStep) (Reports J addr data)
      (fun _ _ => True) [] := by
  rw [handlePayload]
  cases hstat : p.payload.stat with
  | none => exact reports_handleRXPackets .idle _
  | some stat =>
    have hhandle : (handleStat addr p.gatewayMAC stat).run.Emits (frontView statStep) (Reports J addr data)
        (fun _ _ => True) [] :=
      ⟨.idle, fun answer => ⟨.got answer, fun _ => ⟨.put answer p stat hp hstat, trivial⟩⟩⟩
    exact emits_go_bind hhandle (fun _ _ hl _ => reports_handleRXPackets hl _) fun _ _ _ => trivial

/-- **The handler of a datagram puts one packet on `statsChan`**, if there is a `stat`. -/
theorem reports_handlePacket (J : Codecs) (addr : UDPAddr) (data : Bytes) :
    (handlePacket J addr data).run.Emits (frontView statStep) (Reports J addr data) (fun _ _ => True) [] := by
  rcases handlePacket_cases J addr data with ⟨p, hp, h⟩ | ⟨p, hp, h⟩ | ⟨-, -, h⟩ | ⟨-, -, -, e, h⟩
  · rw [h, handlePullData, hp]
    refine emits_eff_none .idle (fun _ => rfl) fun now => emits_eff_none .idle (fun _ => rfl) fun answer => ?_
    cases answer with
    | error e => exact ⟨.idle, trivial⟩
    | ok _ => exact emits_eff_none .idle (fun _ => rfl) fun _ => ⟨.idle, trivial⟩
  · rw [h, handlePushData, hp]
    refine emits_eff_none .idle (fun _ => rfl) fun answer => ?_
    cases answer with
    | error e => exact ⟨.idle, trivial⟩
    | ok _ => exact reports_handlePayload hp
  · rw [h]
    exact ⟨.idle, trivial⟩
  · rw [h]
    exact ⟨.idle, trivial⟩

/-- The packet is that of the `stat` of the PUSH_DATA with which thread `i` was called. -/
def StatusOf (J : Codecs) (c : RelayCfg) (i : ℕ) (stats : GatewayStatsPacket) : Prop :=
  ∃ addr data p stat, c.call i = some (.datagram addr data) ∧ PushDataPacket.unmarshalBinary J data = .ok p ∧
    p.payload.stat = some stat ∧ stats = statsPacket addr p.gatewayMAC stat

theorem withRegistered_eq {b : BridgeState} {answer : Gateway × Option GwError} (hget : registryGet mac b answer)
    (gwStats : GatewayStatsPacket) : withRegistered gwStats answer = gwStats := by
  obtain ⟨-, tr, hruns⟩ := hget
  have hanswer := (get_runs hruns).2
  cases hl : b.registry.lookup mac with
  | none =>
    rw [hl] at hanswer
    rw [hanswer]
    rfl
  | some gw =>
    rw [hl] at hanswer
    rw [hanswer]
    rfl

theorem statsPut_eq_bind (ev : Event RelayEff RelayEff.Resp) : statsPut ev = (statStep ev).bind StatStep.packet := by
  obtain ⟨e, r⟩ := ev
  cases e with
  | front e => cases e <;> rfl
  | _ => rfl

/-- **Every packet on `statsChan` is that of a datagram of its own.** -/
theorem statsPut_accounted (hr : Run (relay J cfg) ok {} h c) :
    Accounted (· ≠ ·) (StatusOf J c) ((emitted statsPut h).map Prod.snd) := by
  refine (accounted_numbered _).trace_back (S := fun o i => o = (i, 0)) ?_ ?_
  · rintro ⟨i, r⟩ stats hstats
    obtain ⟨en, hen, rfl, hput⟩ := mem_emitted_iff.mp (mem_ofKey_iff.mp (List.mem_of_getElem? hstats))
    obtain ⟨t, ht, hcall, hallowed⟩ := exists_thread hr hen
    obtain ⟨addr, data, hdatagram⟩ : ∃ addr data, t.call = .datagram addr data := by
      obtain ⟨tid, ⟨e, a⟩, pre, post⟩ := en
      cases e with
      | front e =>
        cases e with
        | statsSend stats => exact hallowed
        | _ => cases hput
      | _ => cases hput
    have hbody : ((relay J cfg).body t.call).Emits statStep (Reports J addr data) (fun _ _ => True) [] := by
      rw [hdatagram]
      exact emits_discard (emits_callFront (fun _ _ _ => rfl) (fun _ => rfl) (fun _ _ => rfl)
        (reports_handlePacket J addr data))
    have hreports := hr.emits ht hbody
    rw [funext statsPut_eq_bind, ofKey_emitted_bind] at hstats
    generalize hl : ofKey en.tid (emitted statStep h) = l at hreports hstats
    cases hreports with
    | idle => cases hstats
    | got answer => cases hstats
    | put answer p stat hp hstat =>
      cases r with
      | succ r => cases hstats
      | zero =>
        cases hstats
        have hgot : (en.tid, StatStep.got answer) ∈ emitted statStep h := by
          rw [← mem_ofKey_iff, hl]
          exact List.mem_cons_self
        obtain ⟨⟨tid, ⟨e, a⟩, pre, post⟩, hen', -, hevent⟩ := mem_emitted_iff.mp hgot
        cases e with
        | front e =>
          cases e with
          | get mac =>
            cases hevent
            have hsem := hr.linked.sem_of_mem hen'
            refine ⟨_, rfl, addr, data, p, stat, hcall.trans (congrArg some hdatagram), hp, hstat, ?_⟩
            exact withRegistered_eq hsem.1 _
          | _ => cases hevent
        | _ => cases hevent
  · rintro _ _ i i' hnum rfl rfl rfl
    exact Nat.lt_irrefl _ (hnum rfl)

/-! ### Statuses -/

/-- What is sent on the streams for statuses. -/
def statusSend : Event TtnEff TtnEff.Resp → Option (ℕ × Status)
  | ⟨.statusSend gtw status, _⟩ => some (gtw, status)
  | _ => none

/-- The status for a packet, with the record of the account server if there is one. -/
def StatusFor (cfg : Settings) (stats : GatewayStatsPacket) (status : Status) : Prop :=
  ∃ conf, status = sentStatus cfg.gatewayStatus stats conf

/-- The steps of a goroutine for a packet from `StatsChan()`. -/
abbrev StatsWorks (cfg : Settings) : List (WorkStep GatewayStatsPacket EUI64 ℕ Status) → Prop :=
  Works (fun stats => stats.mac) (StatusFor cfg)

theorem emits_publishGatewayStats (cfg : Settings) (stats : GatewayStatsPacket) :
    (publishGatewayStats cfg stats.mac stats).Emits (ttnView (workStep statsTake statusSend)) (StatsWorks cfg)
      (fun _ _ => True) [.took stats] := by
  refine (emits_session (fun _ => rfl) (fun _ => rfl) (.took _) (.found _)).bind fun gtw l' hl' heq => ?_
  subst heq
  refine emits_eff_none hl' (fun _ => rfl) fun conf => ?_
  have hsent : StatsWorks cfg
      [.took stats, .found stats.mac gtw, .sent gtw (sentStatus cfg.gatewayStatus stats conf)] :=
    .sent _ gtw _ ⟨conf, rfl⟩
  cases conf with
  | none => exact ⟨hl', fun _ => ⟨hsent, trivial⟩⟩
  | some conf => exact ⟨hl', fun _ => ⟨hsent, trivial⟩⟩

/-- The goroutines for the packets from `StatsChan()`. -/
def statsPublisher (J : Codecs) (cfg : Settings) : Publisher J cfg GatewayStatsPacket Status where
  call := .forwardStats
  take := statsTake
  send := statusSend
  mac stats := stats.mac
  message := StatusFor cfg
  take_bridge _ _ := rfl
  take_allowed l e r p hl hp := by
    cases e with
    | takeStats => exact hl
    | _ => cases hp
  send_allowed l e r m hl hm := by
    cases e with
    | statusSend gtw status => exact hl
    | _ => cases hm
  emits := ⟨.idle, fun stats => emits_discard (emits_callBackend (emits_publishGatewayStats cfg stats))⟩

/-! ### A run -/

/-- A datagram with a status. -/
abbrev statCall : RelayCall := .datagram sampleAddr statData

/-- A bridge that gets it. -/
abbrev statRelay : System RelayState RelayCall RelayEff RelayEff.Resp Unit := relay statCodecs unlimited

/-- What the registry answers for a gateway that it does not have. -/
def unknown : Gateway × Option GwError := (.zero, some .gatewayDoesNotExist)

/-- The handler of the datagram acknowledges it, reads the registry, and puts a packet on `statsChan`. -/
theorem statCall_body (cfg : Settings) : ∃ ack k k', statCall.body statCodecs cfg = .eff (.front (.udpSend ack)) k ∧
    k (.ok ()) = .eff (.front (.get sampleMAC)) k' ∧
      k' unknown = .eff (.front (.statsSend (statsPacket sampleAddr sampleMAC sampleStat))) fun _ => .ret () := by
  rw [RelayCall.body, handlePacket_eq (Packet.DecodedFrom.getPacketType (p := .pushData _) statPush_decodes)]
  simp only [Packet.type, if_true]
  rw [handlePushData, statPush_decodes]
  exact ⟨_, _, _, rfl, rfl, rfl⟩

theorem registryGet_unknown : registryGet sampleMAC {} unknown := by
  have hnone : (∅ : Gateways).lookup sampleMAC = none := Finmap.lookup_empty sampleMAC
  exact ⟨rfl, [⟨.lookup sampleMAC, none⟩], .eff ⟨hnone.symm, rfl⟩ .ret⟩

/-- A run in which the status reaches the stream of its gateway. -/
theorem exists_run_status : ∃ h c, Run statRelay (fun _ _ => True) {} h c ∧
    ((statsPublisher statCodecs unlimited).sent h).length = 1 := by
  obtain ⟨ack, k, k', hbody, hk, hk'⟩ := statCall_body unlimited
  have hmade : ttnSem unlimited (.newGtw sampleMAC) {} (0 : ℕ) (TtnState.newGtw unlimited sampleMAC {}).2 := rfl
  have hconf : ttnSem unlimited (.conf 0) madeState.bridge.ttn none madeState.bridge.ttn := ⟨rfl, rfl⟩
  have r₀ : Run statRelay (fun _ _ => True) {} [] ⟨{}, []⟩ := .init
  have r₁ := r₀.start_of_body (l := statCall) hbody rfl trivial
  have r₂ : Run statRelay _ _ _ ⟨{}, _⟩ := r₁.act (i := 0) (r := .ok ()) rfl ⟨rfl, rfl⟩ trivial
  rw [hk] at r₂
  have r₃ : Run statRelay _ _ _ ⟨{}, _⟩ :=
    r₂.act (i := 0) (e := RelayEff.front (.get sampleMAC)) (r := unknown) rfl ⟨registryGet_unknown, rfl⟩ trivial
  rw [hk'] at r₃
  have r₄ : Run statRelay _ _ _ ⟨{ stats := some (statsPacket sampleAddr sampleMAC sampleStat) }, _⟩ :=
    r₃.act (i := 0) (r := ()) rfl ⟨rfl, rfl⟩ trivial
  have r₅ := r₄.start RelayCall.forwardStats trivial trivial
  have r₆ : Run statRelay _ _ _ ⟨{}, _⟩ := r₅.act (i := 1) rfl ⟨rfl, rfl⟩ trivial
  have r₇ : Run statRelay _ _ _ ⟨{}, _⟩ :=
    r₆.act (i := 1) (e := RelayEff.bridge (.ttn (.getGtw sampleMAC))) (r := none) rfl
      ⟨_, ⟨_, ⟨rfl, rfl⟩, rfl⟩, rfl⟩ trivial
  have r₈ : Run statRelay _ _ _ ⟨madeState, _⟩ :=
    r₇.act (i := 1) (e := RelayEff.bridge (.ttn (.newGtw sampleMAC))) (r := (0 : ℕ)) rfl
      ⟨_, ⟨_, hmade, rfl⟩, rfl⟩ trivial
  have r₉ : Run statRelay _ _ _ ⟨madeState, _⟩ :=
    r₈.act (i := 1) (e := RelayEff.bridge (.ttn (.conf 0))) (r := none) rfl ⟨_, ⟨_, hconf, rfl⟩, rfl⟩ trivial
  have r₁₀ := r₉.act (i := 1) (r := ()) rfl ⟨_, ⟨_, rfl, rfl⟩, rfl⟩ trivial
  exact ⟨_, _, r₁₀, rfl⟩

/-! ### From end to end -/

/-- **No status is duplicated or made up.** In every run of the bridge, the statuses on the streams to the
router are those of different PUSH_DATA datagrams, and each is on the stream of the gateway that sent its
datagram. -/
theorem statuses_accounted (hr : Run (relay J cfg) ok {} h c) :
    Accounted (· ≠ ·) (fun i (sent : ℕ × Status) => ∃ stats, StatusOf J c i stats ∧
      StatusFor cfg stats sent.2 ∧ c.shared.bridge.ttn.gateways.lookup stats.mac = some sent.1)
      ((statsPublisher J cfg).sent h) := by
  exact (statsPublisher J cfg).accounted hr (fun _ _ => id) (statsPut_accounted hr) ⟨_, (stats_channel hr).symm⟩

/-- The status of the run is that of the datagram. -/
theorem statuses_accounted_one : ∃ h c, Run statRelay (fun _ _ => True) {} h c ∧
    ∃ i sent stats, sent ∈ (statsPublisher statCodecs unlimited).sent h ∧ StatusOf statCodecs c i stats ∧
      StatusFor unlimited stats sent.2 := by
  obtain ⟨h, c, hr, hsent⟩ := exists_run_status
  obtain ⟨is, -, his⟩ := statuses_accounted hr
  obtain ⟨sent, hmem⟩ := List.length_eq_one_iff.mp hsent
  rw [hmem] at his
  obtain ⟨i, -, ⟨stats, hsrc, hmsg, -⟩, -, -⟩ := List.forall₂_cons_right_iff.mp his
  exact ⟨h, c, hr, i, sent, stats, by simp [hmem], hsrc, hmsg⟩

end GatewayBridge.Cmd
