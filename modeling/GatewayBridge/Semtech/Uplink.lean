import GatewayBridge.Semtech.Dispatch

/-!
# What a datagram sets off

The effects of `handlePacket`, function by function: for each, what every run of
it performs, returns and changes, as long as `udpSendChan` is open. From these,
the contract of the front end towards a gateway (`handlePacket_contract`), and
what becomes of the uplinks in a PUSH_DATA (`push_data_forwards_iff`).

The uplinks of a PUSH_DATA are handled in order, and the first one that cannot be
converted or has a bad CRC ends the loop: what is forwarded is `forwarded`, the
uplinks before it, and not the uplinks of the list.
-/

namespace GatewayBridge.Semtech

open GatewayBridge.Go GatewayBridge.Lora GatewayBridge.Process Prog

/-! ### What leaves the backend -/

/-- Something put on a channel. -/
inductive Output where
  /-- On `udpSendChan`. -/
  | datagram (p : UdpPacket)
  /-- On `statsChan`. -/
  | stats (stats : GatewayStatsPacket)
  /-- On `rxChan`. -/
  | rx (rxPacket : RXPacketBytes)
  deriving DecidableEq

/-- What an effect puts on a channel. -/
def output : Event Eff Eff.Resp → Option Output
  | ⟨.udpSend p, .ok _⟩ => some (.datagram p)
  | ⟨.statsSend stats, _⟩ => some (.stats stats)
  | ⟨.rxSend rxPacket, _⟩ => some (.rx rxPacket)
  | _ => none

/-- What the effects of a run put on the channels, in order. -/
def outputs (tr : List (Event Eff Eff.Resp)) : List Output := tr.filterMap output

/-- What is put on `rxChan`. -/
def rxSent (tr : List (Event Eff Eff.Resp)) : List RXPacketBytes :=
  (outputs tr).filterMap fun
    | .rx rxPacket => some rxPacket
    | _ => none

theorem outputs_append (tr₁ tr₂ : List (Event Eff Eff.Resp)) :
    outputs (tr₁ ++ tr₂) = outputs tr₁ ++ outputs tr₂ := List.filterMap_append

/-! ### The uplinks of a PUSH_DATA -/

/-- The uplink an entry stands for: it converts, and its CRC status is `1`. -/
def uplink (mac : EUI64) (rxpk : RXPK) : Option RXPacketBytes :=
  match newRXPacketFromRXPK mac rxpk with
  | .ok rxPacket => if rxpk.stat = 1 then some rxPacket else none
  | .error _ => none

/-- The uplinks up to the first entry that is none. -/
def forwarded (mac : EUI64) : List RXPK → List RXPacketBytes
  | [] => []
  | rxpk :: rest =>
      match uplink mac rxpk with
      | some rxPacket => rxPacket :: forwarded mac rest
      | none => []

theorem toInt_eq_one_iff {i : Int8} : i.toInt = 1 ↔ i = 1 := by
  rw [← Int8.toInt_inj]
  rfl

theorem uplink_eq_some_iff {mac : EUI64} {rxpk : RXPK} {rxPacket : RXPacketBytes} :
    uplink mac rxpk = some rxPacket ↔
      newRXPacketFromRXPK mac rxpk = .ok rxPacket ∧ rxpk.stat = 1 := by
  unfold uplink
  cases newRXPacketFromRXPK mac rxpk with
  | error e => simp
  | ok rx =>
    by_cases hstat : rxpk.stat = 1 <;> simp [hstat]

/-- The uplinks are all forwarded exactly when none of them stands after an entry that is none. -/
theorem forwarded_eq_filterMap_iff (mac : EUI64) (rxpks : List RXPK) :
    forwarded mac rxpks = rxpks.filterMap (uplink mac) ↔
      rxpks.Pairwise fun e e' => (uplink mac e').isSome → (uplink mac e).isSome := by
  induction rxpks with
  | nil => simp [forwarded]
  | cons rxpk rest ih =>
    rw [List.pairwise_cons, forwarded, List.filterMap_cons]
    cases hu : uplink mac rxpk with
    | some rxPacket => simp [ih]
    | none =>
      simp only [Option.isSome_none, Bool.false_eq_true, imp_false, Option.not_isSome_iff_eq_none]
      constructor
      · intro h
        have hnone := List.filterMap_eq_nil_iff.mp h.symm
        exact ⟨hnone, List.pairwise_of_forall_mem_list fun e _ e' he' hs => by simp [hnone e' he'] at hs⟩
      · rintro ⟨hnone, -⟩
        exact (List.filterMap_eq_nil_iff.mpr hnone).symm

/-- What is forwarded comes from entries of the list, in order, and carries the MAC of the datagram
and a good CRC. -/
theorem forwarded_entries (mac : EUI64) (rxpks : List RXPK) :
    (∃ es, es.Sublist rxpks ∧
      List.Forall₂ (fun e rx => newRXPacketFromRXPK mac e = .ok rx) es (forwarded mac rxpks)) ∧
    ∀ rx ∈ forwarded mac rxpks, rx.rxInfo.mac = mac ∧ rx.rxInfo.crcStatus = 1 := by
  induction rxpks with
  | nil => exact ⟨⟨[], .refl _, .nil⟩, List.forall_mem_nil _⟩
  | cons rxpk rest ih =>
    obtain ⟨⟨es, hsub, hes⟩, hrest⟩ := ih
    rw [forwarded]
    cases hu : uplink mac rxpk with
    | none => exact ⟨⟨[], List.nil_sublist _, .nil⟩, List.forall_mem_nil _⟩
    | some rx =>
      obtain ⟨he, hstat⟩ := uplink_eq_some_iff.mp hu
      obtain ⟨hmac, hcrc, -⟩ := newRXPacketFromRXPK_eq_ok he
      rw [hstat] at hcrc
      exact ⟨⟨rxpk :: es, hsub.cons_cons rxpk, .cons he hes⟩, List.forall_mem_cons.mpr ⟨⟨hmac, hcrc⟩, hrest⟩⟩

variable {J : Codecs} {cb : Callbacks} {addr : UDPAddr} {data : Bytes} {mac : EUI64}
  {s s' : BackendState} {tr : List (Event Eff Eff.Resp)} {r : Except (Fault GwError) Unit}

/-- `handleRXPacket` forwards the uplink of its entry, or returns an error. -/
theorem handleRXPacket_runs {rxpk : RXPK} (h : Runs (sem cb) (handleRXPacket mac rxpk).run s tr r s') :
    s' = s ∧
      match uplink mac rxpk with
      | some rxPacket => r = .ok () ∧ tr = [⟨.rxSend rxPacket, ()⟩]
      | none => (∃ e, r = fail e) ∧ tr = [] := by
  rw [handleRXPacket] at h
  cases hrx : newRXPacketFromRXPK mac rxpk with
  | error e =>
    rw [hrx] at h
    obtain ⟨rfl, rfl, rfl⟩ := runs_ret_iff.mp h
    have hu : uplink mac rxpk = none := by rw [uplink, hrx]
    rw [hu]
    exact ⟨rfl, ⟨e, rfl⟩, rfl⟩
  | ok rxPacket =>
    rw [hrx, orFail_ok, run_lift_ok_bind] at h
    simp only [(newRXPacketFromRXPK_eq_ok hrx).2.1, ne_eq, toInt_eq_one_iff] at h
    by_cases hstat : rxpk.stat = 1
    · rw [if_neg (not_not.mpr hstat)] at h
      obtain ⟨⟨⟩, hs, rfl, rfl⟩ := runs_perform_iff.mp h
      rw [uplink_eq_some_iff.mpr ⟨hrx, hstat⟩]
      exact ⟨hs, rfl, rfl⟩
    · rw [if_pos hstat] at h
      obtain ⟨rfl, rfl, rfl⟩ := runs_lift_iff.mp h
      have hu : uplink mac rxpk = none := by
        rw [uplink, hrx]
        exact if_neg hstat
      rw [hu]
      exact ⟨rfl, ⟨_, rfl⟩, rfl⟩

/-- The loop over the entries stops at the first that is no uplink. -/
theorem handleRXPackets_runs {rxpks : List RXPK}
    (h : Runs (sem cb) (handleRXPackets mac rxpks).run s tr r s') :
    s' = s ∧ tr = (forwarded mac rxpks).map (fun rxPacket => ⟨.rxSend rxPacket, ()⟩) ∧
      ∀ p, r ≠ .error (.panic p) := by
  induction rxpks generalizing s tr with
  | nil =>
    obtain ⟨rfl, rfl, rfl⟩ := runs_lift_iff.mp h
    exact ⟨rfl, rfl, nofun⟩
  | cons rxpk rest ih =>
    rw [handleRXPackets, runs_go_bind_iff] at h
    rcases h with ⟨a, s₁, tr₁, tr₂, h₁, h₂, rfl⟩ | ⟨e, h₁, rfl⟩
    · obtain ⟨rfl, hu₁⟩ := handleRXPacket_runs h₁
      obtain ⟨rfl, rfl, hr⟩ := ih h₂
      cases hu : uplink mac rxpk with
      | none =>
        rw [hu] at hu₁
        obtain ⟨⟨e, he⟩, -⟩ := hu₁
        cases he
      | some rxPacket =>
        rw [hu] at hu₁
        obtain ⟨-, rfl⟩ := hu₁
        refine ⟨rfl, ?_, hr⟩
        rw [forwarded, hu]
        rfl
    · obtain ⟨rfl, hu₁⟩ := handleRXPacket_runs h₁
      cases hu : uplink mac rxpk with
      | none =>
        rw [hu] at hu₁
        obtain ⟨⟨e', he⟩, rfl⟩ := hu₁
        rw [forwarded, hu]
        cases he
        exact ⟨rfl, rfl, nofun⟩
      | some rxPacket =>
        rw [hu] at hu₁
        cases hu₁.1

/-! ### The handlers -/

/-- `handleStat` puts one stats packet of its MAC on `statsChan`. -/
theorem handleStat_runs {stat : Stat} (h : Runs (sem cb) (handleStat addr mac stat).run s tr r s') :
    s' = s ∧ r = .ok () ∧
      ∃ g gwStats, gwStats.mac = mac ∧ tr = [⟨.get mac, g⟩, ⟨.statsSend gwStats, ()⟩] := by
  obtain ⟨⟨gtw, err⟩, s₁, _, hget, rfl, hk⟩ := runs_eff_iff.mp h
  obtain ⟨rfl, -⟩ := sem_get hget
  obtain ⟨⟨⟩, hs, rfl, rfl⟩ := runs_perform_iff.mp hk
  refine ⟨hs, rfl, _, _, ?_, rfl⟩
  cases err with
  | none => rfl
  | some e => cases gtw.addr <;> simp [newGatewayStatsPacket]

/-- A stats packet of the MAC, if there is a `stat`. -/
def StatForwarded (mac : EUI64) (stat : Option Stat) (tr : List (Event Eff Eff.Resp)) : Prop :=
  match stat with
  | none => tr = []
  | some _ => ∃ g gwStats, gwStats.mac = mac ∧ tr = [⟨.get mac, g⟩, ⟨.statsSend gwStats, ()⟩]

/-- `handlePayload` forwards the status, then the uplinks. -/
theorem handlePayload_runs {payload : PushDataPayload}
    (h : Runs (sem cb) (handlePayload addr mac payload).run s tr r s') :
    s' = s ∧ (∀ p, r ≠ .error (.panic p)) ∧ ∃ mid, StatForwarded mac payload.stat mid ∧
      tr = mid ++ (forwarded mac payload.rxpk).map (fun rxPacket => ⟨.rxSend rxPacket, ()⟩) := by
  rw [handlePayload] at h
  cases hstat : payload.stat with
  | none =>
    rw [hstat] at h
    obtain ⟨rfl, rfl, hr⟩ := handleRXPackets_runs h
    exact ⟨rfl, hr, [], rfl, rfl⟩
  | some stat =>
    rw [hstat] at h
    rcases runs_go_bind_iff.mp h with ⟨_, s₁, mid, tr₂, h₁, h₂, rfl⟩ | ⟨e, h₁, rfl⟩
    · obtain ⟨rfl, -, hmid⟩ := handleStat_runs h₁
      obtain ⟨rfl, rfl, hr⟩ := handleRXPackets_runs h₂
      exact ⟨rfl, hr, mid, hmid, rfl⟩
    · cases (handleStat_runs h₁).2.1

/-- **`handlePushData`** acknowledges, and then forwards what the payload holds. -/
theorem handlePushData_runs {p : PushDataPacket} (hp : PushDataPacket.unmarshalBinary J data = .ok p)
    (h : Runs (sem cb) (handlePushData J addr data).run s tr r s') :
    s' = s ∧ ∃ tr', tr = ⟨.udpSend ⟨some addr, header p.protocolVersion p.randomToken .pushACK⟩,
        sendAnswer s⟩ :: tr' ∧
      match sendAnswer s with
      | .error panic => r = .error (.panic panic) ∧ tr' = []
      | .ok _ => (∀ panic, r ≠ .error (.panic panic)) ∧
          ∃ mid, StatForwarded p.gatewayMAC p.payload.stat mid ∧ tr' = mid ++
            (forwarded p.gatewayMAC p.payload.rxpk).map (fun rxPacket => ⟨.rxSend rxPacket, ()⟩) := by
  rw [handlePushData, hp] at h
  obtain ⟨answer, s, tr', ⟨rfl, rfl⟩, rfl, hk⟩ := runs_eff_iff.mp h
  cases ha : sendAnswer s with
  | error panic =>
    rw [ha] at hk
    obtain ⟨rfl, rfl, rfl⟩ := runs_ret_iff.mp hk
    exact ⟨rfl, [], rfl, rfl, rfl⟩
  | ok _ =>
    rw [ha] at hk
    obtain ⟨rfl, hr, mid, hmid, rfl⟩ := handlePayload_runs hk
    exact ⟨rfl, _, rfl, hr, mid, hmid, rfl⟩

/-- **`handlePullData`** registers the gateway and then acknowledges; or `onNew` returns an error
for a new MAC, and nothing is sent. -/
theorem handlePullData_runs {p : PullDataPacket} (hp : PullDataPacket.unmarshalBinary data = .ok p)
    (h : Runs (sem cb) (handlePullData addr data).run s tr r s') :
    ∃ now : Time,
      let gw : Gateway := ⟨some addr, now, p.protocolVersion⟩
      (s' = { s with gateways := s.gateways.insert p.gatewayMAC gw } ∧ r = orPanic (sendAnswer s) ∧
        tr = [⟨.now, now⟩, ⟨.set p.gatewayMAC gw, .ok ()⟩,
          ⟨.udpSend ⟨some addr, header p.protocolVersion p.randomToken .pullACK⟩, sendAnswer s⟩]) ∨
      ∃ e, s' = s ∧ r = fail e ∧ tr = [⟨.now, now⟩, ⟨.set p.gatewayMAC gw, .error e⟩] ∧
        p.gatewayMAC ∉ s.gateways ∧ cb.onNew := by
  rw [handlePullData, hp] at h
  obtain ⟨now, s, _, rfl, rfl, h₁⟩ := runs_eff_iff.mp h
  obtain ⟨answer, s₁, _, hset, rfl, h₂⟩ := runs_eff_iff.mp h₁
  refine ⟨now, ?_⟩
  rcases sem_set hset with ⟨rfl, rfl⟩ | ⟨e, rfl, rfl, hmac, hcb⟩
  · obtain ⟨rfl, rfl, rfl⟩ := sendUdp_runs h₂
    exact .inl ⟨rfl, rfl, rfl⟩
  · obtain ⟨rfl, rfl, rfl⟩ := runs_ret_iff.mp h₂
    exact .inr ⟨e, rfl, rfl, rfl, hmac, hcb⟩

/-! ### The uplinks that are forwarded -/

@[simp] theorem outputs_rxSend (rxPackets : List RXPacketBytes) :
    outputs (rxPackets.map fun rxPacket => ⟨.rxSend rxPacket, ()⟩) = rxPackets.map .rx := by
  rw [outputs, List.filterMap_map]
  exact congrFun List.filterMap_eq_map rxPackets

theorem StatForwarded.outputs {stat : Option Stat} (h : StatForwarded mac stat tr) :
    ∃ stats, outputs tr = stats.map .stats ∧
      match stat with
      | none => stats = []
      | some _ => ∃ gwStats, gwStats.mac = mac ∧ stats = [gwStats] := by
  cases stat with
  | none =>
    cases h
    exact ⟨[], rfl, rfl⟩
  | some stat =>
    obtain ⟨g, gwStats, hmac, rfl⟩ := h
    exact ⟨[gwStats], rfl, gwStats, hmac, rfl⟩

/-- What `handlePushData` puts on the channels: the acknowledgement, the status, the uplinks. -/
theorem handlePushData_outputs {p : PushDataPacket}
    (hp : PushDataPacket.unmarshalBinary J data = .ok p) (hopen : s.udpSendClosed = false)
    (h : Runs (sem cb) (handlePushData J addr data).run s tr r s') :
    s' = s ∧ (∀ panic, r ≠ .error (.panic panic)) ∧ ∃ stats,
      outputs tr = .datagram ⟨some addr, header p.protocolVersion p.randomToken .pushACK⟩ ::
        (stats.map .stats ++ (forwarded p.gatewayMAC p.payload.rxpk).map .rx) ∧
      match p.payload.stat with
      | none => stats = []
      | some _ => ∃ gwStats, gwStats.mac = p.gatewayMAC ∧ stats = [gwStats] := by
  obtain ⟨hs, tr', rfl, htr⟩ := handlePushData_runs hp h
  rw [sendAnswer_open hopen] at htr
  obtain ⟨hr, mid, hmid, rfl⟩ := htr
  obtain ⟨stats, hout, hstats⟩ := hmid.outputs
  refine ⟨hs, hr, stats, ?_, hstats⟩
  rw [sendAnswer_open hopen, ← List.singleton_append, outputs_append, outputs_append, hout, outputs_rxSend]
  rfl

theorem exists_handlePushData_runs (cb : Callbacks) (addr : UDPAddr) (s : BackendState)
    {p : PushDataPacket} (hp : PushDataPacket.unmarshalBinary J data = .ok p) :
    ∃ tr r s', Runs (sem cb) (handlePushData J addr data).run s tr r s' :=
  exists_runs (sem_total_of_allowed (.datagram addr data) nofun) (handlePushData_uses hp) s

/-- What `handlePushData` puts on `rxChan`. -/
theorem handlePushData_rxSent {p : PushDataPacket}
    (hp : PushDataPacket.unmarshalBinary J data = .ok p) (hopen : s.udpSendClosed = false)
    (h : Runs (sem cb) (handlePushData J addr data).run s tr r s') :
    rxSent tr = forwarded p.gatewayMAC p.payload.rxpk := by
  obtain ⟨-, -, stats, hout, -⟩ := handlePushData_outputs hp hopen h
  rw [rxSent, hout, List.filterMap_cons, List.filterMap_append, List.filterMap_map, List.filterMap_map]
  have hstats : stats.filterMap (fun _ => (none : Option RXPacketBytes)) = [] := by simp
  exact (congrArg (· ++ _) hstats).trans List.filterMap_some

/-- **The uplinks of a PUSH_DATA all reach `rxChan` exactly when none of them stands after an entry
with a bad CRC, an unparsable `datr` or bad base64.** -/
theorem push_data_forwards_iff {p : PushDataPacket}
    (hp : PushDataPacket.unmarshalBinary J data = .ok p) (hopen : s.udpSendClosed = false)
    (h : Runs (sem cb) (handlePushData J addr data).run s tr r s') :
    rxSent tr = p.payload.rxpk.filterMap (uplink p.gatewayMAC) ↔
      p.payload.rxpk.Pairwise fun e e' =>
        (uplink p.gatewayMAC e').isSome → (uplink p.gatewayMAC e).isSome := by
  rw [handlePushData_rxSent hp hopen h]
  exact forwarded_eq_filterMap_iff p.gatewayMAC p.payload.rxpk

/-- An uplink as a gateway reports it, with a CRC status. -/
def sampleEntry (stat : Int8) : RXPK where
  time := 1364746877528002000
  tmst := 3512348611
  freq := 8681 / 10
  chan := 2
  rfch := 0
  stat := stat
  modu := str "LORA"
  datr := { loRa := str "SF7BW125" }
  codr := str "4/6"
  rssi := -35
  lsnr := 51 / 10
  size := 2
  data := str "AQI="

/-- The entry, written out. -/
def sampleText (stat : String) : Bytes :=
  str "\x7b\"time\":\"2013-03-31T16:21:17.528002Z\",\"tmst\":3512348611,\"chan\":2,\"rfch\":0," ++
    str "\"freq\":868.1,\"stat\":" ++ str stat ++ str ",\"modu\":\"LORA\",\"datr\":\"SF7BW125\"," ++
    str "\"codr\":\"4/6\",\"rssi\":-35,\"lsnr\":5.1,\"size\":2,\"data\":\"AQI=\"\x7d"

/-- A PUSH_DATA with two uplinks. -/
def samplePush (stat₁ stat₂ : Int8) : PushDataPacket :=
  ⟨2, 12345, sampleMAC, ⟨[sampleEntry stat₁, sampleEntry stat₂], none⟩⟩

/-- The payload of `samplePush`, written out. -/
def samplePushText (stat₁ stat₂ : String) : Bytes :=
  str "\x7b\"rxpk\":[" ++ sampleText stat₁ ++ str "," ++ sampleText stat₂ ++ str "]\x7d"

/-- A codec that knows that text. -/
def sampleCodecs (stat₁ stat₂ : Int8) (text₁ text₂ : String) : Codecs :=
  ⟨.ofTable [((samplePush stat₁ stat₂).payload, samplePushText text₁ text₂)], .ofTable [], .ofTable []⟩

/-- The datagram. -/
def sampleData (text₁ text₂ : String) : Bytes :=
  header 2 12345 .pushData ++ sampleMAC.bytes ++ samplePushText text₁ text₂

theorem samplePush_decodes (stat₁ stat₂ : Int8) (text₁ text₂ : String) :
    PushDataPacket.unmarshalBinary (sampleCodecs stat₁ stat₂ text₁ text₂) (sampleData text₁ text₂) =
      .ok (samplePush stat₁ stat₂) := by
  rw [PushDataPacket.unmarshalBinary_eq_ok_iff]
  exact ⟨rfl, samplePushText text₁ text₂, by simp [samplePushText, str], rfl, Json.ofTable_unmarshal _ _ _⟩

/-- A good uplink before a bad one is forwarded. -/
theorem push_data_forwards_good_bad :
    ∃ tr r s', Runs (sem ⟨true, true⟩) (handlePushData (sampleCodecs 1 (-1) "1" "-1")
        ⟨[192, 168, 1, 2], 1700, []⟩ (sampleData "1" "-1")).run {} tr r s' ∧
      rxSent tr = (samplePush 1 (-1)).payload.rxpk.filterMap (uplink (samplePush 1 (-1)).gatewayMAC) := by
  have hp := samplePush_decodes 1 (-1) "1" "-1"
  obtain ⟨tr, r, s', h⟩ := exists_handlePushData_runs ⟨true, true⟩ ⟨[192, 168, 1, 2], 1700, []⟩ {} hp
  refine ⟨tr, r, s', h, (push_data_forwards_iff hp rfl h).mpr ?_⟩
  decide

/-- A good uplink after one with a bad CRC is lost. -/
theorem push_data_loses_uplink :
    PushDataPacket.unmarshalBinary (sampleCodecs (-1) 1 "-1" "1") (sampleData "-1" "1") =
        .ok (samplePush (-1) 1) ∧
      ∃ tr r s', Runs (sem ⟨true, true⟩) (handlePushData (sampleCodecs (-1) 1 "-1" "1")
          ⟨[192, 168, 1, 2], 1700, []⟩ (sampleData "-1" "1")).run {} tr r s' ∧
        rxSent tr ≠ (samplePush (-1) 1).payload.rxpk.filterMap (uplink (samplePush (-1) 1).gatewayMAC) := by
  have hp := samplePush_decodes (-1) 1 "-1" "1"
  obtain ⟨tr, r, s', h⟩ := exists_handlePushData_runs ⟨true, true⟩ ⟨[192, 168, 1, 2], 1700, []⟩ {} hp
  refine ⟨hp, tr, r, s', h, ?_⟩
  rw [handlePushData_rxSent hp rfl h, Ne, forwarded_eq_filterMap_iff]
  decide

/-! ### The contract towards a gateway -/

/-- What the front end owes the sender of a datagram, in a run of `handlePacket`. -/
structure Contract (J : Codecs) (cb : Callbacks) (addr : UDPAddr) (data : Bytes) (s : BackendState)
    (tr : List (Event Eff Eff.Resp)) (r : Except (Fault GwError) Unit) (s' : BackendState) : Prop where
  /-- No access is out of range. -/
  inRange : r ≠ .error (.panic .indexOutOfRange)
  /-- A PULL_DATA registers its sender and is then acknowledged to it; or `onNew` fails, nothing is
  sent, and nothing changes. -/
  pullData : ∀ version t₀ t₁ mac, IsPullData data version t₀ t₁ mac → s.udpSendClosed = false →
    ∃ now : Time,
      (r = .ok () ∧
        tr = [⟨.now, now⟩, ⟨.set mac ⟨some addr, now, version⟩, .ok ()⟩,
          ⟨.udpSend ⟨some addr, [version, t₀, t₁, 4]⟩, .ok ()⟩] ∧
        s' = { s with gateways := s.gateways.insert mac ⟨some addr, now, version⟩ }) ∨
      ∃ e, r = fail e ∧ tr = [⟨.now, now⟩, ⟨.set mac ⟨some addr, now, version⟩, .error e⟩] ∧
        s' = s ∧ mac ∉ s.gateways ∧ cb.onNew
  /-- A PUSH_DATA is acknowledged to its sender, then the status is forwarded if there is one, then
  uplinks of the list, in order. -/
  pushData : ∀ version t₀ t₁ mac payload, IsPushData J data version t₀ t₁ mac payload →
    s.udpSendClosed = false →
      s' = s ∧ ∃ stats rxs,
        outputs tr = .datagram ⟨some addr, [version, t₀, t₁, 1]⟩ :: (stats.map .stats ++ rxs.map .rx) ∧
        (match payload.stat with
          | none => stats = []
          | some _ => ∃ gwStats, gwStats.mac = mac ∧ stats = [gwStats]) ∧
        (∃ es, es.Sublist payload.rxpk ∧
          List.Forall₂ (fun e rx => newRXPacketFromRXPK mac e = .ok rx) es rxs) ∧
        ∀ rx ∈ rxs, rx.rxInfo.mac = mac ∧ rx.rxInfo.crcStatus = 1
  /-- Anything else sends nothing, forwards nothing and changes nothing; it is an error unless it is
  a TX_ACK. -/
  other : (∀ version t₀ t₁ mac, ¬ IsPullData data version t₀ t₁ mac) →
    (∀ version t₀ t₁ mac payload, ¬ IsPushData J data version t₀ t₁ mac payload) →
      outputs tr = [] ∧ s' = s ∧ (∀ p, r ≠ .error (.panic p)) ∧
        (r = .ok () ↔ ∃ p, TXACKPacket.unmarshalBinary J data = .ok p)

/-- A datagram of one type is not accepted by the decoder of another. -/
theorem not_pushData_of_pullData {p : PullDataPacket} {q : PushDataPacket}
    (hp : PullDataPacket.unmarshalBinary data = .ok p) : PushDataPacket.unmarshalBinary J data ≠ .ok q := by
  intro hq
  cases Packet.DecodedFrom.type_eq (J := J) (p := .pullData p) (q := .pushData q) hp hq

theorem contract_of_pullData {p : PullDataPacket} (hp : PullDataPacket.unmarshalBinary data = .ok p)
    (h : Runs (sem cb) (handlePullData addr data).run s tr r s') :
    Contract J cb addr data s tr r s' := by
  obtain ⟨now, hrun⟩ := handlePullData_runs hp h
  constructor
  case inRange =>
    rcases hrun with ⟨-, rfl, -⟩ | ⟨e, -, rfl, -⟩
    · rw [sendAnswer]
      split_ifs
      · intro he
        cases he
      · intro he
        cases he
    · intro he
      cases he
  case pullData =>
    intro version t₀ t₁ mac hdata hopen
    cases hp.symm.trans (isPullData_iff.mp hdata)
    rw [sendAnswer_open hopen, PacketType.pullACK, header_uint16] at hrun
    refine ⟨now, ?_⟩
    rcases hrun with ⟨rfl, rfl, rfl⟩ | ⟨e, rfl, rfl, rfl, hmac, hcb⟩
    · exact .inl ⟨rfl, rfl, rfl⟩
    · exact .inr ⟨e, rfl, rfl, rfl, hmac, hcb⟩
  case pushData =>
    intro version t₀ t₁ mac payload hdata
    exact absurd (isPushData_iff.mp hdata) (not_pushData_of_pullData hp)
  case other =>
    intro hpull
    obtain ⟨t₀, t₁, hdata⟩ := exists_isPullData hp
    exact absurd hdata (hpull _ t₀ t₁ _)

theorem contract_of_pushData {p : PushDataPacket} (hp : PushDataPacket.unmarshalBinary J data = .ok p)
    (h : Runs (sem cb) (handlePushData J addr data).run s tr r s') :
    Contract J cb addr data s tr r s' := by
  constructor
  case inRange =>
    obtain ⟨-, tr', -, htr⟩ := handlePushData_runs hp h
    rw [sendAnswer] at htr
    split_ifs at htr
    · rw [htr.1]
      intro he
      cases he
    · exact htr.1 _
  case pullData =>
    intro version t₀ t₁ mac hdata
    exact absurd hp (not_pushData_of_pullData (isPullData_iff.mp hdata))
  case pushData =>
    intro version t₀ t₁ mac payload hdata hopen
    cases hp.symm.trans (isPushData_iff.mp hdata)
    obtain ⟨hs, -, stats, hout, hstats⟩ := handlePushData_outputs hp hopen h
    rw [PacketType.pushACK, header_uint16] at hout
    obtain ⟨hes, hrxs⟩ := forwarded_entries mac payload.rxpk
    exact ⟨hs, stats, _, hout, hstats, hes, hrxs⟩
  case other =>
    intro _ hpush
    obtain ⟨t₀, t₁, hdata⟩ := exists_isPushData hp
    exact absurd hdata (hpush _ t₀ t₁ _ _)

/-- A run that does nothing, on a datagram that is neither PULL_DATA nor PUSH_DATA. -/
theorem contract_of_other (hpull : ∀ p, PullDataPacket.unmarshalBinary data ≠ .ok p)
    (hpush : ∀ p, PushDataPacket.unmarshalBinary J data ≠ .ok p) (hr : NoPanic r)
    (htx : r = .ok () ↔ ∃ p, TXACKPacket.unmarshalBinary J data = .ok p) :
    Contract J cb addr data s [] r s where
  inRange := hr _
  pullData _ _ _ _ hdata := absurd (isPullData_iff.mp hdata) (hpull _)
  pushData _ _ _ _ _ hdata := absurd (isPushData_iff.mp hdata) (hpush _)
  other _ _ := ⟨rfl, rfl, hr, htx⟩

/-- **The contract of the front end holds of every datagram**, from any address and in any state, and
whatever `onNew` answers. -/
theorem handlePacket_contract (J : Codecs) (cb : Callbacks) (addr : UDPAddr) (data : Bytes)
    (s : BackendState) :
    (∃ tr r s', Runs (sem cb) (handlePacket J addr data).run s tr r s') ∧
      ∀ tr r s', Runs (sem cb) (handlePacket J addr data).run s tr r s' →
        Contract J cb addr data s tr r s' := by
  constructor
  · exact exists_runs (sem_total_of_allowed (.datagram addr data) nofun) (handlePacket_uses J addr data) s
  intro tr r s' h
  rcases handlePacket_cases J addr data with ⟨p, hp, heq⟩ | ⟨p, hp, heq⟩ | ⟨p, hp, heq⟩ |
    ⟨hpull, hpush, htx, e, heq⟩
  · rw [heq] at h
    exact contract_of_pullData hp h
  · rw [heq] at h
    exact contract_of_pushData hp h
  · rw [heq] at h
    obtain ⟨rfl, rfl, rfl⟩ := runs_ret_iff.mp h
    refine contract_of_other ?_ ?_ (noPanic_ok ()) ⟨fun _ => ⟨p, hp⟩, fun _ => rfl⟩
    · intro q hq
      cases Packet.DecodedFrom.type_eq (J := J) (p := .pullData q) (q := .txACK p) hq hp
    · intro q hq
      cases Packet.DecodedFrom.type_eq (J := J) (p := .pushData q) (q := .txACK p) hq hp
  · rw [heq] at h
    obtain ⟨rfl, rfl, rfl⟩ := runs_ret_iff.mp h
    refine contract_of_other hpull hpush (noPanic_fail e) ⟨nofun, ?_⟩
    rintro ⟨p, hp⟩
    exact absurd hp (htx p)

/-- A PULL_DATA of version 2 registers the gateway, and is acknowledged with its own token. -/
theorem handlePacket_contract_pullData :
    let addr : UDPAddr := ⟨[192, 168, 1, 2], 1700, []⟩
    ∃ tr s', Runs (sem ⟨false, false⟩) (handlePacket noCodecs addr [2, 57, 48, 2, 1, 2, 3, 4, 5, 6, 7, 8]).run
        {} tr (.ok ()) s' ∧
      outputs tr = [.datagram ⟨some addr, [2, 57, 48, 4]⟩] ∧
      ∃ now, s'.gateways.lookup sampleMAC = some ⟨some addr, now, 2⟩ := by
  intro addr
  obtain ⟨⟨tr, r, s', h⟩, hall⟩ := handlePacket_contract noCodecs ⟨false, false⟩ addr
    [2, 57, 48, 2, 1, 2, 3, 4, 5, 6, 7, 8] {}
  obtain ⟨now, hrun⟩ := (hall tr r s' h).pullData 2 57 48 sampleMAC ⟨.inr rfl, rfl⟩ rfl
  rcases hrun with ⟨rfl, rfl, rfl⟩ | ⟨e, -, -, -, -, hcb⟩
  · exact ⟨_, _, h, rfl, now, Finmap.lookup_insert _⟩
  · cases hcb

end GatewayBridge.Semtech
