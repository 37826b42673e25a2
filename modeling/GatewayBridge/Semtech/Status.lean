import GatewayBridge.Semtech.Uplink

/-!
# The addresses in a status

The status of a gateway lists the addresses it is known under. `handleStat` puts the
address that the PUSH_DATA came from on the list, and then looks up the address that
the gateway pulls from. That one is added only if the lookup returned an error, and
then there is none: whatever the registry holds, the list has one address
(`handleStat_sent`). So it is the list of all known addresses (`knownIPs`) exactly when
the gateway does not pull from another one (`stats_addresses_iff`).
-/

namespace GatewayBridge.Semtech

open GatewayBridge.Go GatewayBridge.Lora GatewayBridge.Process Prog

/-! ### The list of addresses -/

/-- The address that `mac` pulls from. -/
def pullAddr (g : Gateways) (mac : EUI64) : Option UDPAddr := (g.lookup mac).bind Gateway.addr

/-- The addresses of a gateway that pushes from `push` and pulls from `pull`: each once. -/
def knownIPs (push : IP) (pull : Option UDPAddr) : List Bytes :=
  match pull with
  | some a => if IP.string a.ip = IP.string push then [IP.string push] else [IP.string push, IP.string a.ip]
  | none => [IP.string push]

/-- The `ip` entry of a status is this list, and it has no duplicates. -/
def ListsIPs (stats : GatewayStatsPacket) (ips : List Bytes) : Prop :=
  stats.customData.lookup (str "ip") = some (.strings ips) ∧ ips.Nodup

theorem lookup_addIP_new (mac : EUI64) (stat : Stat) (ip : IP) :
    (addIPToGatewayStatsPacket (newGatewayStatsPacket mac stat) ip).customData.lookup (str "ip") =
      some (.strings [IP.string ip]) := by
  have hempty : (newGatewayStatsPacket mac stat).customData.lookup (str "ip") = some (.strings []) := by
    rw [newGatewayStatsPacket, Finmap.lookup_insert]
  rw [addIPToGatewayStatsPacket, hempty]
  simp only [List.not_mem_nil, if_false, List.nil_append, Finmap.lookup_insert]

/-- The list with only the address of the push is the list of all exactly when no other is known. -/
theorem singleton_eq_knownIPs_iff (push : IP) (pull : Option UDPAddr) :
    [IP.string push] = knownIPs push pull ↔ ∀ a ∈ pull, IP.string a.ip = IP.string push := by
  cases pull with
  | none => simp [knownIPs]
  | some a =>
    rw [knownIPs]
    by_cases ha : IP.string a.ip = IP.string push
    · simp [ha]
    · simp [ha]

/-! ### What is sent -/

variable {J : Codecs} {cb : Callbacks} {addr : UDPAddr} {data : Bytes} {mac : EUI64} {stat : Stat}
  {s s' : BackendState} {tr : List (Event Eff Eff.Resp)} {r : Except (Fault GwError) Unit}

/-- What is put on `statsChan`. -/
def statsSent (tr : List (Event Eff Eff.Resp)) : List GatewayStatsPacket :=
  (outputs tr).filterMap fun
    | .stats stats => some stats
    | _ => none

theorem statsSent_append (tr₁ tr₂ : List (Event Eff Eff.Resp)) :
    statsSent (tr₁ ++ tr₂) = statsSent tr₁ ++ statsSent tr₂ := by
  rw [statsSent, outputs_append, List.filterMap_append]
  rfl

/-- **`handleStat` sends the address of the push, and no other**: where the lookup returns an error the
entry is the zero value, which has no address. -/
theorem handleStat_sent (h : Runs (sem cb) (handleStat addr mac stat).run s tr r s') :
    statsSent tr = [addIPToGatewayStatsPacket (newGatewayStatsPacket mac stat) addr.ip] := by
  obtain ⟨⟨gtw, err⟩, s₁, _, hget, rfl, hk⟩ := runs_eff_iff.mp h
  obtain ⟨rfl, hfound⟩ := sem_get hget
  obtain ⟨⟨⟩, -, -, rfl⟩ := runs_perform_iff.mp hk
  cases hl : s₁.gateways.lookup mac with
  | none =>
    rw [hl] at hfound
    cases hfound
    rfl
  | some gw =>
    rw [hl] at hfound
    cases hfound
    rfl

/-- A PUSH_DATA with a status has it handled, and sends nothing else on `statsChan`; unless the
acknowledgement panics. -/
theorem handlePushData_stat {p : PushDataPacket} (hp : PushDataPacket.unmarshalBinary J data = .ok p)
    (hstat : p.payload.stat = some stat)
    (h : Runs (sem cb) (handlePushData J addr data).run s tr r s') :
    statsSent tr = if s.udpSendClosed then [] else
      [addIPToGatewayStatsPacket (newGatewayStatsPacket p.gatewayMAC stat) addr.ip] := by
  rw [handlePushData, hp] at h
  obtain ⟨answer, s, tr', ⟨rfl, rfl⟩, rfl, hk⟩ := runs_eff_iff.mp h
  cases hclosed : s.udpSendClosed with
  | true =>
    rw [sendAnswer, hclosed] at hk ⊢
    obtain ⟨rfl, -, -⟩ := runs_ret_iff.mp hk
    rfl
  | false =>
    rw [sendAnswer_open hclosed] at hk ⊢
    have hk : Runs (sem cb) (handlePayload addr p.gatewayMAC p.payload).run s tr' r s' := hk
    rw [handlePayload, hstat] at hk
    rcases runs_go_bind_iff.mp hk with ⟨_, s₁, mid, tr₂, h₁, h₂, rfl⟩ | ⟨e, h₁, rfl⟩
    · obtain ⟨-, rfl, -⟩ := handleRXPackets_runs h₂
      have huplinks : statsSent ((forwarded p.gatewayMAC p.payload.rxpk).map
          fun rxPacket => (⟨.rxSend rxPacket, ()⟩ : Event Eff Eff.Resp)) = [] := by
        rw [statsSent, outputs_rxSend, List.filterMap_map]
        exact List.filterMap_eq_nil_iff.mpr fun _ _ => rfl
      rw [← List.singleton_append, statsSent_append, statsSent_append, handleStat_sent h₁, huplinks]
      rfl
    · cases (handleStat_runs h₁).2.1

/-- The list of a status is the list of all known addresses exactly when there is no other. -/
theorem listsIPs_iff (mac : EUI64) (stat : Stat) (push : IP) (pull : Option UDPAddr) :
    ListsIPs (addIPToGatewayStatsPacket (newGatewayStatsPacket mac stat) push) (knownIPs push pull) ↔
      ∀ a ∈ pull, IP.string a.ip = IP.string push := by
  rw [ListsIPs, lookup_addIP_new, ← singleton_eq_knownIPs_iff, Option.some.injEq, CustomValue.strings.injEq]
  constructor
  · exact And.left
  · intro heq
    refine ⟨heq, ?_⟩
    rw [← heq]
    exact List.nodup_singleton _

/-- **The status of a PUSH_DATA carries every known address once exactly when the gateway is not
registered under another address than the one it pushes from.** -/
theorem stats_addresses_iff {p : PushDataPacket} (hp : PushDataPacket.unmarshalBinary J data = .ok p)
    (hstat : p.payload.stat = some stat)
    (h : Runs (sem cb) (handlePushData J addr data).run s tr r s') :
    (s.udpSendClosed = false → (statsSent tr).length = 1) ∧
      ∀ stats ∈ statsSent tr,
        (ListsIPs stats (knownIPs addr.ip (pullAddr s.gateways p.gatewayMAC)) ↔
          ∀ a ∈ pullAddr s.gateways p.gatewayMAC, IP.string a.ip = IP.string addr.ip) := by
  have hsent := handlePushData_stat hp hstat h
  constructor
  · intro hopen
    rw [hsent, hopen]
    rfl
  · intro stats hmem
    rw [hsent] at hmem
    split_ifs at hmem
    · cases hmem
    · rw [List.mem_singleton.mp hmem]
      exact listsIPs_iff _ _ _ _

/-! ### A gateway that pushes from one address and pulls from another -/

/-- A status. -/
def sampleStat : Stat where
  time := 1389517168000000000
  lati := 46
  long := 3
  alti := 145
  rxnb := 2
  rxok := 2
  rxfw := 2
  ackr := 100
  dwnb := 2
  pfrm := str "IMST"
  mail := []
  desc := []

/-- A PUSH_DATA with a status. -/
def statPush : PushDataPacket := ⟨2, 12345, sampleMAC, ⟨[], some sampleStat⟩⟩

/-- The payload of `statPush`, written out. -/
def statText : Bytes :=
  str "\x7b\"stat\":\x7b\"time\":\"2014-01-12 08:59:28 GMT\",\"lati\":46,\"long\":3,\"alti\":145," ++
    str "\"rxnb\":2,\"rxok\":2,\"rxfw\":2,\"ackr\":100,\"dwnb\":2,\"pfrm\":\"IMST\"\x7d\x7d"

/-- A codec that knows that text. -/
def statCodecs : Codecs := ⟨.ofTable [(statPush.payload, statText)], .ofTable [], .ofTable []⟩

/-- The datagram. -/
def statData : Bytes :=
  header statPush.protocolVersion statPush.randomToken .pushData ++ statPush.gatewayMAC.bytes ++ statText

theorem statPush_decodes : PushDataPacket.unmarshalBinary statCodecs statData = .ok statPush := by
  rw [PushDataPacket.unmarshalBinary_eq_ok_iff]
  refine ⟨rfl, statText, by simp [statText, str], rfl, ?_⟩
  rw [statCodecs, Json.ofTable_unmarshal]

/-- A gateway that is not registered. -/
theorem stats_addresses_unregistered :
    ∃ tr r s', Runs (sem ⟨false, false⟩) (handlePushData statCodecs ⟨[192, 168, 1, 2], 1700, []⟩
        statData).run {} tr r s' ∧
      ∀ stats ∈ statsSent tr, ListsIPs stats (knownIPs [192, 168, 1, 2] none) := by
  obtain ⟨tr, r, s', h⟩ :=
    exists_handlePushData_runs ⟨false, false⟩ ⟨[192, 168, 1, 2], 1700, []⟩ {} statPush_decodes
  have hnone : pullAddr ({} : BackendState).gateways statPush.gatewayMAC = none := by
    rw [pullAddr, Finmap.lookup_empty]
    rfl
  have hiff := (stats_addresses_iff statPush_decodes rfl h).2
  rw [hnone] at hiff
  exact ⟨tr, r, s', h, fun stats hmem => (hiff stats hmem).mpr (fun a ha => by cases ha)⟩

/-- A gateway that pulls from `10.0.0.7` pushes a status from `192.168.1.2`: the address it pulls from is
missing. -/
theorem stats_address_missing :
    ∃ tr₀ s, Runs (sem ⟨false, false⟩) (handlePullData ⟨[10, 0, 0, 7], 1700, []⟩
        [2, 57, 48, 2, 1, 2, 3, 4, 5, 6, 7, 8]).run {} tr₀ (.ok ()) s ∧
      pullAddr s.gateways sampleMAC = some ⟨[10, 0, 0, 7], 1700, []⟩ ∧
      ∃ tr r s', Runs (sem ⟨false, false⟩) (handlePushData statCodecs ⟨[192, 168, 1, 2], 1700, []⟩
          statData).run s tr r s' ∧
        ∃ stats ∈ statsSent tr, ¬ ListsIPs stats (knownIPs [192, 168, 1, 2] (pullAddr s.gateways sampleMAC)) := by
  have hpull : PullDataPacket.unmarshalBinary [2, 57, 48, 2, 1, 2, 3, 4, 5, 6, 7, 8] =
      .ok ⟨2, 12345, sampleMAC⟩ := PullDataPacket.unmarshalBinary_eq_ok_iff.mpr ⟨rfl, rfl⟩
  obtain ⟨tr₀, r₀, s, h₀⟩ := exists_runs
    (@sem_total_of_allowed ⟨false, false⟩ (.datagram ⟨[10, 0, 0, 7], 1700, []⟩ _) nofun)
    (handlePullData_uses hpull) {}
  obtain ⟨now, ⟨rfl, rfl, -⟩ | ⟨e, -, -, -, -, hcb⟩⟩ := handlePullData_runs hpull h₀
  · have haddr : pullAddr ((∅ : Gateways).insert sampleMAC
        ⟨some ⟨[10, 0, 0, 7], 1700, []⟩, now, 2⟩) sampleMAC = some ⟨[10, 0, 0, 7], 1700, []⟩ := by
      rw [pullAddr, Finmap.lookup_insert]
      rfl
    obtain ⟨tr, r, s', h⟩ := exists_handlePushData_runs ⟨false, false⟩ ⟨[192, 168, 1, 2], 1700, []⟩
      { gateways := (∅ : Gateways).insert sampleMAC ⟨some ⟨[10, 0, 0, 7], 1700, []⟩, now, 2⟩ }
      statPush_decodes
    have hsent := handlePushData_stat statPush_decodes rfl h
    refine ⟨tr₀, _, h₀, haddr, tr, r, s', h,
      addIPToGatewayStatsPacket (newGatewayStatsPacket sampleMAC sampleStat) [192, 168, 1, 2], ?_, ?_⟩
    · rw [hsent]
      exact List.mem_cons_self
    · rw [haddr, listsIPs_iff]
      intro hsame
      exact absurd (hsame _ rfl) (by decide)
  · cases hcb

end GatewayBridge.Semtech
