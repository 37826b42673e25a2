import GatewayBridge.Mqtt.Backend
import GatewayBridge.Semtech.Routing

/-!
# Which gateway a downlink is for

A downlink from MQTT names its gateway twice: in the topic it is published on,
`gateway/[MAC]/tx`, and in the `mac` of its payload. `txPacketHandler` of
`backend/mqttpubsub/backend.go` passes the packet on as it is in the payload, and `Send` of
`gateway/backend.go` looks up the MAC it finds there.
-/

namespace GatewayBridge.Mqtt

open GatewayBridge.Go GatewayBridge.Lora GatewayBridge.Process GatewayBridge.Semtech Prog

/-- A send on `txPacketChan` waits for its receiver, and is performed then. -/
def handlerSem : (e : HandlerEff) → Unit → e.Resp → Unit → Prop
  | .txSend _, _, _, _ => True

/-- The packets that were put on `txPacketChan`. -/
def put (tr : List (Event HandlerEff HandlerEff.Resp)) : List TXPacketBytes :=
  tr.map fun
    | ⟨.txSend txPacket, _⟩ => txPacket

/-- Whatever the UDP backend does, a `Send` of the packet enqueues nothing but for the address that is
registered for `mac` when it looks. -/
def OnlyTo (J : Codecs) (mac : EUI64) (txPacket : TXPacketBytes) : Prop :=
  ∀ cb ok h c, Run (backend J cb) ok {} h c → ∀ (i : ℕ) r,
    c.threads[i]? = some ⟨.send txPacket, .ret r⟩ → ∀ q ∈ enqueued (performed i h),
      ∃ en ∈ h, en.tid = i ∧ en.event.1 = .get mac ∧
        ∃ gw, en.pre.gateways.lookup mac = some gw ∧ q.addr = gw.addr

variable {J : Codecs} {K : Json TXPacketBytes} {txPacket : TXPacketBytes} {pb : Bytes}

/-- The handler puts the packet of the payload on the channel, whatever the topic. -/
theorem txPacketHandler_runs_iff {payload : Bytes} {tr : List (Event HandlerEff HandlerEff.Resp)}
    (hdec : K.unmarshal payload = .ok txPacket) (t : Bytes) :
    Runs handlerSem (txPacketHandler K ⟨t, payload⟩) () tr () () ↔ tr = [⟨.txSend txPacket, ()⟩] := by
  unfold txPacketHandler
  rw [hdec]
  constructor
  · intro h
    obtain ⟨⟨⟩, _, _, -, rfl, hk⟩ := runs_eff_iff.mp h
    obtain ⟨rfl, -, -⟩ := runs_ret_iff.mp hk
    rfl
  · rintro rfl
    exact .eff trivial .ret

theorem send_uses_of_error {err : Bytes}
    (herr : J.pullResp.marshal ⟨newTXPKFromTXPacket txPacket⟩ = .error err) :
    (Semtech.send J txPacket).run.Uses fun e => ∀ q, e ≠ .udpSend q := by
  refine ⟨?_, fun answer => ?_⟩
  · intro q hq
    cases hq
  · obtain ⟨gw, e⟩ := answer
    cases e with
    | some e => trivial
    | none =>
      have hmarshal : (⟨gw.protocolVersion, 0, ⟨newTXPKFromTXPacket txPacket⟩⟩ : PullRespPacket).marshalBinary J =
          fail (.json err) := by
        rw [PullRespPacket.marshalBinary, herr]
        rfl
      simp only [bind_ret, ExceptT.bindCont, hmarshal]
      trivial

/-- `Send` reaches the address of the MAC in the packet. -/
theorem onlyTo_self : OnlyTo J txPacket.txInfo.mac txPacket := by
  intro cb ok h c hr i r hi q hq
  have hex := hr.exec hi
  cases hpb : J.pullResp.marshal ⟨newTXPKFromTXPacket txPacket⟩ with
  | error err =>
    obtain ⟨ev, hev, hq⟩ := List.mem_filterMap.mp hq
    have hno := ((send_uses_of_error hpb).exec hex).1 ev hev
    split at hq
    · exact absurd rfl (hno _)
    · cases hq
  | ok pb =>
    obtain ⟨gw, err, tr', htr, hrest⟩ := send_exec hpb hex
    obtain ⟨h₁, en, h₂, rfl, htid, hev, -⟩ := performed_eq_cons h htr
    have hen : en ∈ h₁ ++ en :: h₂ := by simp
    have hs : sem cb en.event.1 en.pre en.event.2 en.post := hr.linked.sem_of_mem hen
    rw [hev] at hs
    rw [htr] at hq
    rcases get_answer hs with ⟨hlookup, rfl⟩ | ⟨-, rfl⟩
    · obtain ⟨answer, -, rfl⟩ := hrest
      have haddr : q.addr = gw.addr := by
        cases answer with
        | ok _ =>
          change q ∈ [_] at hq
          rw [List.mem_singleton.mp hq]
        | error p => simp [enqueued] at hq
      exact ⟨en, hen, htid, by rw [hev], gw, hlookup, haddr⟩
    · obtain ⟨rfl, -⟩ := hrest
      simp [enqueued] at hq

/-- `Send` looks up the MAC in the packet, and no other. -/
theorem get_of_send {cb : Callbacks} {ok : BackendCfg → Move Semtech.Call Eff → Prop} {h : List BackendEntry}
    {c : BackendCfg} {i : ℕ} {mac : EUI64} {r : Except (Fault GwError) Unit} (hr : Run (backend J cb) ok {} h c)
    (hi : c.threads[i]? = some ⟨.send txPacket, .ret r⟩) {en : BackendEntry} (hen : en ∈ h) (htid : en.tid = i)
    (hget : en.event.1 = .get mac) : txPacket.txInfo.mac = mac := by
  obtain ⟨l, hl, hallowed⟩ := hr.uses (Call.body_uses J) en hen
  rw [htid, Cfg.call, hi] at hl
  cases hl
  rw [hget] at hallowed
  exact hallowed.symm

/-- A `Send` of a packet that can be sent reaches no gateway but `mac` if and only if that is the MAC in the
packet. -/
theorem onlyTo_iff {mac : EUI64} (hpb : J.pullResp.marshal ⟨newTXPKFromTXPacket txPacket⟩ = .ok pb) :
    OnlyTo J mac txPacket ↔ txPacket.txInfo.mac = mac := by
  constructor
  · intro honly
    obtain ⟨h, c, hr, hi, hout⟩ := exists_run_send hpb ⟨[192, 168, 1, 2], 1700, []⟩
    have hq := List.mem_singleton_self (⟨some ⟨[192, 168, 1, 2], 1700, []⟩, 2 :: 0 :: 0 :: 3 :: pb⟩ : UdpPacket)
    rw [← hout] at hq
    obtain ⟨en, hen, htid, hget, -⟩ := honly _ _ h c hr 1 _ hi _ hq
    exact get_of_send hr hi hen htid hget
  · rintro rfl
    exact onlyTo_self

/-- **A downlink reaches the gateway of its topic if and only if its payload names it.** A message whose
payload decodes puts one packet on `txPacketChan`. The packet has the MAC of the topic, and a `Send` of it
reaches no gateway but that one, if the payload has that MAC, and only then; where the packet can be sent at
all, the second part alone fails otherwise. -/
theorem downlink_addressed_iff {payload : Bytes} (J : Codecs) (mac : EUI64)
    (hdec : K.unmarshal payload = .ok txPacket) :
    (∃ tr, Runs handlerSem (txPacketHandler K ⟨topic mac, payload⟩) () tr () ()) ∧
    ∀ tr, Runs handlerSem (txPacketHandler K ⟨topic mac, payload⟩) () tr () () →
      ∃ p, put tr = [p] ∧ ((p.txInfo.mac = mac ∧ OnlyTo J mac p) ↔ txPacket.txInfo.mac = mac) ∧
        ∀ pb, J.pullResp.marshal ⟨newTXPKFromTXPacket txPacket⟩ = .ok pb →
          (OnlyTo J mac p ↔ txPacket.txInfo.mac = mac) := by
  refine ⟨⟨_, (txPacketHandler_runs_iff hdec (topic mac)).mpr rfl⟩, fun tr htr => ?_⟩
  rw [(txPacketHandler_runs_iff hdec (topic mac)).mp htr]
  refine ⟨txPacket, rfl, ⟨fun h => h.1, ?_⟩, fun pb hpb => onlyTo_iff hpb⟩
  rintro rfl
  exact ⟨rfl, onlyTo_self⟩

/-- The downlink of the documentation, for gateway `1dee08d0b691d149`. -/
def docTX : TXPacketBytes where
  txInfo := {
    mac := ⟨[29, 238, 8, 208, 182, 145, 209, 73], rfl⟩
    timestamp := 2079240683
    frequency := 868300000
    power := 14
    dataRate := { modulation := loRaModulation, spreadFactor := 7, bandwidth := 125 }
    codeRate := str "4/5" }
  phyPayload := [32, 171, 187, 209, 203, 166, 42, 137, 187, 5, 17, 20, 22, 188, 101, 30, 211]

/-- The payload of the documented downlink. -/
def docPayload : Bytes :=
  str "\x7b\"phyPayload\":\"IKu70cumKom7BREUFrxlHtM=\",\"txInfo\":\x7b\"codeRate\":\"4/5\"," ++
    str "\"dataRate\":\x7b\"bandwidth\":125,\"modulation\":\"LORA\",\"spreadFactor\":7\x7d," ++
    str "\"frequency\":868300000,\"immediately\":false,\"mac\":\"1dee08d0b691d149\",\"power\":14," ++
    str "\"timestamp\":2079240683\x7d\x7d"

/-- The JSON of its PULL_RESP. -/
def docText : Bytes :=
  str "\x7b\"txpk\":\x7b\"imme\":false,\"tmst\":2079240683,\"freq\":868.3,\"rfch\":0,\"powe\":14," ++
    str "\"modu\":\"LORA\",\"datr\":\"SF7BW125\",\"codr\":\"4/5\",\"ipol\":true,\"size\":17," ++
    str "\"data\":\"IKu70cumKom7BREUFrxlHtM=\"\x7d\x7d"

/-- `encoding/json` on the packets, as far as this downlink goes. -/
def docJson : Json TXPacketBytes := .ofTable [(docTX, docPayload)]

/-- `encoding/json` on the datagrams, as far as this downlink goes. -/
def docCodecs : Codecs := ⟨.ofTable [], .ofTable [(⟨newTXPKFromTXPacket docTX⟩, docText)], .ofTable []⟩

theorem docJson_unmarshal : docJson.unmarshal docPayload = .ok docTX := by
  rw [docJson, Json.ofTable_unmarshal]

theorem docCodecs_marshal : docCodecs.pullResp.marshal ⟨newTXPKFromTXPacket docTX⟩ = .ok docText := by
  rw [docCodecs, Json.ofTable_marshal]

/-- The documented downlink, published on the topic of its gateway, reaches that gateway only. -/
theorem downlink_addressed_documented :
    ∃ tr p, Runs handlerSem (txPacketHandler docJson ⟨topic docTX.txInfo.mac, docPayload⟩) () tr () () ∧
      put tr = [p] ∧ p.txInfo.mac = docTX.txInfo.mac ∧ OnlyTo docCodecs docTX.txInfo.mac p := by
  obtain ⟨⟨tr, htr⟩, hall⟩ := downlink_addressed_iff docCodecs docTX.txInfo.mac docJson_unmarshal
  obtain ⟨p, hp, haddressed, -⟩ := hall tr htr
  obtain ⟨hmac, honly⟩ := haddressed.mpr rfl
  exact ⟨tr, p, htr, hp, hmac, honly⟩

/-- The documented downlink, published on `gateway/0102030405060708/tx`, is put on the channel for
`1dee08d0b691d149`, and a `Send` of it can reach that gateway. -/
theorem downlink_misdirected :
    ∃ tr p, Runs handlerSem (txPacketHandler docJson ⟨topic sampleMAC, docPayload⟩) () tr () () ∧
      topic sampleMAC = str "gateway/0102030405060708/tx" ∧ put tr = [p] ∧
      p.txInfo.mac.string = str "1dee08d0b691d149" ∧ p.txInfo.mac ≠ sampleMAC ∧
      ¬ OnlyTo docCodecs sampleMAC p := by
  have htr := (txPacketHandler_runs_iff docJson_unmarshal (topic sampleMAC)).mpr rfl
  have hne : docTX.txInfo.mac ≠ sampleMAC := by decide
  refine ⟨_, docTX, htr, by decide, rfl, by decide, hne, fun honly => ?_⟩
  exact hne ((onlyTo_iff docCodecs_marshal).mp honly)

end GatewayBridge.Mqtt
