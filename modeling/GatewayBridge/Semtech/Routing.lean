import GatewayBridge.Semtech.Dispatch
import GatewayBridge.Process.History

/-!
# Where a downlink goes

The registry as a record of the past: at every point of every run of the backend, the
entry of a MAC is the one of its last successful registration, unless it was evicted
since (`lookup_eq_some_iff`). `Send` reads the entry once and enqueues one PULL_RESP
for it, so its outcome is a function of the registrations and evictions of that MAC
before the reading (`send_routes`).
-/

namespace GatewayBridge.Semtech

open GatewayBridge.Go GatewayBridge.Lora GatewayBridge.Process Prog

/-- The effect is a successful registration of `mac` as `gw`, by a PULL_DATA. -/
def Registers (c : BackendCfg) (mac : EUI64) (en : BackendEntry) (gw : Gateway) : Prop :=
  en.event = ⟨.set mac gw, .ok ()⟩ ∧
    ∃ addr data t₀ t₁, c.call en.tid = some (.datagram addr data) ∧
      IsPullData data gw.protocolVersion t₀ t₁ mac ∧ gw.addr = some addr

/-- The effect is a `cleanup` that evicts `mac`. -/
def Evicts (mac : EUI64) (en : BackendEntry) : Prop :=
  en.event.1 = .cleanup ∧ mac ∈ en.pre.gateways ∧ mac ∉ en.post.gateways

variable {J : Codecs} {cb : Callbacks} {ok : BackendCfg → Move Call Eff → Prop} {h : List BackendEntry}
  {c : BackendCfg} {mac : EUI64}

/-! ### The registry as a record -/

theorem registers_of_set (hr : Run (backend J cb) ok {} h c) {en : BackendEntry} (hen : en ∈ h)
    {gw : Gateway} (hset : en.event = ⟨.set mac gw, .ok ()⟩) : Registers c mac en gw := by
  obtain ⟨l, hl, hallowed⟩ := hr.uses (Call.body_uses J) en hen
  rw [hset] at hallowed
  refine ⟨hset, ?_⟩
  cases l with
  | datagram addr data =>
    obtain ⟨p, hp, rfl, haddr, hversion⟩ := hallowed
    obtain ⟨t₀, t₁, hdata⟩ := exists_isPullData hp
    rw [← hversion] at hdata
    exact ⟨addr, data, t₀, t₁, hl, hdata, haddr⟩
  | send txPacket => exact hallowed.elim
  | cleanup => exact hallowed.elim
  | close => exact hallowed.elim

theorem lookup_post_eq {en : BackendEntry} (hs : sem cb en.event.1 en.pre en.event.2 en.post)
    (hevict : ¬ Evicts mac en) (hset : ∀ gw, en.event ≠ ⟨.set mac gw, .ok ()⟩) :
    en.post.gateways.lookup mac = en.pre.gateways.lookup mac := by
  rcases sem_lookup hs hset with hsame | ⟨he, hnone⟩
  · exact hsame
  · rw [hnone]
    by_cases hmac : mac ∈ en.pre.gateways
    · exact absurd ⟨he, hmac, Finmap.lookup_eq_none.mp hnone⟩ hevict
    · exact (Finmap.lookup_eq_none.mpr hmac).symm

/-- An effect that neither registers nor evicts a MAC leaves its entry alone. -/
theorem lookup_frame (hr : Run (backend J cb) ok {} h c) {en : BackendEntry} (hen : en ∈ h)
    (hevict : ¬ Evicts mac en) (hreg : ∀ gw, ¬ Registers c mac en gw) :
    en.post.gateways.lookup mac = en.pre.gateways.lookup mac := by
  apply lookup_post_eq (hr.linked.sem_of_mem hen) hevict
  intro gw hset
  exact hreg gw (registers_of_set hr hen hset)

/-- **The entry of a MAC is the one of its last registration since it was last evicted.** -/
theorem lookup_eq_some_iff (hr : Run (backend J cb) ok {} h c) {h' : List BackendEntry}
    {s : BackendState} (hsub : ∀ en ∈ h', en ∈ h) (hl : Linked (sem cb) {} h' s) (gw : Gateway) :
    s.gateways.lookup mac = some gw ↔ Latest (Registers c mac) (Evicts mac) h' gw := by
  refine hl.latest_iff (fun s => s.gateways.lookup mac) (Finmap.lookup_empty mac) ?_ ?_ ?_ gw
  · intro en hen gw' hreg
    have hs := hl.sem_of_mem hen
    rw [hreg.1] at hs
    exact sem_set_lookup hs
  · intro en _ hevict
    exact Finmap.lookup_eq_none.mpr hevict.2.2
  · intro en hen hevict hreg
    exact lookup_frame hr (hsub en hen) hevict hreg

/-! ### `Send` -/

/-- The runs in which the backend is not closed. -/
def NoClose (_ : BackendCfg) : Move Call Eff → Prop
  | .start l => l ≠ .close
  | .act _ _ => True

/-- What the effects put on `udpSendChan`. -/
def enqueued (tr : List (Event Eff Eff.Resp)) : List UdpPacket :=
  tr.filterMap fun
    | ⟨.udpSend p, .ok _⟩ => some p
    | _ => none

variable {i : ℕ} {txPacket : TXPacketBytes} {tr : List (Event Eff Eff.Resp)}
  {r : Except (Fault GwError) Unit}

/-- The channel stays open while the backend is not closed. -/
theorem udpSendChan_open (hr : Run (backend J cb) NoClose {} h c) {en : BackendEntry} (hen : en ∈ h) :
    en.pre.udpSendClosed = false := by
  obtain ⟨h₁, h₂, rfl⟩ := List.append_of_mem hen
  refine (hr.linked.before.1).invariant_of_mem (I := fun s => s.udpSendClosed = false) rfl ?_
  intro en' hen' hpre
  have hmem : en' ∈ h₁ ++ en :: h₂ := List.mem_append_left _ hen'
  obtain ⟨l, hl, hallowed⟩ := hr.uses (Call.body_uses J) en' hmem
  have hne : l ≠ .close := hr.started (Q := (· ≠ .close)) (fun _ _ hok => hok) hl
  have hs : sem cb en'.event.1 en'.pre en'.event.2 en'.post := hr.linked.sem_of_mem hmem
  rw [sem_udpSendClosed hs, hpre]
  intro he
  rw [he] at hallowed
  cases l with
  | close => exact hne rfl
  | datagram addr data => exact hallowed
  | send txPacket => exact hallowed
  | cleanup => exact hallowed

/-- The PULL_RESP of `Send`: the version of the gateway, no token, the type, the JSON. -/
theorem pullResp_marshalBinary (version : UInt8) {payload : PullRespPayload} {pb : Bytes}
    (hpb : J.pullResp.marshal payload = .ok pb) :
    (⟨version, 0, payload⟩ : PullRespPacket).marshalBinary J = .ok (version :: 0 :: 0 :: 3 :: pb) := by
  rw [PullRespPacket.marshalBinary, hpb]
  simp only [ite_self]
  rfl

/-- `Send` as a program: it reads the entry of its MAC, and returns the error or enqueues one PULL_RESP. -/
theorem send_run {pb : Bytes} (hpb : J.pullResp.marshal ⟨newTXPKFromTXPacket txPacket⟩ = .ok pb) :
    (send J txPacket).run = .eff (.get txPacket.txInfo.mac) fun g =>
      match g with
      | (_, some e) => .ret (fail e)
      | (gw, none) => .eff (.udpSend ⟨gw.addr, gw.protocolVersion :: 0 :: 0 :: 3 :: pb⟩) fun answer =>
          .ret (orPanic answer) := by
  refine congrArg (Prog.eff (Eff.get txPacket.txInfo.mac)) (funext fun g => ?_)
  obtain ⟨gw, err⟩ := g
  cases err with
  | some e => rfl
  | none =>
    simp only [bind_ret, ExceptT.bindCont, pullResp_marshalBinary gw.protocolVersion hpb]
    rfl

/-- What a `Send` that is done has performed. -/
theorem send_exec {pb : Bytes} (hpb : J.pullResp.marshal ⟨newTXPKFromTXPacket txPacket⟩ = .ok pb)
    (hex : Exec (send J txPacket).run tr (.ret r)) :
    ∃ gw err tr', tr = ⟨.get txPacket.txInfo.mac, (gw, err)⟩ :: tr' ∧
      match err with
      | some e => tr' = [] ∧ r = fail e
      | none => ∃ answer, r = orPanic answer ∧
          tr' = [⟨.udpSend ⟨gw.addr, gw.protocolVersion :: 0 :: 0 :: 3 :: pb⟩, answer⟩] := by
  rw [send_run hpb] at hex
  rcases exec_eff_iff.mp hex with ⟨-, hret⟩ | ⟨⟨gw, err⟩, tr', rfl, hk⟩
  · cases hret
  · refine ⟨gw, err, tr', rfl, ?_⟩
    cases err with
    | some e =>
      obtain ⟨rfl, hret⟩ := exec_ret_iff.mp hk
      cases hret
      exact ⟨rfl, rfl⟩
    | none =>
      rcases exec_eff_iff.mp hk with ⟨-, hret⟩ | ⟨answer, tr'', rfl, hk'⟩
      · cases hret
      · obtain ⟨rfl, hret⟩ := exec_ret_iff.mp hk'
        cases hret
        exact ⟨answer, rfl, rfl⟩

theorem get_answer {gw : Gateway} {err : Option GwError} {s s' : BackendState}
    (h : sem cb (.get mac) s (gw, err) s') :
    s.gateways.lookup mac = some gw ∧ err = none ∨
      s.gateways.lookup mac = none ∧ err = some .gatewayDoesNotExist := by
  obtain ⟨-, hget⟩ := sem_get h
  cases hlookup : s.gateways.lookup mac with
  | some gw' =>
    rw [hlookup] at hget
    cases hget
    exact .inl ⟨rfl, rfl⟩
  | none =>
    rw [hlookup] at hget
    cases hget
    exact .inr ⟨rfl, rfl⟩

/-- A datagram that is no PULL_DATA of `mac` does not touch its entry. -/
theorem lookup_of_not_pullData (hr : Run (backend J cb) ok {} h c) {en : BackendEntry} (hen : en ∈ h)
    {addr : UDPAddr} {data : Bytes} (hcall : c.call en.tid = some (.datagram addr data))
    (hdata : ∀ version t₀ t₁, ¬ IsPullData data version t₀ t₁ mac) :
    en.post.gateways.lookup mac = en.pre.gateways.lookup mac := by
  apply lookup_frame hr hen
  · intro hevict
    obtain ⟨l, hl, hallowed⟩ := hr.uses (Call.body_uses J) en hen
    rw [hcall] at hl
    cases hl
    rw [hevict.1] at hallowed
    exact hallowed
  · rintro gw ⟨-, addr', data', t₀, t₁, hcall', hdata', -⟩
    rw [hcall] at hcall'
    cases hcall'
    exact hdata _ t₀ t₁ hdata'

/-- What a `Send` that is done has sent and returned, from what it read. -/
theorem send_done (hr : Run (backend J cb) NoClose {} h c) {pb : Bytes}
    (hpb : J.pullResp.marshal ⟨newTXPKFromTXPacket txPacket⟩ = .ok pb)
    (hi : c.threads[i]? = some ⟨.send txPacket, .ret r⟩) :
    ∃ h₁ en h₂, h = h₁ ++ en :: h₂ ∧ en.tid = i ∧ en.event.1 = .get txPacket.txInfo.mac ∧
      ((∃ gw, en.pre.gateways.lookup txPacket.txInfo.mac = some gw ∧ r = .ok () ∧
        enqueued (performed i h) = [⟨gw.addr, gw.protocolVersion :: 0 :: 0 :: 3 :: pb⟩]) ∨
      (en.pre.gateways.lookup txPacket.txInfo.mac = none ∧ r = fail .gatewayDoesNotExist ∧
        enqueued (performed i h) = [])) := by
  obtain ⟨gw, err, tr', htr, hrest⟩ := send_exec hpb (hr.exec hi)
  obtain ⟨h₁, en, h₂, rfl, htid, hev, hlater⟩ := performed_eq_cons h htr
  refine ⟨h₁, en, h₂, rfl, htid, by rw [hev], ?_⟩
  have hs : sem cb en.event.1 en.pre en.event.2 en.post := hr.linked.before.2
  rw [hev] at hs
  rw [htr]
  rcases get_answer hs with ⟨hlookup, rfl⟩ | ⟨hlookup, rfl⟩
  · obtain ⟨answer, rfl, rfl⟩ := hrest
    obtain ⟨h₃, en', h₄, rfl, -, hev', -⟩ := performed_eq_cons h₂ hlater
    have hen' : en' ∈ h₁ ++ en :: (h₃ ++ en' :: h₄) := by simp
    have hsend : sem cb en'.event.1 en'.pre en'.event.2 en'.post := hr.linked.sem_of_mem hen'
    rw [hev'] at hsend
    obtain ⟨rfl, -⟩ := hsend
    rw [sendAnswer_open (udpSendChan_open hr hen')]
    exact .inl ⟨gw, hlookup, rfl, rfl⟩
  · obtain ⟨rfl, rfl⟩ := hrest
    exact .inr ⟨hlookup, rfl, rfl⟩

/-- A supported version and its type make `GetPacketType` accept a PULL_RESP. -/
theorem getPacketType_pullResp {version : UInt8} (hv : version = 1 ∨ version = 2) (pb : Bytes) :
    getPacketType (version :: 0 :: 0 :: 3 :: pb) = .ok .pullResp := by
  have hheader : header version 0 .pullResp ++ pb = version :: 0 :: 0 :: 3 :: pb := rfl
  rw [← hheader]
  exact getPacketType_header (protocolSupported_iff.mpr hv) pb

/-- **Downlink routing.** In every run, a `Send` can be brought to its end; when it is done, it has
enqueued one PULL_RESP to the gateway as it was last registered since its last eviction, at the time
`Send` looked, and if there was no such registration it has enqueued nothing and returned
`errGatewayDoesNotExist`. Datagrams other than a PULL_DATA of the MAC have no part in it. -/
theorem send_routes {pb : Bytes} (hpb : J.pullResp.marshal ⟨newTXPKFromTXPacket txPacket⟩ = .ok pb)
    (hr : Run (backend J cb) NoClose {} h c) (i : ℕ) :
    (∀ p, c.threads[i]? = some ⟨.send txPacket, p⟩ → ∃ h' c' r,
      Run (backend J cb) NoClose {} (h ++ h') c' ∧ c'.threads[i]? = some ⟨.send txPacket, .ret r⟩) ∧
    (∀ r, c.threads[i]? = some ⟨.send txPacket, .ret r⟩ → ∃ h₁ en h₂, h = h₁ ++ en :: h₂ ∧
      en.tid = i ∧ en.event.1 = .get txPacket.txInfo.mac ∧
      let live := Latest (Registers c txPacket.txInfo.mac) (Evicts txPacket.txInfo.mac) h₁
      (enqueued (performed i h) ≠ [] ↔ ∃ gw, live gw) ∧
      (∀ gw, live gw → r = .ok () ∧ (gw.protocolVersion = 1 ∨ gw.protocolVersion = 2) ∧
        ∃ addr, gw.addr = some addr ∧
          enqueued (performed i h) = [⟨some addr, gw.protocolVersion :: 0 :: 0 :: 3 :: pb⟩] ∧
          getPacketType (gw.protocolVersion :: 0 :: 0 :: 3 :: pb) = .ok .pullResp) ∧
      ((¬ ∃ gw, live gw) → r = fail .gatewayDoesNotExist ∧ enqueued (performed i h) = [])) ∧
    ∀ en ∈ h, ∀ addr data, c.call en.tid = some (.datagram addr data) →
      (∀ version t₀ t₁, ¬ IsPullData data version t₀ t₁ txPacket.txInfo.mac) →
        en.post.gateways.lookup txPacket.txInfo.mac = en.pre.gateways.lookup txPacket.txInfo.mac := by
  refine ⟨fun p hp => ?_, fun r hi => ?_, fun en hen addr data => lookup_of_not_pullData hr hen⟩
  · have huses := (Call.body_uses J (.send txPacket)).exec (hr.exec hp)
    exact hr.finish (fun _ _ _ => trivial) (sem_total_of_allowed (.send txPacket) nofun) huses.2 hp
  · obtain ⟨h₁, en, h₂, rfl, htid, hget, hdone⟩ := send_done hr hpb hi
    have hrecord : ∀ gw, en.pre.gateways.lookup txPacket.txInfo.mac = some gw ↔
        Latest (Registers c txPacket.txInfo.mac) (Evicts txPacket.txInfo.mac) h₁ gw :=
      lookup_eq_some_iff hr (fun en' hen' => List.mem_append_left _ hen') hr.linked.before.1
    refine ⟨h₁, en, h₂, rfl, htid, hget, ?_⟩
    simp only [← hrecord]
    rcases hdone with ⟨gw, hlookup, rfl, hout⟩ | ⟨hlookup, rfl, hout⟩
    · obtain ⟨-, -, -, -, ⟨-, addr, data, t₀, t₁, -, ⟨hv, -⟩, haddr⟩, -⟩ := (hrecord gw).mp hlookup
      rw [haddr] at hout
      refine ⟨⟨fun _ => ⟨gw, hlookup⟩, fun _ => by simp [hout]⟩, ?_, fun hno => absurd ⟨gw, hlookup⟩ hno⟩
      intro gw' hgw'
      cases hlookup.symm.trans hgw'
      exact ⟨rfl, hv, addr, haddr, hout, getPacketType_pullResp hv pb⟩
    · refine ⟨⟨fun hne => absurd hout hne, ?_⟩, ?_, fun _ => ⟨rfl, hout⟩⟩
      · rintro ⟨gw, hgw⟩
        rw [hlookup] at hgw
        cases hgw
      · intro gw hgw
        rw [hlookup] at hgw
        cases hgw

/-- A run in which the gateway of a packet registers with a PULL_DATA of version 2, and a `Send` of the packet
reaches it. -/
theorem exists_run_send {pb : Bytes} (hpb : J.pullResp.marshal ⟨newTXPKFromTXPacket txPacket⟩ = .ok pb)
    (addr : UDPAddr) :
    ∃ h c, Run (backend J ⟨true, true⟩) NoClose {} h c ∧
      c.threads[1]? = some ⟨.send txPacket, .ret (.ok ())⟩ ∧
      enqueued (performed 1 h) = [⟨some addr, 2 :: 0 :: 0 :: 3 :: pb⟩] := by
  have hdata : IsPullData (2 :: 57 :: 48 :: 2 :: txPacket.txInfo.mac.bytes) 2 57 48 txPacket.txInfo.mac :=
    ⟨.inr rfl, rfl⟩
  let gw : Gateway := ⟨some addr, 0, 2⟩
  let s : BackendState := { gateways := (∅ : Gateways).insert txPacket.txInfo.mac gw }
  have hget : sem ⟨true, true⟩ (.get txPacket.txInfo.mac) s (gw, none) s := sem_get_ok (Finmap.lookup_insert _)
  have r₀ : Run (backend J ⟨true, true⟩) NoClose {} [] ⟨{}, []⟩ := .init
  have r₁ := r₀.start_of_body (l := Call.datagram addr _) (handlePacket_run_of_isPullData hdata) rfl nofun
  have r₂ := r₁.act (i := 0) (r := (0 : ℤ)) rfl (sem_now ⟨true, true⟩ 0 {}) trivial
  have r₃ := r₂.act (i := 0) rfl (sem_set_ok ⟨true, true⟩ txPacket.txInfo.mac gw {}) trivial
  have r₄ := r₃.start_of_body (l := Call.send txPacket) (send_run hpb) trivial nofun
  have r₅ := r₄.act (i := 1) rfl hget trivial
  have r₆ := r₅.act (i := 1) rfl (sem_udpSend ⟨true, true⟩ _ s) trivial
  exact ⟨_, _, r₆, rfl, rfl⟩

/-- A downlink for gateway `0102030405060708`. -/
def sampleTX : TXPacketBytes where
  txInfo := {
    mac := sampleMAC
    timestamp := 12345
    frequency := 868100000
    power := 14
    dataRate := { modulation := loRaModulation, spreadFactor := 7, bandwidth := 125 }
    codeRate := str "4/5" }
  phyPayload := [1, 2]

/-- The JSON of the PULL_RESP for the packet. -/
def sampleTXText : Bytes :=
  str "\x7b\"txpk\":\x7b\"imme\":false,\"tmst\":12345,\"freq\":868.1,\"rfch\":0,\"powe\":14," ++
    str "\"modu\":\"LORA\",\"datr\":\"SF7BW125\",\"codr\":\"4/5\",\"ipol\":true,\"size\":2," ++
    str "\"data\":\"AQI=\"\x7d\x7d"

/-- After a PULL_DATA of version 2, `Send` enqueues a PULL_RESP of version 2 to where it came from. -/
theorem send_routes_after_pullData :
    let J : Codecs := ⟨.ofTable [], .ofTable [(⟨newTXPKFromTXPacket sampleTX⟩, sampleTXText)], .ofTable []⟩
    let addr : UDPAddr := ⟨[192, 168, 1, 2], 1700, []⟩
    ∃ h c, Run (backend J ⟨true, true⟩) NoClose {} h c ∧
      enqueued (performed 1 h) = [⟨some addr, 2 :: 0 :: 0 :: 3 :: sampleTXText⟩] ∧
      ∃ h₁ en h₂, h = h₁ ++ en :: h₂ ∧
        ∃ gw, Latest (Registers c sampleTX.txInfo.mac) (Evicts sampleTX.txInfo.mac) h₁ gw := by
  intro J addr
  have hpb : J.pullResp.marshal ⟨newTXPKFromTXPacket sampleTX⟩ = .ok sampleTXText := Json.ofTable_marshal _ _ _
  obtain ⟨h, c, hr, hi, hout⟩ := exists_run_send hpb addr
  obtain ⟨h₁, en, h₂, hh, -, -, hiff, -⟩ := (send_routes hpb hr 1).2.1 (.ok ()) hi
  refine ⟨h, c, hr, hout, h₁, en, h₂, hh, hiff.mp ?_⟩
  rw [hout]
  exact List.cons_ne_nil _ _

end GatewayBridge.Semtech
