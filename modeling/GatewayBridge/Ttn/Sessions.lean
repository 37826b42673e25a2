import GatewayBridge.Ttn.Backend
import GatewayBridge.Process.History

/-!
# One session for each gateway

`PublishGatewayRX`, `PublishGatewayStats` and `SubscribeGatewayTX` of
`backend/thethingsnetwork/backend.go` all begin in the same way (`session`): they look the
MAC up under the read lock, and where it is missing they ask `newGtw`, which looks again
under the write lock before it makes a `gtw`. `run` calls them from a goroutine for each
packet, so here they are the calls of a system of their own (`backend`), started at any
time and interleaved in any way, with the goroutine of `newGtw` and the ticks of the rates.

What an effect can do to the state is said once (`Change`, `change_of_ttnSem`). That a MAC
keeps its `gtw` (`Joins.lookup`) makes what a call knows about its `gtw` stable under
whatever the others do; so every call is safe in the sense of `Process.Lock`, and works on
the `gtw` of its MAC only (`safe_body`).
-/

namespace GatewayBridge.Ttn

open GatewayBridge.Go GatewayBridge.Lora GatewayBridge.Process GatewayBridge.Semtech Prog

/-! ### The calls -/

/-- A call of the backend. -/
inductive TtnCall where
  /-- `SubscribeGatewayTX(mac)`. -/
  | subscribe (mac : EUI64)
  /-- `UnSubscribeGatewayTX(mac)`. -/
  | unSubscribe (mac : EUI64)
  /-- `PublishGatewayRX(mac, rxPacket)`. -/
  | publishRX (mac : EUI64) (rxPacket : RXPacketBytes)
  /-- `PublishGatewayStats(mac, stats)`. -/
  | publishStats (mac : EUI64) (stats : GatewayStatsPacket)
  /-- The goroutine of `newGtw`. -/
  | findConf (gtw : ℕ)
  /-- `b.tick()`. -/
  | tick

/-- The program of a call. -/
def TtnCall.body (cfg : Settings) : TtnCall → TtnProg (Except GwError Unit)
  | .subscribe mac => subscribeGatewayTX mac
  | .unSubscribe mac => unSubscribeGatewayTX mac
  | .publishRX mac rxPacket => publishGatewayRX cfg mac rxPacket
  | .publishStats mac stats => publishGatewayStats cfg mac stats
  | .findConf gtw => Ttn.findConf gtw
  | .tick => do
      ask TtnEff.tick
      pure (.ok ())

/-- The MAC that a method was called for. -/
def TtnCall.mac : TtnCall → Option EUI64
  | .subscribe mac => some mac
  | .unSubscribe mac => some mac
  | .publishRX mac _ => some mac
  | .publishStats mac _ => some mac
  | .findConf _ => none
  | .tick => none

/-- The backend: any calls at once. The account server is asked for a `gtw` without configuration. -/
def backend (cfg : Settings) : System TtnState TtnCall TtnEff TtnEff.Resp (Except GwError Unit) where
  body := TtnCall.body cfg
  sem := ttnSem cfg
  starts
    | .findConf gtw, t => cfg.accountServer = true ∧ t.gtws[gtw]?.map Gtw.conf = some none
    | _, _ => True

/-- An effect that the backend performed. -/
abbrev TtnEntry := Entry TtnState TtnEff TtnEff.Resp

/-- A configuration of the backend. -/
abbrev TtnCfg := Cfg TtnState TtnCall TtnEff TtnEff.Resp (Except GwError Unit)

variable {cfg : Settings} {t t' : TtnState} {mac : EUI64} {gtw st : ℕ}

/-! ### Which effects the methods perform -/

section Uses

variable {P : TtnEff → Prop}

theorem uses_session (hget : P (.getGtw mac)) (hnew : P (.newGtw mac)) : (session mac).Uses P := by
  refine ⟨hget, fun found => ?_⟩
  cases found with
  | some gtw => trivial
  | none => exact ⟨hnew, fun _ => trivial⟩

theorem uses_overRate (hrate : P (.rxRate gtw)) : (overRate cfg gtw).Uses P := by
  unfold overRate
  split_ifs
  · exact ⟨hrate, fun _ => trivial⟩
  · trivial

theorem uses_publishGatewayRX {rxPacket : RXPacketBytes} (hsession : (session mac).Uses P)
    (hupdate : ∀ gtw, P (.rxRateUpdate gtw 1)) (hrate : ∀ gtw, P (.rxRate gtw)) (hnow : P .now)
    (hsend : ∀ gtw message, P (.uplinkSend gtw message)) : (publishGatewayRX cfg mac rxPacket).Uses P := by
  refine hsession.bind fun gtw => ⟨hupdate gtw, fun _ => (uses_overRate (hrate gtw)).bind fun limited => ?_⟩
  cases limited with
  | true => trivial
  | false => exact ⟨hnow, fun now => ⟨hsend gtw _, fun _ => trivial⟩⟩

theorem uses_publishGatewayStats {stats : GatewayStatsPacket} (hsession : (session mac).Uses P)
    (hconf : ∀ gtw, P (.conf gtw)) (hsend : ∀ gtw status, P (.statusSend gtw status)) :
    (publishGatewayStats cfg mac stats).Uses P := by
  refine hsession.bind fun gtw => ⟨hconf gtw, fun conf => ?_⟩
  cases conf with
  | none => exact ⟨hsend gtw _, fun _ => trivial⟩
  | some conf => exact ⟨hsend gtw _, fun _ => trivial⟩

theorem uses_findConf (hfind : P (.findGateway gtw)) (hconf : ∀ settings, P (.configure gtw settings)) :
    (findConf gtw).Uses P := by
  refine ⟨hfind, fun settings => ?_⟩
  cases settings with
  | none => trivial
  | some settings => exact ⟨hconf settings, fun _ => trivial⟩

end Uses

/-! ### The `gtw`s -/

/-- The `gtw` that an effect works on. -/
def TtnEff.target : TtnEff → Option ℕ
  | .getGtw _ => none
  | .newGtw _ => none
  | .newDownlinkStream gtw => some gtw
  | .setDownlink gtw _ => some gtw
  | .downlink gtw => some gtw
  | .closeDownlink gtw => some gtw
  | .rxRateUpdate gtw _ => some gtw
  | .rxRate gtw => some gtw
  | .tick => none
  | .now => none
  | .uplinkSend gtw _ => some gtw
  | .conf gtw => some gtw
  | .findGateway gtw => some gtw
  | .configure gtw _ => some gtw
  | .statusSend gtw _ => some gtw

theorem streams_openStream_of_lt (h : st < t.streams.length) :
    (t.openStream gtw).streams[st]? = t.streams[st]? :=
  List.getElem?_append_left h

theorem streams_openStream_self : (t.openStream gtw).streams[t.streams.length]? = some ⟨gtw, true⟩ := by
  simp [TtnState.openStream]

theorem streams_closeStream_of_ne {st' : ℕ} (h : st ≠ st') :
    (t.closeStream st).streams[st']? = t.streams[st']? := by
  simp [TtnState.closeStream, h]

theorem streams_closeStream_self :
    (t.closeStream st).streams[st]? = t.streams[st]?.map fun stream => { stream with isOpen := false } := by
  simp [TtnState.closeStream]

/-- What an effect can do to the state. -/
inductive Change (cfg : Settings) (t : TtnState) : TtnEff → TtnState → Prop
  /-- It reads, or sends. -/
  | keep {e : TtnEff} : Change cfg t e t
  /-- A `gtw` is made for a MAC that has none. -/
  | newGtw (mac : EUI64) : t.gateways.lookup mac = none →
      Change cfg t (.newGtw mac) { t with
        gateways := t.gateways.insert mac t.gtws.length
        gtws := t.gtws ++ [TtnState.freshGtw cfg mac] }
  /-- A stream is opened. -/
  | openStream (gtw : ℕ) : Change cfg t (.newDownlinkStream gtw) (t.openStream gtw)
  /-- A stream is assigned. -/
  | setDownlink (gtw st : ℕ) :
      Change cfg t (.setDownlink gtw st) (t.modify gtw fun g => { g with downlink := some st })
  /-- The stream of a `gtw` is closed. -/
  | closeStream (gtw st : ℕ) : t.downlink gtw = some st →
      Change cfg t (.closeDownlink gtw) (t.closeStream st)
  /-- A `gtw` is changed, with its stream and its identity left alone. -/
  | modify {e : TtnEff} (gtw : ℕ) (f : Gtw → Gtw) : e.target = some gtw →
      (∀ g, (f g).downlink = g.downlink ∧ (f g).client.gatewayID = g.client.gatewayID) →
      Change cfg t e (t.modify gtw f)
  /-- The rates tick. -/
  | tick : Change cfg t .tick { t with gtws := t.gtws.map fun g => { g with rxRate := g.rxRate.tick } }

/-- `newGtw` answers with the `gtw` of the MAC, which it makes if there is none. -/
theorem newGtw_cases {r : ℕ} (h : (r, t') = t.newGtw cfg mac) :
    Change cfg t (.newGtw mac) t' ∧ t'.gateways.lookup mac = some r := by
  rw [TtnState.newGtw] at h
  cases hl : t.gateways.lookup mac with
  | some gtw =>
    rw [hl] at h
    cases h
    exact ⟨.keep, hl⟩
  | none =>
    rw [hl] at h
    cases h
    exact ⟨.newGtw mac hl, Finmap.lookup_insert _⟩

/-- **What an effect can do.** -/
theorem change_of_ttnSem {e : TtnEff} {r : e.Resp} (h : ttnSem cfg e t r t') : Change cfg t e t' := by
  cases e with
  | newGtw mac => exact (newGtw_cases h).1
  | newDownlinkStream gtw =>
    obtain ⟨-, rfl⟩ := h
    exact .openStream gtw
  | setDownlink gtw st =>
    cases h
    exact .setDownlink gtw st
  | closeDownlink gtw =>
    obtain ⟨st, hst, rfl⟩ := h
    exact .closeStream gtw st hst
  | rxRateUpdate gtw n =>
    cases h
    exact .modify gtw _ rfl fun _ => ⟨rfl, rfl⟩
  | configure gtw settings =>
    cases h
    exact .modify gtw _ rfl fun _ => ⟨rfl, rfl⟩
  | tick =>
    cases h
    exact .tick
  | getGtw mac =>
    obtain ⟨-, rfl⟩ := h
    exact .keep
  | downlink gtw =>
    obtain ⟨-, rfl⟩ := h
    exact .keep
  | rxRate gtw =>
    obtain ⟨-, rfl⟩ := h
    exact .keep
  | conf gtw =>
    obtain ⟨-, rfl⟩ := h
    exact .keep
  | now =>
    cases h
    exact .keep
  | uplinkSend gtw message =>
    cases h
    exact .keep
  | findGateway gtw =>
    cases h
    exact .keep
  | statusSend gtw status =>
    cases h
    exact .keep

variable {e : TtnEff}

/-- The `gtw`s are those from before, or one more for a MAC without. -/
theorem Change.gateways (h : Change cfg t e t') :
    (t'.gateways = t.gateways ∧ t'.gtws.length = t.gtws.length) ∨
      ∃ mac, e = .newGtw mac ∧ t.gateways.lookup mac = none ∧
        t'.gateways = t.gateways.insert mac t.gtws.length ∧
        t'.gtws = t.gtws ++ [TtnState.freshGtw cfg mac] := by
  cases h with
  | newGtw mac hl => exact .inr ⟨mac, rfl, hl, rfl, rfl⟩
  | keep => exact .inl ⟨rfl, rfl⟩
  | openStream gtw => exact .inl ⟨rfl, rfl⟩
  | closeStream gtw st _ => exact .inl ⟨rfl, rfl⟩
  | setDownlink gtw st => exact .inl ⟨rfl, List.length_modify _ _ _⟩
  | modify gtw f _ _ => exact .inl ⟨rfl, List.length_modify _ _ _⟩
  | tick => exact .inl ⟨rfl, List.length_map _⟩

/-- A `gtw` keeps its identity, and another than the one worked on does not change at all. -/
theorem Change.getElem? (h : Change cfg t e t') {g : Gtw} (hg : t.gtws[gtw]? = some g) :
    ∃ g', t'.gtws[gtw]? = some g' ∧ g'.client.gatewayID = g.client.gatewayID ∧
      (e ≠ .tick → e.target ≠ some gtw → g' = g) := by
  have hmodify : ∀ {f : Gtw → Gtw} {gtw' : ℕ}, (∀ g, (f g).client.gatewayID = g.client.gatewayID) →
      e.target = some gtw' → ∃ g', (t.modify gtw' f).gtws[gtw]? = some g' ∧
        g'.client.gatewayID = g.client.gatewayID ∧ (e ≠ .tick → e.target ≠ some gtw → g' = g) := by
    intro f gtw' hf ht
    rw [TtnState.modify, List.getElem?_modify, hg]
    by_cases he : gtw' = gtw
    · subst he
      exact ⟨f g, by simp, hf g, fun _ hne => absurd ht hne⟩
    · exact ⟨g, by simp [he], rfl, fun _ _ => rfl⟩
  cases h with
  | keep => exact ⟨g, hg, rfl, fun _ _ => rfl⟩
  | openStream gtw => exact ⟨g, hg, rfl, fun _ _ => rfl⟩
  | closeStream gtw st _ => exact ⟨g, hg, rfl, fun _ _ => rfl⟩
  | newGtw mac _ =>
    refine ⟨g, ?_, rfl, fun _ _ => rfl⟩
    rw [List.getElem?_append_left (List.getElem?_eq_some_iff.mp hg).1]
    exact hg
  | setDownlink gtw st => exact hmodify (fun _ => rfl) rfl
  | modify gtw f ht hf => exact hmodify (fun g => (hf g).2) ht
  | tick => exact ⟨{ g with rxRate := g.rxRate.tick }, by simp [hg], rfl, fun hne => absurd rfl hne⟩

/-- All that happens to the map: a MAC that has no `gtw` may get one. -/
def Joins (t t' : TtnState) : Prop :=
  (t'.gateways = t.gateways ∧ t'.gtws.length = t.gtws.length) ∨
    ∃ mac, t.gateways.lookup mac = none ∧ t'.gateways = t.gateways.insert mac t.gtws.length ∧
      t'.gtws.length = t.gtws.length + 1

theorem Change.joins (h : Change cfg t e t') : Joins t t' := by
  rcases h.gateways with hkept | ⟨mac, -, hnew, hg, hgtws⟩
  · exact .inl hkept
  · exact .inr ⟨mac, hnew, hg, by rw [hgtws, List.length_append, List.length_singleton]⟩

/-- A MAC keeps its `gtw`. -/
theorem Joins.lookup (h : Joins t t') (hl : t.gateways.lookup mac = some gtw) :
    t'.gateways.lookup mac = some gtw := by
  rcases h with ⟨hg, -⟩ | ⟨mac', hnew, hg, -⟩
  · rw [hg]
    exact hl
  · have hne : mac ≠ mac' := by
      intro he
      rw [he, hnew] at hl
      cases hl
    rw [hg, Finmap.lookup_insert_of_ne _ hne]
    exact hl

theorem Joins.lookup_cases (h : Joins t t') (hl : t'.gateways.lookup mac = some gtw) :
    t.gateways.lookup mac = some gtw ∨
      t'.gateways = t.gateways.insert mac t.gtws.length ∧ gtw = t.gtws.length ∧ gtw < t'.gtws.length := by
  rcases h with ⟨hg, -⟩ | ⟨mac', hnew, hg, hlen⟩
  · rw [hg] at hl
    exact .inl hl
  · by_cases hm : mac = mac'
    · subst hm
      rw [hg, Finmap.lookup_insert, Option.some.injEq] at hl
      subst hl
      exact .inr ⟨hg, rfl, by omega⟩
    · rw [hg, Finmap.lookup_insert_of_ne _ hm] at hl
      exact .inl hl

theorem Joins.length_le (h : Joins t t') : t.gtws.length ≤ t'.gtws.length := by
  rcases h with ⟨-, hlen⟩ | ⟨_, _, _, hlen⟩ <;> omega

theorem Joins.lt_length (h : Joins t t')
    (hlt : ∀ mac gtw, t.gateways.lookup mac = some gtw → gtw < t.gtws.length) (mac : EUI64) (gtw : ℕ)
    (hl : t'.gateways.lookup mac = some gtw) : gtw < t'.gtws.length := by
  rcases h.lookup_cases hl with hl | ⟨-, -, hnew⟩
  · exact Nat.lt_of_lt_of_le (hlt mac gtw hl) h.length_le
  · exact hnew

theorem Joins.inj (h : Joins t t')
    (hlt : ∀ mac gtw, t.gateways.lookup mac = some gtw → gtw < t.gtws.length)
    (hinj : ∀ mac mac' gtw, t.gateways.lookup mac = some gtw → t.gateways.lookup mac' = some gtw → mac = mac')
    (mac mac' : EUI64) (gtw : ℕ) (hl : t'.gateways.lookup mac = some gtw)
    (hl' : t'.gateways.lookup mac' = some gtw) : mac = mac' := by
  rcases h.lookup_cases hl with hl₀ | ⟨hins, hgtw, -⟩
  · rcases h.lookup_cases hl' with hl₀' | ⟨-, hgtw, -⟩
    · exact hinj mac mac' gtw hl₀ hl₀'
    · exact absurd (hlt mac gtw hl₀) (by omega)
  · -- the new `gtw` is that of one MAC, the other would have had it before
    by_contra hne
    rw [hins, Finmap.lookup_insert_of_ne _ fun he => hne he.symm] at hl'
    exact absurd (hlt mac' gtw hl') (by omega)

/-- A stream stays with the `gtw` it was opened for, and is open or closed as it was, unless it is closed
now. -/
theorem Change.stream {stream : DownlinkStream} (h : Change cfg t e t')
    (hs : t.streams[st]? = some stream) :
    ∃ stream', t'.streams[st]? = some stream' ∧ stream'.gtw = stream.gtw ∧
      (stream' = stream ∨
        stream'.isOpen = false ∧ ∃ gtw, e = .closeDownlink gtw ∧ t.downlink gtw = some st) := by
  cases h with
  | keep => exact ⟨stream, hs, rfl, .inl rfl⟩
  | newGtw mac _ => exact ⟨stream, hs, rfl, .inl rfl⟩
  | setDownlink gtw st' => exact ⟨stream, hs, rfl, .inl rfl⟩
  | modify gtw f _ _ => exact ⟨stream, hs, rfl, .inl rfl⟩
  | tick => exact ⟨stream, hs, rfl, .inl rfl⟩
  | openStream gtw =>
    refine ⟨stream, ?_, rfl, .inl rfl⟩
    rw [streams_openStream_of_lt (List.getElem?_eq_some_iff.mp hs).1]
    exact hs
  | closeStream gtw st' hd =>
    by_cases he : st' = st
    · subst he
      refine ⟨{ stream with isOpen := false }, ?_, rfl, .inr ⟨rfl, gtw, rfl, hd⟩⟩
      rw [streams_closeStream_self, hs]
      rfl
    · exact ⟨stream, (streams_closeStream_of_ne he).trans hs, rfl, .inl rfl⟩

theorem Change.streams_length_le (h : Change cfg t e t') : t.streams.length ≤ t'.streams.length := by
  cases h with
  | openStream gtw => simp [TtnState.openStream]
  | closeStream gtw st _ => simp [TtnState.closeStream]
  | _ => exact le_rfl

/-- A stream was there before, or is the one that was opened. -/
theorem Change.stream_cases {stream : DownlinkStream} (h : Change cfg t e t')
    (hs : t'.streams[st]? = some stream) :
    (∃ stream₀, t.streams[st]? = some stream₀) ∨ e = .newDownlinkStream stream.gtw := by
  have hold : t'.streams.length = t.streams.length → ∃ stream₀, t.streams[st]? = some stream₀ := by
    intro hlen
    have hlt := (List.getElem?_eq_some_iff.mp hs).1
    exact ⟨_, List.getElem?_eq_getElem (hlen ▸ hlt)⟩
  cases h with
  | keep => exact .inl (hold rfl)
  | newGtw mac _ => exact .inl (hold rfl)
  | setDownlink gtw st' => exact .inl (hold rfl)
  | modify gtw f _ _ => exact .inl (hold rfl)
  | tick => exact .inl (hold rfl)
  | closeStream gtw st' _ => exact .inl (hold (List.length_modify _ _ _))
  | openStream gtw =>
    rw [TtnState.openStream, List.getElem?_append] at hs
    split_ifs at hs with hlt
    · exact .inl ⟨stream, hs⟩
    · rw [List.getElem?_singleton] at hs
      split_ifs at hs
      cases hs
      exact .inr rfl

/-- A `gtw` has the stream it had, or the one assigned. -/
theorem Change.downlink (h : Change cfg t e t') (gtw : ℕ) :
    t'.downlink gtw = t.downlink gtw ∨ ∃ st, e = .setDownlink gtw st ∧ t'.downlink gtw = some st := by
  cases h with
  | keep => exact .inl rfl
  | openStream gtw' => exact .inl rfl
  | closeStream gtw' st _ => exact .inl rfl
  | newGtw mac _ =>
    left
    rw [TtnState.downlink, TtnState.downlink, List.getElem?_append]
    split_ifs with hlt
    · rfl
    · rw [List.getElem?_eq_none (Nat.le_of_not_lt hlt), List.getElem?_singleton]
      split_ifs <;> rfl
  | setDownlink gtw' st =>
    simp only [TtnState.downlink, TtnState.modify, List.getElem?_modify]
    cases t.gtws[gtw]? with
    | none => exact .inl rfl
    | some g =>
      by_cases he : gtw' = gtw
      · subst he
        exact .inr ⟨st, rfl, by simp⟩
      · exact .inl (by simp [he])
  | modify gtw' f _ hf =>
    left
    simp only [TtnState.downlink, TtnState.modify, List.getElem?_modify]
    cases t.gtws[gtw]? with
    | none => rfl
    | some g => by_cases he : gtw' = gtw <;> simp [he, (hf g).1]
  | tick =>
    left
    simp only [TtnState.downlink, List.getElem?_map]
    cases t.gtws[gtw]? <;> rfl

/-! ### What a call works on -/

/-- The call works on `gtw`: it is that of its MAC, or the one it was started with. -/
def TtnCall.Holds (l : TtnCall) (gtw : ℕ) (t : TtnState) : Prop :=
  l = .findConf gtw ∨ ∃ mac, l.mac = some mac ∧ t.gateways.lookup mac = some gtw

/-- The states in which a call performs an effect: it works on its own `gtw`, assigns a stream that was
opened for it, and sends the uplink it was called with. -/
def TtnCall.Guar (l : TtnCall) : TtnEff → TtnState → Prop
  | .getGtw mac, _ => l.mac = some mac
  | .newGtw mac, _ => l.mac = some mac
  | .tick, _ => l = .tick
  | .now, _ => True
  | .setDownlink gtw st, t => l.Holds gtw t ∧ ∃ b, t.streams[st]? = some ⟨gtw, b⟩
  | .uplinkSend gtw message, t => l.Holds gtw t ∧
      ∃ mac rxPacket now, l = .publishRX mac rxPacket ∧ message = convertRXPacket now rxPacket
  | .newDownlinkStream gtw, t => l.Holds gtw t
  | .downlink gtw, t => l.Holds gtw t
  | .closeDownlink gtw, t => l.Holds gtw t
  | .rxRateUpdate gtw _, t => l.Holds gtw t
  | .rxRate gtw, t => l.Holds gtw t
  | .conf gtw, t => l.Holds gtw t
  | .findGateway gtw, t => l.Holds gtw t
  | .configure gtw _, t => l.Holds gtw t
  | .statusSend gtw _, t => l.Holds gtw t

/-- Whatever the others do. -/
def anyone (l : TtnCall) : Interference TtnState TtnEff where
  free _ := True
  guar := l.Guar

variable {l : TtnCall} {r : e.Resp}

theorem TtnCall.Guar.holds (h : l.Guar e t) (ht : e.target = some gtw) : l.Holds gtw t := by
  cases e with
  | setDownlink gtw' st =>
    cases ht
    exact h.1
  | uplinkSend gtw' message =>
    cases ht
    exact h.1
  | getGtw mac => cases ht
  | newGtw mac => cases ht
  | tick => cases ht
  | now => cases ht
  | _ =>
    cases ht
    exact h

theorem stable_holds (l : TtnCall) (gtw : ℕ) : (anyone l).Stable (ttnSem cfg) (l.Holds gtw) := by
  intro e t r t' _ hs hl
  rcases hl with hl | ⟨mac, hmac, hl⟩
  · exact .inl hl
  · exact .inr ⟨mac, hmac, (change_of_ttnSem hs).joins.lookup hl⟩

theorem stable_stream (l : TtnCall) (gtw st : ℕ) :
    (anyone l).Stable (ttnSem cfg) fun t => l.Holds gtw t ∧ ∃ b, t.streams[st]? = some ⟨gtw, b⟩ := by
  rintro e t r t' hfree hs ⟨hl, b, hst⟩
  refine ⟨stable_holds l gtw e t r t' hfree hs hl, ?_⟩
  obtain ⟨⟨gtw', b'⟩, hst', hgtw, -⟩ := (change_of_ttnSem hs).stream hst
  cases hgtw
  exact ⟨b', hst'⟩

theorem safe_on {α : Type} {Q : α → TtnState → Prop} {k : e.Resp → TtnProg α}
    (he : ∀ t, l.Holds gtw t → l.Guar e t) (h : l.Holds gtw t)
    (hk : ∀ r t', l.Holds gtw t' → (k r).Safe (ttnSem cfg) (anyone l) Q t') :
    (eff e k).Safe (ttnSem cfg) (anyone l) Q t := by
  refine safe_eff (stable_holds l gtw) h fun t₁ h₁ => ⟨he t₁ h₁, fun r t' hs => ?_⟩
  exact hk r t' (stable_holds l gtw e t₁ r t' trivial hs h₁)

theorem safe_done (t : TtnState) : (ret (.ok ()) : TtnProg (Except GwError Unit)).Safe (ttnSem cfg) (anyone l)
    (fun _ _ => True) t := fun _ _ => trivial

/-- A call works on the `gtw` of its MAC. -/
theorem safe_session_of_mac (hl : l.mac = some mac) (t : TtnState) :
    (session mac).Safe (ttnSem cfg) (anyone l) l.Holds t := by
  intro t₁ _
  refine ⟨hl, fun r t' hs => ?_⟩
  obtain ⟨rfl, rfl⟩ := hs
  cases hlookup : t'.gateways.lookup mac with
  | some gtw => exact safe_ret (stable_holds l gtw) (.inr ⟨mac, hl, hlookup⟩)
  | none =>
    intro t₂ _
    refine ⟨hl, fun gtw t' hs => ?_⟩
    exact safe_ret (stable_holds l gtw) (.inr ⟨mac, hl, (newGtw_cases hs).2⟩)

theorem safe_subscribe_of_mac (hl : l.mac = some mac) (t : TtnState) :
    (subscribeGatewayTX mac).Safe (ttnSem cfg) (anyone l) (fun _ _ => True) t := by
  refine (safe_session_of_mac hl t).bind fun gtw t₁ h₁ => ?_
  refine safe_eff (stable_holds l gtw) h₁ fun t₂ h₂ => ⟨h₂, fun st t' hs => ?_⟩
  obtain ⟨rfl, rfl⟩ := hs
  refine safe_eff (stable_stream l gtw _) ⟨h₂, true, streams_openStream_self⟩ fun t₃ h₃ => ⟨h₃, fun _ t' _ => ?_⟩
  exact safe_done t'

theorem safe_unSubscribe_of_mac (hl : l.mac = some mac) (t : TtnState) :
    (unSubscribeGatewayTX mac).Safe (ttnSem cfg) (anyone l) (fun _ _ => True) t := by
  intro t₁ _
  refine ⟨hl, fun r t' hs => ?_⟩
  obtain ⟨rfl, rfl⟩ := hs
  cases hlookup : t'.gateways.lookup mac with
  | none => exact safe_done t'
  | some gtw =>
    refine safe_on (fun _ h => h) (.inr ⟨mac, hl, hlookup⟩) fun downlink t₂ h₂ => ?_
    cases downlink with
    | none => exact safe_done t₂
    | some st => exact safe_on (fun _ h => h) h₂ fun _ t₃ _ => safe_done t₃

theorem safe_overRate (h : l.Holds gtw t) :
    (overRate cfg gtw).Safe (ttnSem cfg) (anyone l) (fun _ => l.Holds gtw) t := by
  unfold overRate
  split_ifs
  · exact safe_on (fun _ h => h) h fun _ _ h₁ => safe_ret (stable_holds l gtw) h₁
  · exact safe_ret (stable_holds l gtw) h

theorem safe_publishRX (mac : EUI64) (rxPacket : RXPacketBytes) (t : TtnState) :
    (publishGatewayRX cfg mac rxPacket).Safe (ttnSem cfg) (anyone (.publishRX mac rxPacket))
      (fun _ _ => True) t := by
  refine (safe_session_of_mac rfl t).bind fun gtw t₁ h₁ => ?_
  refine safe_on (fun _ h => h) h₁ fun _ t₂ h₂ => ?_
  refine (safe_overRate h₂).bind fun limited t₃ h₃ => ?_
  cases limited with
  | true => exact safe_done t₃
  | false =>
    refine safe_on (fun _ _ => trivial) h₃ fun now t₄ h₄ => ?_
    exact safe_on (fun _ h => ⟨h, mac, rxPacket, now, rfl, rfl⟩) h₄ fun _ t₅ _ => safe_done t₅

theorem safe_publishStats_of_mac (hl : l.mac = some mac) (stats : GatewayStatsPacket) (t : TtnState) :
    (publishGatewayStats cfg mac stats).Safe (ttnSem cfg) (anyone l) (fun _ _ => True) t := by
  refine (safe_session_of_mac hl t).bind fun gtw t₁ h₁ => ?_
  refine safe_on (fun _ h => h) h₁ fun conf t₂ h₂ => ?_
  cases conf with
  | none => exact safe_on (fun _ h => h) h₂ fun _ t₃ _ => safe_done t₃
  | some conf => exact safe_on (fun _ h => h) h₂ fun _ t₃ _ => safe_done t₃

theorem safe_findConf (gtw : ℕ) (t : TtnState) :
    (findConf gtw).Safe (ttnSem cfg) (anyone (.findConf gtw)) (fun _ _ => True) t := by
  refine safe_on (fun _ h => h) (.inl rfl) fun settings t₁ h₁ => ?_
  cases settings with
  | none => exact safe_done t₁
  | some settings => exact safe_on (fun _ h => h) h₁ fun _ t₂ _ => safe_done t₂

/-- **Every call works on its own `gtw` only**, whatever the others do. -/
theorem safe_body (l : TtnCall) (t : TtnState) :
    (l.body cfg).Safe (ttnSem cfg) (anyone l) (fun _ _ => True) t := by
  cases l with
  | subscribe mac => exact safe_subscribe_of_mac rfl t
  | unSubscribe mac => exact safe_unSubscribe_of_mac rfl t
  | publishRX mac rxPacket => exact safe_publishRX mac rxPacket t
  | publishStats mac stats => exact safe_publishStats_of_mac rfl stats t
  | findConf gtw => exact safe_findConf gtw t
  | tick => exact fun t₁ _ => ⟨rfl, fun _ t' _ => safe_done t'⟩

theorem target_session {tr : List (Event TtnEff TtnEff.Resp)} {q : TtnProg ℕ} (h : Exec (session mac) tr q) :
    ∀ ev ∈ tr, ev.1.target = none := by
  have huses : (session mac).Uses fun e => e.target = none := uses_session rfl rfl
  exact (huses.exec h).1

/-! ### The invariants -/

/-- The `gtw`s made so far are those of the MACs, one each. -/
structure Sessions (t : TtnState) : Prop where
  /-- The `gtw` of a MAC exists. -/
  lt_length : ∀ mac gtw, t.gateways.lookup mac = some gtw → gtw < t.gtws.length
  /-- Two MACs do not share a `gtw`. -/
  inj : ∀ mac mac' gtw, t.gateways.lookup mac = some gtw → t.gateways.lookup mac' = some gtw → mac = mac'
  /-- Every `gtw` is that of a MAC. -/
  owner : ∀ gtw < t.gtws.length, ∃ mac, t.gateways.lookup mac = some gtw

theorem sessions_empty : Sessions {} where
  lt_length mac gtw hl := by simp at hl
  inj mac mac' gtw hl := by simp at hl
  owner gtw hlt := by simp at hlt

/-- **Every effect keeps one `gtw` for each MAC.** -/
theorem Sessions.change (h : Sessions t) (hc : Change cfg t e t') : Sessions t' where
  lt_length := hc.joins.lt_length h.lt_length
  inj := hc.joins.inj h.lt_length h.inj
  owner gtw hlt := by
    rcases Nat.lt_or_ge gtw t.gtws.length with hold | hnew
    · obtain ⟨mac, hl⟩ := h.owner gtw hold
      exact ⟨mac, hc.joins.lookup hl⟩
    · rcases hc.joins with ⟨-, hlen⟩ | ⟨mac, -, hg, hlen⟩
      · omega
      · have heq : gtw = t.gtws.length := by omega
        exact ⟨mac, by rw [hg, heq, Finmap.lookup_insert]⟩

/-- The stream in the `downlink` of a `gtw` was opened for it. -/
def Owned (t : TtnState) : Prop := ∀ gtw st, t.downlink gtw = some st → ∃ b, t.streams[st]? = some ⟨gtw, b⟩

/-- A stream is in the `downlink` of one `gtw` only. -/
theorem Owned.eq {gtw' : ℕ} {stream : DownlinkStream} (h : Owned t) (hd : t.downlink gtw' = some st)
    (hs : t.streams[st]? = some stream) : gtw' = stream.gtw := by
  obtain ⟨b, hb⟩ := h gtw' st hd
  cases hb.symm.trans hs
  rfl

/-- Of a `gtw` that is not worked on no stream is opened or closed. -/
theorem Owned.streams_iff (h : Owned t) (hc : Change cfg t e t') (ht : e.target ≠ some gtw) (st : ℕ) (b : Bool) :
    t'.streams[st]? = some ⟨gtw, b⟩ ↔ t.streams[st]? = some ⟨gtw, b⟩ := by
  have hkept : ∀ stream, t.streams[st]? = some stream → stream.gtw = gtw → t'.streams[st]? = some stream := by
    intro stream hs hgtw
    obtain ⟨stream', hs', -, rfl | ⟨-, gtw', rfl, hd⟩⟩ := hc.stream hs
    · exact hs'
    · exact absurd (congrArg some ((h.eq hd hs).trans hgtw)) ht
  constructor
  · intro hs'
    rcases hc.stream_cases hs' with ⟨stream, hs⟩ | rfl
    · obtain ⟨stream', hs'', hgtw, -⟩ := hc.stream hs
      cases hs''.symm.trans hs'
      cases (hkept stream hs hgtw.symm).symm.trans hs'
      exact hs
    · exact absurd rfl ht
  · intro hs
    exact hkept _ hs rfl

theorem Owned.change (h : Owned t) (hc : Change cfg t e t') (hg : l.Guar e t) : Owned t' := by
  intro gtw st hd
  have hopened : ∃ b, t.streams[st]? = some ⟨gtw, b⟩ := by
    rcases hc.downlink gtw with hkept | ⟨st', rfl, hset⟩
    · exact h gtw st (hkept.symm.trans hd)
    · cases hset.symm.trans hd
      exact hg.2
  obtain ⟨b, hst⟩ := hopened
  obtain ⟨⟨gtw', b'⟩, hst', hgtw, -⟩ := hc.stream hst
  cases hgtw
  exact ⟨b', hst'⟩

/-- The stream `st` was opened for the gateway `mac`. -/
def StreamOf (t : TtnState) (mac : EUI64) (st : ℕ) : Prop :=
  ∃ gtw b, t.gateways.lookup mac = some gtw ∧ t.streams[st]? = some ⟨gtw, b⟩

/-- No effect takes a stream from its gateway. -/
theorem StreamOf.change (h : StreamOf t mac st) (hc : Change cfg t e t') : StreamOf t' mac st := by
  obtain ⟨gtw, b, hl, hst⟩ := h
  obtain ⟨⟨gtw', b'⟩, hst', hgtw, -⟩ := hc.stream hst
  cases hgtw
  exact ⟨gtw, b', hc.joins.lookup hl, hst'⟩

/-! ### Runs -/

variable {ok : TtnCfg → Move TtnCall TtnEff → Prop} {h : List TtnEntry} {c : TtnCfg}

theorem guar_backend (hr : Run (backend cfg) ok {} h c) :
    ∀ en ∈ h, ∃ l, c.call en.tid = some l ∧ l.Guar en.event.1 en.pre :=
  (hr.guar (fun _ _ => trivial) fun l t _ => safe_body l t).2

/-- A call performs its effects where it is meant to. -/
theorem guar_of_call (hr : Run (backend cfg) ok {} h c) {en : TtnEntry} (hen : en ∈ h)
    (hl : c.call en.tid = some l) : l.Guar en.event.1 en.pre := by
  obtain ⟨l', hl', hguar⟩ := guar_backend hr en hen
  cases hl.symm.trans hl'
  exact hguar

theorem change_of_mem (hr : Run (backend cfg) ok {} h c) {en : TtnEntry} (hen : en ∈ h) :
    Change cfg en.pre en.event.1 en.post := change_of_ttnSem (hr.linked.sem_of_mem hen)

theorem sessions_of_mem (hr : Run (backend cfg) ok {} h c) : ∀ en ∈ h, Sessions en.pre :=
  hr.linked.invariant_pre sessions_empty fun _ hen hpre => hpre.change (change_of_mem hr hen)

theorem sessions_backend (hr : Run (backend cfg) ok {} h c) : Sessions c.shared :=
  hr.linked.invariant_of_mem sessions_empty fun _ hen hpre => hpre.change (change_of_mem hr hen)

theorem owned_empty : Owned {} := by
  intro gtw st hd
  simp [TtnState.downlink] at hd

theorem owned_step (hr : Run (backend cfg) ok {} h c) : ∀ en ∈ h, Owned en.pre → Owned en.post := by
  intro en hen hpre
  obtain ⟨l, -, hguar⟩ := guar_backend hr en hen
  exact hpre.change (change_of_mem hr hen) hguar

theorem owned_of_mem (hr : Run (backend cfg) ok {} h c) : ∀ en ∈ h, Owned en.pre :=
  hr.linked.invariant_pre owned_empty (owned_step hr)

theorem owned_backend (hr : Run (backend cfg) ok {} h c) : Owned c.shared :=
  hr.linked.invariant_of_mem owned_empty (owned_step hr)

/-- Nobody loses its `gtw`. -/
def Keeps (t t' : TtnState) : Prop :=
  ∀ mac gtw, t.gateways.lookup mac = some gtw → t'.gateways.lookup mac = some gtw

/-- A MAC keeps its `gtw` from any effect to any later one, and to the present state. -/
theorem keeps_backend (hr : Run (backend cfg) ok {} h c) :
    (h.Pairwise fun en en' => Keeps en.post en'.pre) ∧ ∀ en ∈ h, Keeps en.post c.shared :=
  hr.linked.pairwise_rel (fun _ _ _ hl => hl) (fun h₁ h₂ mac gtw hl => h₂ mac gtw (h₁ mac gtw hl))
    fun _ _ _ _ hs _ _ hl => (change_of_ttnSem hs).joins.lookup hl

/-- The `gtw` that a MAC has when an effect is performed, it has at present. -/
theorem keeps_pre (hr : Run (backend cfg) ok {} h c) {en : TtnEntry} (hen : en ∈ h) :
    Keeps en.pre c.shared := by
  intro mac gtw hl
  exact (keeps_backend hr).2 en hen mac gtw ((change_of_mem hr hen).joins.lookup hl)

/-! ### The result -/

/-- The effect makes a `gtw` for `mac`. -/
def Makes (mac : EUI64) (en : TtnEntry) : Prop :=
  en.event.1 = .newGtw mac ∧ en.pre.gtws.length < en.post.gtws.length

/-- The call is for `mac`; the goroutine of `newGtw` is for the MAC of the `gtw` it was started with. -/
def TtnCall.For (l : TtnCall) (t : TtnState) (mac : EUI64) : Prop :=
  l.mac = some mac ∨ ∃ gtw, l = .findConf gtw ∧ t.gateways.lookup mac = some gtw

/-- The `gtw` of a MAC, with its streams, is as it was; or the MAC had none and has none. -/
structure Untouched (mac : EUI64) (t t' : TtnState) : Prop where
  /-- It is the same one. -/
  lookup : t'.gateways.lookup mac = t.gateways.lookup mac
  /-- None of its fields changed. -/
  gtws : ∀ gtw : ℕ, t.gateways.lookup mac = some gtw → t'.gtws[gtw]? = t.gtws[gtw]?
  /-- None of its downlink streams was opened or closed. -/
  streams : ∀ (gtw st : ℕ) (b : Bool), t.gateways.lookup mac = some gtw →
    (t'.streams[st]? = some ⟨gtw, b⟩ ↔ t.streams[st]? = some ⟨gtw, b⟩)

theorem makes_of_change {en : TtnEntry} (hc : Change cfg en.pre en.event.1 en.post) :
    en.post.gtws.length = en.pre.gtws.length ∨
      ∃ mac, Makes mac en ∧ en.pre.gateways.lookup mac = none ∧
        en.post.gateways.lookup mac = some en.pre.gtws.length := by
  rcases hc.gateways with ⟨-, hlen⟩ | ⟨mac, he, hnew, hg, hgtws⟩
  · exact .inl hlen
  · refine .inr ⟨mac, ⟨he, ?_⟩, hnew, by rw [hg, Finmap.lookup_insert]⟩
    rw [hgtws, List.length_append, List.length_singleton]
    exact Nat.lt_succ_self _

/-- A `gtw` is made for a MAC that has none, and the MAC has it then. -/
theorem Makes.lookup {en : TtnEntry} (h : Makes mac en) (hc : Change cfg en.pre en.event.1 en.post) :
    en.pre.gateways.lookup mac = none ∧ ∃ gtw, en.post.gateways.lookup mac = some gtw := by
  rcases makes_of_change hc with hlen | ⟨mac', hmakes, hnone, hsome⟩
  · exact absurd h.2 (by omega)
  · have he : mac' = mac := by
      have := hmakes.1.symm.trans h.1
      cases this
      rfl
    subst he
    exact ⟨hnone, _, hsome⟩

/-- An effect on other `gtw`s leaves the `gtw` of a MAC alone. -/
theorem untouched_of_change (hc : Change cfg t e t') (howned : Owned t) (htick : e ≠ .tick)
    (hnew : e ≠ .newGtw mac) (htarget : ∀ gtw, t.gateways.lookup mac = some gtw →
      gtw < t.gtws.length ∧ e.target ≠ some gtw) : Untouched mac t t' where
  lookup := by
    rcases hc.gateways with ⟨hg, -⟩ | ⟨mac', he, -, hg, -⟩
    · rw [hg]
    · have hne : mac ≠ mac' := by
        intro hm
        subst hm
        exact hnew he
      rw [hg, Finmap.lookup_insert_of_ne _ hne]
  gtws gtw hl := by
    obtain ⟨hlt, ht⟩ := htarget gtw hl
    have hg := List.getElem?_eq_getElem hlt
    obtain ⟨g', hg', -, hsame⟩ := hc.getElem? hg
    rw [hg', hg, hsame htick ht]
  streams gtw st b hl := howned.streams_iff hc (htarget gtw hl).2 st b

/-- No two effects make a `gtw` for the same MAC: the second would find the first one. -/
theorem makes_once (hr : Run (backend cfg) ok {} h c) (mac : EUI64) :
    h.Pairwise fun en en' => ¬ (Makes mac en ∧ Makes mac en') := by
  refine (keeps_backend hr).1.imp_of_mem fun {en en'} hen hen' hkeep hmakes => ?_
  obtain ⟨-, gtw, hl⟩ := hmakes.1.lookup (change_of_mem hr hen)
  have hnone := (hmakes.2.lookup (change_of_mem hr hen')).1
  rw [hkeep mac gtw hl] at hnone
  cases hnone

/-- The calls for a MAC work on its `gtw`. -/
theorem lookup_of_target (hr : Run (backend cfg) ok {} h c) {en : TtnEntry} (hen : en ∈ h)
    (hl : c.call en.tid = some l) (hfor : l.For c.shared mac) (htarget : en.event.1.target = some gtw) :
    c.shared.gateways.lookup mac = some gtw := by
  rcases (guar_of_call hr hen hl).holds htarget with rfl | ⟨mac', hmac', hlookup⟩
  · rcases hfor with hmac | ⟨gtw', hgtw', hlookup⟩
    · cases hmac
    · cases hgtw'
      exact hlookup
  · rcases hfor with hmac | ⟨gtw', rfl, -⟩
    · cases hmac.symm.trans hmac'
      exact keeps_pre hr hen mac gtw hlookup
    · cases hmac'

/-- A method works on the `gtw` that its MAC has then. -/
theorem lookup_of_entry (hr : Run (backend cfg) ok {} h c) {i : ℕ} {p : TtnProg (Except GwError Unit)}
    (ht : c.threads[i]? = some ⟨l, p⟩) (hmac : l.mac = some mac) {en : TtnEntry} (hen : en ∈ h)
    (htid : en.tid = i) (htarget : en.event.1.target = some gtw) : en.pre.gateways.lookup mac = some gtw := by
  have hcall : c.call en.tid = some l := by
    rw [htid, Cfg.call, ht]
    rfl
  rcases (guar_of_call hr hen hcall).holds htarget with rfl | ⟨mac', hmac', hl⟩
  · cases hmac
  · cases hmac.symm.trans hmac'
    exact hl

/-- A call for one MAC leaves the `gtw` of another alone. -/
theorem untouched_of_call (hr : Run (backend cfg) ok {} h c) {en : TtnEntry} (hen : en ∈ h)
    (hl : c.call en.tid = some l) (htick : l ≠ .tick) (hfor : ¬ l.For c.shared mac) :
    Untouched mac en.pre en.post := by
  have hguar := guar_of_call hr hen hl
  have hsessions := sessions_of_mem hr en hen
  refine untouched_of_change (change_of_mem hr hen) (owned_of_mem hr en hen) ?_ ?_ fun gtw hlookup => ?_
  · intro he
    rw [he] at hguar
    exact htick hguar
  · intro he
    rw [he] at hguar
    exact hfor (.inl hguar)
  · refine ⟨hsessions.lt_length mac gtw hlookup, fun htarget => hfor ?_⟩
    rcases hguar.holds htarget with rfl | ⟨mac', hmac', hlookup'⟩
    · exact .inr ⟨gtw, rfl, keeps_pre hr hen mac gtw hlookup⟩
    · rw [hsessions.inj mac mac' gtw hlookup hlookup']
      exact .inl hmac'

/-- **One session for each gateway.** In every run of the backend, whatever calls interleave: at most one
`gtw` is made for a MAC, and every `gtw` made is that of one MAC; the calls for a MAC all work on the same
`gtw`; a MAC keeps its `gtw` for ever; and a call for one MAC leaves the `gtw` of another alone. -/
theorem one_session_per_gateway (hr : Run (backend cfg) ok {} h c) :
    ((∀ mac, h.Pairwise fun en en' => ¬ (Makes mac en ∧ Makes mac en')) ∧
      (∀ en ∈ h, en.post.gtws.length = en.pre.gtws.length ∨ ∃ mac, Makes mac en) ∧
      ∀ gtw < c.shared.gtws.length, ∃! mac, c.shared.gateways.lookup mac = some gtw) ∧
    (∀ en ∈ h, ∀ l mac gtw, c.call en.tid = some l → l.For c.shared mac → en.event.1.target = some gtw →
      c.shared.gateways.lookup mac = some gtw) ∧
    (∀ en ∈ h, ∀ mac gtw, en.pre.gateways.lookup mac = some gtw →
      en.post.gateways.lookup mac = some gtw ∧ c.shared.gateways.lookup mac = some gtw) ∧
    ∀ en ∈ h, ∀ l mac, c.call en.tid = some l → l ≠ .tick → ¬ l.For c.shared mac →
      Untouched mac en.pre en.post := by
  refine ⟨⟨makes_once hr, fun en hen => ?_, fun gtw hlt => ?_⟩, ?_, ?_, ?_⟩
  · rcases makes_of_change (change_of_mem hr hen) with hlen | ⟨mac, hmakes, -⟩
    · exact .inl hlen
    · exact .inr ⟨mac, hmakes⟩
  · obtain ⟨mac, hl⟩ := (sessions_backend hr).owner gtw hlt
    exact ⟨mac, hl, fun mac' hl' => (sessions_backend hr).inj mac' mac gtw hl' hl⟩
  · intro en hen l mac gtw hl hfor htarget
    exact lookup_of_target hr hen hl hfor htarget
  · intro en hen mac gtw hl
    exact ⟨(change_of_mem hr hen).joins.lookup hl, keeps_pre hr hen mac gtw hl⟩
  · intro en hen l mac hl htick hfor
    exact untouched_of_call hr hen hl htick hfor

/-! ### A run -/

/-- A bridge without an account server. -/
def sampleSettings : Settings where
  accountServer := false
  rxRateLimit := 10
  gatewayConf := ∅
  gatewayStatus := {}
  alpha := 2 / 25

/-- The backend once it knows one gateway. -/
def sampleTtn : TtnState := (TtnState.newGtw sampleSettings sampleMAC {}).2

theorem newGtw_sample : ttnSem sampleSettings (.newGtw sampleMAC) {} (0 : ℕ) sampleTtn := rfl

/-- An uplink at SF7. -/
def sampleUplink : RXPacketBytes where
  rxInfo := {
    mac := sampleMAC, time := 0, timestamp := 0, frequency := 868100000, channel := 0, rfChain := 0
    crcStatus := 1, codeRate := str "4/5", rssi := -51, loRaSNR := 7, size := 4
    dataRate := { modulation := loRaModulation, spreadFactor := 7, bandwidth := 125 } }
  phyPayload := [1, 2, 3, 4]

/-- An uplink and a subscription that both find the gateway missing: both ask for a `gtw`, and one is
made. -/
theorem one_session_for_two :
    ∃ h c, Run (backend sampleSettings) (fun _ _ => True) {} h c ∧
      (∃ en ∈ h, ∃ en' ∈ h, en.tid ≠ en'.tid ∧ en.event.1 = .newGtw sampleMAC ∧
        en'.event.1 = .newGtw sampleMAC) ∧
      h.Pairwise fun en en' => ¬ (Makes sampleMAC en ∧ Makes sampleMAC en') := by
  have r₀ : Run (backend sampleSettings) (fun _ _ => True) {} [] ⟨{}, []⟩ := .init
  have r₁ := r₀.start (TtnCall.publishRX sampleMAC sampleUplink) trivial trivial
  have r₂ := r₁.start (TtnCall.subscribe sampleMAC) trivial trivial
  have r₃ : Run (backend sampleSettings) _ _ _ ⟨{}, _⟩ :=
    r₂.act (i := 0) (e := TtnEff.getGtw sampleMAC) (r := none) rfl ⟨rfl, rfl⟩ trivial
  have r₄ : Run (backend sampleSettings) _ _ _ ⟨{}, _⟩ :=
    r₃.act (i := 1) (e := TtnEff.getGtw sampleMAC) (r := none) rfl ⟨rfl, rfl⟩ trivial
  have hmade : (backend sampleSettings).sem (.newGtw sampleMAC) {} (0 : ℕ) sampleTtn := rfl
  have hfound : (backend sampleSettings).sem (.newGtw sampleMAC) sampleTtn (0 : ℕ) sampleTtn := rfl
  have r₅ : Run (backend sampleSettings) _ _ _ ⟨sampleTtn, _⟩ :=
    r₄.act (i := 0) rfl hmade trivial
  have r₆ : Run (backend sampleSettings) _ _ _ ⟨sampleTtn, _⟩ :=
    r₅.act (i := 1) rfl hfound trivial
  refine ⟨_, _, r₆, ⟨_, List.mem_append_left _ (List.mem_append_right _ (List.mem_singleton_self _)),
    _, List.mem_append_right _ (List.mem_singleton_self _), Nat.zero_ne_one, rfl, rfl⟩, ?_⟩
  exact (one_session_per_gateway r₆).1.1 sampleMAC

end GatewayBridge.Ttn
