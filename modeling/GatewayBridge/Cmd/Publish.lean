import GatewayBridge.Cmd.Relay
import GatewayBridge.Process.Worker
import GatewayBridge.Ttn.Subscription

/-!
# The goroutines that publish

`run` starts a goroutine for each packet from `RXPacketChan()` and from `StatsChan()`. The two
kinds differ in what they take and send; each takes one packet, finds the `gtw` of its MAC, and
sends one message there at most (`Publisher`). So the messages on the streams to the router are those of
different packets, each on the stream of its gateway, whatever else goes on (`Publisher.accounted`).

To say so of a program that runs as a part of another, it is enough to say it of the program alone
(`emits_callFront`, `emits_callBackend`).
-/

namespace GatewayBridge.Cmd

open GatewayBridge.Go GatewayBridge.Lora GatewayBridge.Process GatewayBridge.Semtech GatewayBridge.Ttn Prog

universe u

variable {J : Codecs} {cfg : Settings} {mac : EUI64} {ok : RelayCfg → Move RelayCall RelayEff → Prop}
  {h : List RelayEntry} {c : RelayCfg}

/-! ### What the programs emit -/

section Emits

variable {β : Type u} {I : List β → Prop} {l : List β} {out : Event RelayEff RelayEff.Resp → Option β}

/-- What is of interest in the backend of the gateways. -/
abbrev frontView (out : Event RelayEff RelayEff.Resp → Option β) : Event Eff Eff.Resp → Option β :=
  fun ev => out ⟨.front ev.1, ev.2⟩

/-- What is of interest in the backend of the router. -/
abbrev ttnView (out : Event RelayEff RelayEff.Resp → Option β) : Event TtnEff TtnEff.Resp → Option β :=
  fun ev => out ⟨.bridge (.ttn ev.1), ev.2⟩

/-- A method of the backend of the router emits as it does on its own. -/
theorem emits_callBackend {α : Type} {Q : α → List β → Prop} {p : TtnProg α}
    (h : p.Emits (ttnView out) I Q l) : (callBackend p).Emits out I Q l := by
  have hcall : (callTtn p).Emits (fun ev => out ⟨.bridge ev.1, ev.2⟩) I Q l :=
    h.handle fun e l hl hI => ⟨hl, fun r => ⟨hI r, rfl⟩⟩
  exact hcall.handle fun e l hl hI => ⟨hl, fun r => ⟨hI r, rfl⟩⟩

/-- Nothing of interest happens in the registry or in the backend of the router. -/
theorem emits_callBridge {α : Type} (p : BridgeProg α) (hbridge : ∀ e r, out ⟨.bridge e, r⟩ = none) (hl : I l) :
    (callBridge p).Emits out I (fun _ l' => l' = l) l := by
  have hp : (callBridge p).Uses fun e => ∃ b, e = .bridge b :=
    (uses_of_forall (P := fun _ => True) (fun _ => trivial) p).handle fun e _ => ⟨⟨e, rfl⟩, fun _ => trivial⟩
  refine hp.emits ?_ hl
  rintro _ ⟨b, rfl⟩ r
  exact hbridge b r

/-- The backend of the gateways emits as it does on its own, with the registry in place of two effects. -/
theorem emits_callFront {α : Type} {Q : Except (Fault GwError) α → List β → Prop} {p : M α}
    (hset : ∀ mac gw r, out ⟨.front (.set mac gw), r⟩ = none) (hcleanup : ∀ r, out ⟨.front .cleanup, r⟩ = none)
    (hbridge : ∀ e r, out ⟨.bridge e, r⟩ = none) (h : p.run.Emits (frontView out) I Q l) :
    (callFront p).Emits out I Q l := by
  refine h.handle fun e l hl hI => ?_
  cases e with
  | set mac gw =>
    refine (emits_callBridge _ hbridge hl).mono fun r l' hl' => ?_
    rw [hl', frontView, hset, Option.toList_none, List.append_nil]
  | cleanup =>
    refine (emits_callBridge _ hbridge hl).mono fun r l' hl' => ?_
    rw [hl', frontView, hcleanup, Option.toList_none, List.append_nil]
  | _ => exact ⟨hl, fun r => ⟨hI r, rfl⟩⟩

theorem emits_discard {α : Type} {Q : α → List β → Prop} {p : RelayProg α} (h : p.Emits out I Q l) :
    (discard p).Emits out I (fun _ _ => True) l := h.bind fun _ _ hl _ => ⟨hl, trivial⟩

end Emits

theorem exists_thread (hr : Run (relay J cfg) ok {} h c) {en : RelayEntry} (hen : en ∈ h) :
    ∃ t, c.threads[en.tid]? = some t ∧ c.call en.tid = some t.call ∧ t.call.Allowed en.event.1 := by
  obtain ⟨l, hl, hallowed⟩ := hr.uses (RelayCall.body_uses J cfg) en hen
  obtain ⟨t, ht, rfl⟩ := Option.map_eq_some_iff.mp hl
  exact ⟨t, ht, hl, hallowed⟩

/-! ### The goroutines that publish -/

/-- The call of the backend has found the `gtw` of a MAC. -/
def Finds (mac : EUI64) (gtw : ℕ) (ev : Event RelayEff RelayEff.Resp) : Prop :=
  ev = ⟨.bridge (.ttn (.getGtw mac)), some gtw⟩ ∨ ev = ⟨.bridge (.ttn (.newGtw mac)), gtw⟩

/-- The answer of `getGtw` or `newGtw`. -/
def foundGtw : Event TtnEff TtnEff.Resp → Option (EUI64 × ℕ)
  | ⟨.getGtw mac, some gtw⟩ => some (mac, gtw)
  | ⟨.newGtw mac, gtw⟩ => some (mac, gtw)
  | _ => none

theorem finds_of_foundGtw {e : TtnEff} {r : e.Resp} {gtw : ℕ} (h : foundGtw ⟨e, r⟩ = some (mac, gtw)) :
    Finds mac gtw ⟨.bridge (.ttn e), r⟩ := by
  cases e with
  | getGtw mac' =>
    cases r with
    | none => cases h
    | some gtw' =>
      cases h
      exact .inl rfl
  | newGtw mac' =>
    cases h
    exact .inr rfl
  | _ => cases h

section Publishing

variable {P M : Type}

/-- What a goroutine does that takes packets by `take` and sends messages by `send`. -/
def workStep (take : Event RelayEff RelayEff.Resp → Option P) (send : Event TtnEff TtnEff.Resp → Option (ℕ × M)) :
    Event RelayEff RelayEff.Resp → Option (WorkStep P EUI64 ℕ M)
  | ⟨.bridge (.ttn e), r⟩ =>
      match send ⟨e, r⟩ with
      | some (gtw, m) => some (.sent gtw m)
      | none => (foundGtw ⟨e, r⟩).map fun found => .found found.1 found.2
  | ev => (take ev).map .took

variable {take : Event RelayEff RelayEff.Resp → Option P} {send : Event TtnEff TtnEff.Resp → Option (ℕ × M)}
  {ev : Event RelayEff RelayEff.Resp}

theorem took_of_map {x : WorkStep P EUI64 ℕ M} (h : (take ev).map .took = some x) :
    ∃ p, take ev = some p ∧ x = .took p := by
  obtain ⟨p, hp, rfl⟩ := Option.map_eq_some_iff.mp h
  exact ⟨p, hp, rfl⟩

theorem workStep_cases {x : WorkStep P EUI64 ℕ M} (h : workStep take send ev = some x) :
    (∃ p, take ev = some p ∧ x = .took p) ∨
    (∃ e r gtw m, ev = ⟨.bridge (.ttn e), r⟩ ∧ send ⟨e, r⟩ = some (gtw, m) ∧ x = .sent gtw m) ∨
    ∃ mac gtw, Finds mac gtw ev ∧ x = .found mac gtw := by
  obtain ⟨e, r⟩ := ev
  cases e with
  | bridge e =>
    cases e with
    | ttn e =>
      rw [workStep] at h
      cases hsend : send ⟨e, r⟩ with
      | some gm =>
        rw [hsend] at h
        cases h
        exact .inr (.inl ⟨e, r, _, _, rfl, hsend, rfl⟩)
      | none =>
        rw [hsend] at h
        obtain ⟨⟨mac, gtw⟩, hfound, rfl⟩ := Option.map_eq_some_iff.mp h
        exact .inr (.inr ⟨mac, gtw, finds_of_foundGtw hfound, rfl⟩)
    | _ => exact .inl (took_of_map h)
  | _ => exact .inl (took_of_map h)

theorem item_map_took (p : Option P) :
    (p.map .took : Option (WorkStep P EUI64 ℕ M)).bind WorkStep.item = p := by
  cases p <;> rfl

/-- The packets of the steps are those that are taken. -/
theorem workStep_item (hbridge : ∀ e r, take ⟨.bridge e, r⟩ = none) (ev : Event RelayEff RelayEff.Resp) :
    (workStep take send ev).bind WorkStep.item = take ev := by
  obtain ⟨e, r⟩ := ev
  cases e with
  | bridge e =>
    cases e with
    | ttn e =>
      rw [hbridge, workStep]
      cases send ⟨e, r⟩ with
      | some gm => rfl
      | none => cases foundGtw ⟨e, r⟩ <;> rfl
    | _ => exact item_map_took _
  | _ => exact item_map_took _

/-- A call finds the `gtw` of its MAC. -/
theorem emits_session {I : List (WorkStep P EUI64 ℕ M) → Prop} {l : List (WorkStep P EUI64 ℕ M)}
    (hget : ∀ r, send ⟨.getGtw mac, r⟩ = none) (hnew : ∀ r, send ⟨.newGtw mac, r⟩ = none) (hl : I l)
    (hfound : ∀ gtw, I (l ++ [.found mac gtw])) :
    (session mac).Emits (ttnView (workStep take send)) I (fun gtw l' => l' = l ++ [.found mac gtw]) l := by
  refine ⟨hl, fun found => ?_⟩
  rw [ttnView, workStep, hget]
  cases found with
  | some gtw => exact ⟨hfound gtw, rfl⟩
  | none =>
    refine ⟨by simpa [foundGtw] using hl, fun gtw => ?_⟩
    rw [ttnView, workStep, hnew]
    exact ⟨by simpa [foundGtw] using hfound gtw, by simp [foundGtw]⟩

end Publishing

/-- The goroutines that `run` starts for the packets of one channel: what they take and send, and that they
do so in the way of a worker. -/
structure Publisher (J : Codecs) (cfg : Settings) (P M : Type) where
  /-- Such a goroutine. -/
  call : RelayCall
  /-- The packet that it has. -/
  take : Event RelayEff RelayEff.Resp → Option P
  /-- The message that it sends, and on the stream of which `gtw`. -/
  send : Event TtnEff TtnEff.Resp → Option (ℕ × M)
  /-- The gateway of a packet. -/
  mac : P → EUI64
  /-- The message is one for the packet. -/
  message : P → M → Prop
  /-- A packet is not taken in the backend of the router. -/
  take_bridge : ∀ e r, take ⟨.bridge e, r⟩ = none
  /-- Only such a goroutine takes a packet. -/
  take_allowed : ∀ l e r p, RelayCall.Allowed l e → take ⟨e, r⟩ = some p → l = call
  /-- Only such a goroutine sends a message. -/
  send_allowed : ∀ l e r m, RelayCall.Allowed l (.bridge (.ttn e)) → send ⟨e, r⟩ = some m → l = call
  /-- It takes a packet, finds the `gtw` of its MAC, and sends a message there. -/
  emits : (call.body J cfg).Emits (workStep take send) (Works mac message) (fun _ _ => True) []

/-! ### The shared state -/

variable {s s' : RelayState} {gtw : ℕ}

theorem bridge_of_frontSem {e : Eff} {r : e.Resp} (hs : frontSem e s r s') : s'.bridge = s.bridge := by
  cases e with
  | set mac gw => exact hs.elim
  | cleanup => exact hs.elim
  | now | setClosed | connClose =>
    cases hs
    rfl
  | get _ | udpSend _ | statsSend _ | rxSend _ | closeUdpSendChan | wgWait =>
    cases hs.2
    rfl

theorem older_of_relaySem {e : RelayEff} {r : e.Resp} (hs : relaySem cfg e s r s') :
    Older s.bridge.ttn s'.bridge.ttn := by
  cases e with
  | front e =>
    rw [bridge_of_frontSem hs]
    exact .refl _
  | bridge e =>
    obtain ⟨b, hb, rfl⟩ := hs
    exact older_of_bridgeSem hb
  | downlink e =>
    obtain ⟨-, rfl⟩ := hs
    exact .refl _
  | takeRX | takeStats | rangeTX | takeTX =>
    obtain ⟨-, rfl⟩ := hs
    exact .refl _

/-- A `gtw` that was found for a MAC is still that of the MAC. -/
theorem lookup_of_finds {en : RelayEntry} (hr : Run (relay J cfg) ok {} h c) (hen : en ∈ h)
    (hfound : Finds mac gtw en.event) : c.shared.bridge.ttn.gateways.lookup mac = some gtw := by
  have hsem := hr.linked.sem_of_mem hen
  have hlater : Older en.post.bridge.ttn c.shared.bridge.ttn := by
    refine (hr.linked.pairwise_rel (r := fun s s' => Older s.bridge.ttn s'.bridge.ttn) ?_ ?_ ?_).2 en hen
    · exact fun _ => .refl _
    · intro s₁ s₂ s₃ h₁ h₂
      exact h₁.trans h₂
    · exact fun _ _ _ _ hs => older_of_relaySem hs
  refine hlater.lookup mac gtw ?_
  rcases hfound with he | he
  · rw [he] at hsem
    obtain ⟨b, ⟨t, ⟨hl, rfl⟩, rfl⟩, hpost⟩ := hsem
    rw [hpost]
    exact hl.symm
  · rw [he] at hsem
    obtain ⟨b, ⟨t, ht, rfl⟩, hpost⟩ := hsem
    rw [hpost]
    exact (newGtw_cases ht).2

namespace Publisher

variable {P M : Type} (pub : Publisher J cfg P M)

/-- What such goroutines do. -/
abbrev steps (h : List RelayEntry) : List (ℕ × WorkStep P EUI64 ℕ M) := emitted (workStep pub.take pub.send) h

/-- The messages on the streams to the router, each with its `gtw`. -/
def sent (h : List RelayEntry) : List (ℕ × M) := (sentMessages (workStep pub.take pub.send) h).map Prod.snd

/-- Who takes a packet or sends a message is such a goroutine, and no more than one packet is taken. -/
theorem works_of_step (hr : Run (relay J cfg) ok {} h c) {i : ℕ} {x : WorkStep P EUI64 ℕ M}
    (hx : (i, x) ∈ pub.steps h) (hne : ∀ mac gtw, x ≠ .found mac gtw) :
    c.call i = some pub.call ∧ Works pub.mac pub.message (ofKey i (pub.steps h)) := by
  obtain ⟨en, hen, rfl, hevent⟩ := mem_emitted_iff.mp hx
  obtain ⟨t, ht, hcall, hallowed⟩ := exists_thread hr hen
  have hpub : t.call = pub.call := by
    rcases workStep_cases hevent with ⟨p, hp, -⟩ | ⟨e, r, gtw, m, he, hm, -⟩ | ⟨mac, gtw, -, rfl⟩
    · exact pub.take_allowed _ _ _ p hallowed hp
    · rw [he] at hallowed
      exact pub.send_allowed _ e r _ hallowed hm
    · exact absurd rfl (hne mac gtw)
  have hbody : ((relay J cfg).body t.call).Emits (workStep pub.take pub.send) (Works pub.mac pub.message)
      (fun _ _ => True) [] := by
    rw [hpub]
    exact pub.emits
  exact ⟨hcall.trans (congrArg some hpub), hr.emits ht hbody⟩

/-- The packets that are taken are those the loop hands on. -/
theorem takenItems_eq (h : List RelayEntry) :
    takenItems (workStep pub.take pub.send) h = emitted pub.take h := by
  rw [takenItems]
  exact congrArg (emitted · h) (funext (workStep_item pub.take_bridge))

/-- **What the goroutines of a channel send**: messages for different packets that were put into the channel,
each on the stream of the gateway of its packet. -/
theorem accounted {ι : Type u} {ord : ι → ι → Prop} {Src : ι → P → Prop} {packets : List P}
    (hr : Run (relay J cfg) ok {} h c) (hne : ∀ i i', ord i i' → i ≠ i')
    (hpackets : Accounted ord Src packets) (htaken : (emitted pub.take h).map Prod.snd <+: packets) :
    Accounted (· ≠ ·) (fun i (sent : ℕ × M) => ∃ p, Src i p ∧ pub.message p sent.2 ∧
      c.shared.bridge.ttn.gateways.lookup (pub.mac p) = some sent.1) (pub.sent h) := by
  have hworks : ∀ i d m, (i, d, m) ∈ sentMessages (workStep pub.take pub.send) h →
      Works pub.mac pub.message (ofKey i (pub.steps h)) := by
    intro i d m hm
    obtain ⟨x, hx, hmsg⟩ := mem_emitted_bind_iff.mp hm
    refine (pub.works_of_step hr hx ?_).2
    rintro mac gtw rfl
    cases hmsg
  rw [← takenItems_eq] at htaken
  refine (Works.accounted hworks hne hpackets htaken).imp ?_
  rintro i sent ⟨p, hsrc, hmsg, j, hfound⟩
  refine ⟨p, hsrc, hmsg, ?_⟩
  obtain ⟨en, hen, -, hevent⟩ := mem_emitted_iff.mp hfound
  rcases workStep_cases hevent with ⟨_, -, hx⟩ | ⟨_, _, _, _, -, -, hx⟩ | ⟨mac, gtw, hfinds, hx⟩
  · cases hx
  · cases hx
  · cases hx
    exact lookup_of_finds hr hen hfinds

/-- **Every packet that the loop hands on has a goroutine of its own.** -/
theorem taken_accounted (hr : Run (relay J cfg) ok {} h c) :
    Accounted (· ≠ ·) (fun i p => c.call i = some pub.call ∧
      Works pub.mac pub.message (ofKey i (pub.steps h)) ∧ (i, p) ∈ emitted pub.take h)
      ((emitted pub.take h).map Prod.snd) := by
  have hworks : ∀ i p, (i, p) ∈ takenItems (workStep pub.take pub.send) h →
      c.call i = some pub.call ∧ Works pub.mac pub.message (ofKey i (pub.steps h)) := by
    intro i p hp
    obtain ⟨x, hx, hitem⟩ := mem_emitted_bind_iff.mp hp
    refine pub.works_of_step hr hx ?_
    rintro mac gtw rfl
    cases hitem
  rw [← takenItems_eq]
  refine (Works.taken_accounted fun i p hp => (hworks i p hp).2).imp fun i p hp => ?_
  exact ⟨(hworks i p hp).1, (hworks i p hp).2, hp⟩

end Publisher

end GatewayBridge.Cmd
