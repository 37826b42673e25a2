import GatewayBridge.Ttn.Sessions

/-!
# One downlink stream for each gateway

`SubscribeGatewayTX` overwrites `gtw.downlink` without looking at it, and
`UnSubscribeGatewayTX` closes the stream without clearing the field. That no stream is
lost while open, and that a gateway has one stream and not two, is due to the registry:
it calls the first only for a MAC it does not have, and the second only for one it has.

The invariant is `Subs live none`: each live gateway has an open stream, the one in its
`downlink`, and no other stream is open. While the registry works, a stream may be open
that is in no `downlink` yet: `Subs live (some st)`. Publishing goes on all the while and
makes new `gtw`s, which is all it does here (`Grows`), so `Subs` is stable; the steps of
the registry are `Subs.newDownlinkStream`, `Subs.setDownlink` and `Subs.closeDownlink`.
The rule for a lock then gives `one_stream_per_gateway`.
-/

namespace GatewayBridge.Ttn

open GatewayBridge.Go GatewayBridge.Lora GatewayBridge.Process GatewayBridge.Semtech Prog

variable {cfg : Settings} {t t' : TtnState} {mac : EUI64} {gtw st : ℕ}

/-! ### Effects that leave the streams alone -/

theorem downlink_modify_set (hlt : gtw < t.gtws.length) (gtw' : ℕ) :
    (t.modify gtw fun g => { g with downlink := some st }).downlink gtw' =
      if gtw' = gtw then some st else t.downlink gtw' := by
  simp only [TtnState.downlink, TtnState.modify, List.getElem?_modify]
  by_cases h : gtw' = gtw
  · subst h
    rw [List.getElem?_eq_getElem hlt]
    simp
  · have h' : gtw ≠ gtw' := fun he => h he.symm
    rw [if_neg h]
    cases t.gtws[gtw']? <;> simp [h']

/-- The effect neither opens a stream, nor closes one, nor assigns one. -/
def TtnEff.Quiet : TtnEff → Prop
  | .newDownlinkStream _ => False
  | .setDownlink _ _ => False
  | .closeDownlink _ => False
  | _ => True

/-- All that a quiet effect does to the streams and their owners: it may make one `gtw`, for a MAC that
has none. -/
structure Grows (t t' : TtnState) : Prop where
  /-- The streams are as before. -/
  streams : t'.streams = t.streams
  /-- Each `gtw` has the stream it had, and a new one has none. -/
  downlink : ∀ gtw, t'.downlink gtw = t.downlink gtw
  /-- The `gtw`s are those from before, or one more for a MAC without. -/
  gateways : (t'.gateways = t.gateways ∧ t'.gtws.length = t.gtws.length) ∨
    ∃ mac, mac ∉ t.gateways ∧ t'.gateways = t.gateways.insert mac t.gtws.length ∧
      t'.gtws.length = t.gtws.length + 1

variable {e : TtnEff} {r : e.Resp}

/-- **What a quiet effect can do.** -/
theorem grows_of_change (he : e.Quiet) (h : Change cfg t e t') : Grows t t' where
  streams := by
    cases h with
    | openStream gtw => exact he.elim
    | closeStream gtw st _ => exact he.elim
    | _ => rfl
  downlink gtw := by
    rcases h.downlink gtw with hkept | ⟨st, rfl, -⟩
    · exact hkept
    · exact he.elim
  gateways := by
    rcases h.joins with hkept | ⟨mac, hnew, hg, hlen⟩
    · exact .inl hkept
    · exact .inr ⟨mac, Finmap.lookup_eq_none.mp hnew, hg, hlen⟩

theorem grows_of_quiet (he : e.Quiet) (h : ttnSem cfg e t r t') : Grows t t' :=
  grows_of_change he (change_of_ttnSem h)

theorem Grows.joins (h : Grows t t') : Joins t t' := by
  rcases h.gateways with hkept | ⟨mac, hnew, hg, hlen⟩
  · exact .inl hkept
  · exact .inr ⟨mac, Finmap.lookup_eq_none.mpr hnew, hg, hlen⟩

/-! ### The invariant -/

/-- The gateways in `live` have one open stream each, and no other stream is open but `fresh`. -/
structure Subs (live : EUI64 → Prop) (fresh : Option ℕ) (t : TtnState) : Prop where
  /-- The `gtw` of a MAC exists. -/
  lt_length : ∀ mac gtw, t.gateways.lookup mac = some gtw → gtw < t.gtws.length
  /-- Two MACs do not share a `gtw`. -/
  inj : ∀ mac mac' gtw, t.gateways.lookup mac = some gtw → t.gateways.lookup mac' = some gtw → mac = mac'
  /-- The `downlink` of a `gtw` is a stream that was opened for it. -/
  owned : ∀ gtw st, t.downlink gtw = some st → ∃ b, t.streams[st]? = some ⟨gtw, b⟩
  /-- `fresh` is in no `downlink`. -/
  unassigned : ∀ st, fresh = some st → ∀ gtw, t.downlink gtw ≠ some st
  /-- A live gateway has an open stream in its `downlink`. -/
  of_live : ∀ mac, live mac → ∃ gtw st, t.gateways.lookup mac = some gtw ∧ t.downlink gtw = some st ∧
    t.streams[st]? = some ⟨gtw, true⟩
  /-- An open stream is that of a live gateway. -/
  of_open : ∀ st gtw, t.streams[st]? = some ⟨gtw, true⟩ → fresh = some st ∨
    ∃ mac, live mac ∧ t.gateways.lookup mac = some gtw ∧ t.downlink gtw = some st

variable {live live' : EUI64 → Prop} {fresh : Option ℕ}

theorem subs_empty (live : EUI64 → Prop) (h : ∀ mac, ¬ live mac) : Subs live none {} where
  lt_length mac gtw hl := by simp at hl
  inj mac mac' gtw hl := by simp at hl
  owned gtw st h := by simp [TtnState.downlink] at h
  unassigned st h := by cases h
  of_live mac hlive := (h mac hlive).elim
  of_open st gtw h := by simp at h

theorem Subs.congr (h : Subs live fresh t) (hlive : ∀ mac, live mac ↔ live' mac) : Subs live' fresh t := by
  have heq : live = live' := funext fun mac => propext (hlive mac)
  exact heq ▸ h

/-- Quiet effects keep the invariant. -/
theorem Subs.grows (h : Subs live fresh t) (hg : Grows t t') : Subs live fresh t' where
  lt_length := hg.joins.lt_length h.lt_length
  inj := hg.joins.inj h.lt_length h.inj
  owned gtw st hd := by
    rw [hg.downlink] at hd
    rw [hg.streams]
    exact h.owned gtw st hd
  unassigned st hf gtw := by
    rw [hg.downlink]
    exact h.unassigned st hf gtw
  of_live mac hm := by
    obtain ⟨gtw, st, hl, hd, hs⟩ := h.of_live mac hm
    exact ⟨gtw, st, hg.joins.lookup hl, (hg.downlink gtw).trans hd, by rw [hg.streams]; exact hs⟩
  of_open st gtw hs := by
    rw [hg.streams] at hs
    rcases h.of_open st gtw hs with hf | ⟨mac, hm, hl, hd⟩
    · exact .inl hf
    · exact .inr ⟨mac, hm, hg.joins.lookup hl, (hg.downlink gtw).trans hd⟩

/-- A stream is opened: it is fresh. -/
theorem Subs.newDownlinkStream (h : Subs live none t) :
    Subs live (some t.streams.length) (t.openStream gtw) := by
  have hold : ∀ {st : ℕ} {stream : DownlinkStream}, t.streams[st]? = some stream →
      (t.openStream gtw).streams[st]? = some stream := by
    intro st stream hs
    rw [streams_openStream_of_lt (List.getElem?_eq_some_iff.mp hs).1]
    exact hs
  refine ⟨h.lt_length, h.inj, ?_, ?_, ?_, ?_⟩
  · intro gtw' st hd
    obtain ⟨b, hs⟩ := h.owned gtw' st hd
    exact ⟨b, hold hs⟩
  · intro st hst gtw' hd
    cases hst
    obtain ⟨b, hs⟩ := h.owned gtw' _ hd
    exact absurd (List.getElem?_eq_some_iff.mp hs).1 (Nat.lt_irrefl _)
  · intro mac hm
    obtain ⟨gtw', st, hl, hd, hs⟩ := h.of_live mac hm
    exact ⟨gtw', st, hl, hd, hold hs⟩
  · intro st gtw' hs
    rcases Nat.lt_trichotomy st t.streams.length with hlt | heq | hgt
    · rw [streams_openStream_of_lt hlt] at hs
      rcases h.of_open st gtw' hs with hf | hm
      · cases hf
      · exact .inr hm
    · exact .inl (congrArg some heq.symm)
    · rw [List.getElem?_eq_none (by simp [TtnState.openStream]; omega)] at hs
      cases hs

/-- The `downlink` of a gateway that is not live is not open. -/
theorem Subs.closed_of_not_live (h : Subs live fresh t) (hm : ¬ live mac)
    (hl : t.gateways.lookup mac = some gtw) {old : ℕ} (hd : t.downlink gtw = some old) (gtw' : ℕ) :
    t.streams[old]? ≠ some ⟨gtw', true⟩ := by
  intro hs
  have hgtw : gtw = gtw' := Owned.eq h.owned hd hs
  subst hgtw
  rcases h.of_open old gtw hs with hf | ⟨mac', hm', hl', -⟩
  · exact h.unassigned old hf gtw hd
  · rw [h.inj mac mac' gtw hl hl'] at hm
    exact hm hm'

/-- The fresh stream is assigned to its gateway, which is now live. -/
theorem Subs.setDownlink (h : Subs live (some st) t) (hm : ¬ live mac)
    (hl : t.gateways.lookup mac = some gtw) (hs : t.streams[st]? = some ⟨gtw, true⟩) :
    Subs (fun mac' => live mac' ∨ mac' = mac) none
      (t.modify gtw fun g => { g with downlink := some st }) := by
  have hlt := h.lt_length mac gtw hl
  have hother : ∀ mac' gtw', live mac' → t.gateways.lookup mac' = some gtw' → gtw' ≠ gtw := by
    intro mac' gtw' hm' hl' he
    subst he
    rw [h.inj mac mac' gtw' hl hl'] at hm
    exact hm hm'
  refine ⟨?_, h.inj, ?_, nofun, ?_, ?_⟩
  · intro mac' gtw' hl'
    rw [TtnState.modify, List.length_modify]
    exact h.lt_length mac' gtw' hl'
  · intro gtw' st' hd
    rw [downlink_modify_set hlt] at hd
    split_ifs at hd with he
    · cases hd
      exact ⟨true, he ▸ hs⟩
    · exact h.owned gtw' st' hd
  · rintro mac' (hm' | rfl)
    · obtain ⟨gtw', st', hl', hd', hs'⟩ := h.of_live mac' hm'
      refine ⟨gtw', st', hl', ?_, hs'⟩
      rw [downlink_modify_set hlt, if_neg (hother mac' gtw' hm' hl')]
      exact hd'
    · exact ⟨gtw, st, hl, by rw [downlink_modify_set hlt, if_pos rfl], hs⟩
  · intro st' gtw' hs'
    rcases h.of_open st' gtw' hs' with hf | ⟨mac', hm', hl', hd'⟩
    · cases hf
      cases hs.symm.trans hs'
      exact .inr ⟨mac, .inr rfl, hl, by rw [downlink_modify_set hlt, if_pos rfl]⟩
    · refine .inr ⟨mac', .inl hm', hl', ?_⟩
      rw [downlink_modify_set hlt, if_neg (hother mac' gtw' hm' hl')]
      exact hd'

/-- The stream of a gateway is closed: it is not live any more. -/
theorem Subs.closeDownlink (h : Subs live none t) (hl : t.gateways.lookup mac = some gtw)
    (hd : t.downlink gtw = some st) :
    Subs (fun mac' => live mac' ∧ mac' ≠ mac) none (t.closeStream st) := by
  obtain ⟨b, hb⟩ := h.owned gtw st hd
  refine ⟨h.lt_length, h.inj, ?_, nofun, ?_, ?_⟩
  · intro gtw' st' hd'
    obtain ⟨b', hs'⟩ := h.owned gtw' st' hd'
    by_cases he : st = st'
    · subst he
      exact ⟨false, by rw [streams_closeStream_self, hs']; rfl⟩
    · exact ⟨b', by rw [streams_closeStream_of_ne he, hs']⟩
  · rintro mac' ⟨hm', hne⟩
    obtain ⟨gtw', st', hl', hd', hs'⟩ := h.of_live mac' hm'
    have hst : st ≠ st' := by
      rintro rfl
      cases hb.symm.trans hs'
      exact hne (h.inj mac' mac gtw hl' hl)
    exact ⟨gtw', st', hl', hd', by rw [streams_closeStream_of_ne hst, hs']⟩
  · intro st' gtw' hs'
    have hst : st ≠ st' := by
      rintro rfl
      rw [streams_closeStream_self, hb] at hs'
      cases hs'
    rw [streams_closeStream_of_ne hst] at hs'
    rcases h.of_open st' gtw' hs' with hf | ⟨mac', hm', hl', hd'⟩
    · cases hf
    · refine .inr ⟨mac', ⟨hm', ?_⟩, hl', hd'⟩
      rintro rfl
      cases hl.symm.trans hl'
      exact hst (Option.some.inj (hd.symm.trans hd'))

/-! ### The registry at work -/

/-- Publishing goes on while the registry works; and no open stream may be overwritten. -/
def registryWork : Interference BridgeState BridgeEff where
  free
    | .ttn e => e.Quiet
    | _ => False
  guar
    | .lock, _ => False
    | .unlock, _ => False
    | .registry _, _ => True
    | .ttn (.setDownlink gtw _), s =>
        ∀ old, s.ttn.downlink gtw = some old → ∀ gtw', s.ttn.streams[old]? ≠ some ⟨gtw', true⟩
    | .ttn _, _ => True

/-- The gateways in the registry have one open stream each, and no other stream is open. -/
def OneStream (s : BridgeState) : Prop := Subs (· ∈ s.registry) none s.ttn

/-- The registry is `g`, and `A` holds of the backend. -/
def At (g : Gateways) (A : TtnState → Prop) (s : BridgeState) : Prop := s.registry = g ∧ A s.ttn

/-- Nothing that quiet effects do breaks `A`. -/
def Lasting (A : TtnState → Prop) : Prop := ∀ t t', Grows t t' → A t → A t'

/-- Publishing does not break what lasts. -/
theorem stable_at {A : TtnState → Prop} (hA : Lasting A) (g : Gateways) :
    registryWork.Stable (bridgeSem cfg) (At g A) := by
  intro e s r s' hfree hs hat
  cases e with
  | ttn e =>
    obtain ⟨t', ht, rfl⟩ := hs
    exact ⟨hat.1, hA _ _ (grows_of_quiet hfree ht) hat.2⟩
  | lock => exact hfree.elim
  | unlock => exact hfree.elim
  | registry e => exact hfree.elim

theorem lasting_subs : Lasting (Subs live fresh) := fun _ _ hg h => h.grows hg

theorem lasting_lookup : Lasting fun t => t.gateways.lookup mac = some gtw := fun _ _ hg h => hg.joins.lookup h

theorem lasting_downlink : Lasting fun t => t.downlink gtw = some st :=
  fun _ _ hg h => (hg.downlink gtw).trans h

theorem lasting_stream {stream : DownlinkStream} : Lasting fun t => t.streams[st]? = some stream :=
  fun _ _ hg h => (congrArg (fun l => l[st]?) hg.streams).trans h

theorem Lasting.and {A B : TtnState → Prop} (hA : Lasting A) (hB : Lasting B) :
    Lasting fun t => A t ∧ B t := fun t t' hg h => ⟨hA t t' hg h.1, hB t t' hg h.2⟩

theorem callTtn_bind {α β : Type} (p : TtnProg α) (f : α → TtnProg β) :
    callTtn (p >>= f) = callTtn p >>= fun a => callTtn (f a) := handle_bind _ p f

variable {g : Gateways} {s : BridgeState} {A : TtnState → Prop}

theorem stable_ok_at (hA : Lasting A) (g : Gateways) (r : Except GwError Unit) :
    registryWork.Stable (bridgeSem cfg) fun s => r = .ok () ∧ At g A s :=
  fun e s a s' hfree hs hq => ⟨hq.1, stable_at hA g e s a s' hfree hs hq.2⟩

/-- The `gtw` that a call works on is that of its MAC. -/
theorem safe_session (hA : Lasting A) (h : At g A s) :
    (callTtn (session mac)).Safe (bridgeSem cfg) registryWork
      (fun gtw => At g fun t => A t ∧ t.gateways.lookup mac = some gtw) s := by
  refine safe_eff (stable_at hA g) h fun s₁ h₁ => ⟨trivial, fun r s' hs => ?_⟩
  obtain ⟨t, ⟨rfl, rfl⟩, rfl⟩ := hs
  cases hl : s₁.ttn.gateways.lookup mac with
  | some gtw => exact safe_ret (stable_at (hA.and lasting_lookup) g) ⟨h₁.1, h₁.2, hl⟩
  | none =>
    refine safe_eff (stable_at hA g) h₁ fun s₂ h₂ => ⟨trivial, fun r s' hs => ?_⟩
    obtain ⟨t, ht, rfl⟩ := hs
    obtain ⟨hchange, hl'⟩ := newGtw_cases ht
    have hg := grows_of_change (e := .newGtw mac) trivial hchange
    exact safe_ret (stable_at (hA.and lasting_lookup) g) ⟨h₂.1, hA _ _ hg h₂.2, hl'⟩

/-- **Subscribing** a gateway that is not live makes it live. -/
theorem safe_subscribe (hm : ¬ live mac) (h : At g (Subs live none) s) :
    (callTtn (subscribeGatewayTX mac)).Safe (bridgeSem cfg) registryWork
      (fun r s => r = .ok () ∧ At g (Subs (fun mac' => live mac' ∨ mac' = mac) none) s) s := by
  rw [subscribeGatewayTX, callTtn_bind]
  refine (safe_session lasting_subs h).bind fun gtw s' h' => ?_
  refine safe_eff (stable_at (lasting_subs.and lasting_lookup) g) h' fun s₁ h₁ =>
    ⟨trivial, fun st s' hs => ?_⟩
  obtain ⟨t, ⟨rfl, rfl⟩, rfl⟩ := hs
  obtain ⟨hg, hsubs, hl⟩ := h₁
  refine safe_eff (P := At g fun t => Subs live (some s₁.ttn.streams.length) t ∧
    t.gateways.lookup mac = some gtw ∧ t.streams[s₁.ttn.streams.length]? = some ⟨gtw, true⟩)
    (stable_at (lasting_subs.and (lasting_lookup.and lasting_stream)) g)
    ⟨hg, hsubs.newDownlinkStream, hl, streams_openStream_self⟩ fun s₂ h₂ => ?_
  obtain ⟨hg₂, hsubs₂, hl₂, hs₂⟩ := h₂
  refine ⟨fun old hold => hsubs₂.closed_of_not_live hm hl₂ hold, fun r s' hs => ?_⟩
  obtain ⟨t, rfl, rfl⟩ := hs
  exact safe_ret (stable_ok_at lasting_subs g _)
    ⟨rfl, hg₂, hsubs₂.setDownlink hm hl₂ hs₂⟩

/-- **Unsubscribing** a live gateway makes it not live. -/
theorem safe_unSubscribe (hm : live mac) (h : At g (Subs live none) s) :
    (callTtn (unSubscribeGatewayTX mac)).Safe (bridgeSem cfg) registryWork
      (fun r s => r = .ok () ∧ At g (Subs (fun mac' => live mac' ∧ mac' ≠ mac) none) s) s := by
  refine safe_eff (stable_at lasting_subs g) h fun s₁ h₁ => ⟨trivial, fun r s' hs => ?_⟩
  obtain ⟨t, ⟨rfl, rfl⟩, rfl⟩ := hs
  obtain ⟨gtw, st, hl, hd, -⟩ := h₁.2.of_live mac hm
  have hlast : Lasting fun t => Subs live none t ∧ t.gateways.lookup mac = some gtw ∧
    t.downlink gtw = some st := lasting_subs.and (lasting_lookup.and lasting_downlink)
  have h₁' := And.intro h₁.1 (And.intro h₁.2 (And.intro hl hd))
  rw [hl]
  refine safe_eff (stable_at hlast g) h₁' fun s₂ h₂ => ⟨trivial, fun r s' hs => ?_⟩
  obtain ⟨t, ⟨hr, rfl⟩, rfl⟩ := hs
  cases r with
  | none =>
    have hd₂ := h₂.2.2.2
    rw [TtnState.downlink, Option.bind_eq_some_iff] at hd₂
    obtain ⟨gtw₂, hgtw₂, hd₂⟩ := hd₂
    rw [hgtw₂, Option.map_some, hd₂] at hr
    cases hr
  | some st' =>
    refine safe_eff (stable_at hlast g) h₂ fun s₃ h₃ => ⟨trivial, fun r s' hs => ?_⟩
    obtain ⟨t, ⟨st₃, hst₃, rfl⟩, rfl⟩ := hs
    obtain ⟨hg₃, hsubs₃, hl₃, hd₃⟩ := h₃
    exact safe_ret (stable_ok_at lasting_subs g _)
      ⟨rfl, hg₃, hsubs₃.closeDownlink hl₃ hst₃⟩

theorem oneStream_of_at (h : At g (Subs (· ∈ g) none) s) : OneStream s := by
  obtain ⟨rfl, h⟩ := h
  exact h

theorem stable_oneStream : registryWork.Stable (bridgeSem cfg) OneStream :=
  fun e s r s' hfree hs h =>
    oneStream_of_at (stable_at lasting_subs s.registry e s r s' hfree hs ⟨rfl, h⟩)

/-- The entry is stored, where its gateway is live already. -/
theorem safe_store {gw : Gateway} (hlive : ∀ mac', live mac' ↔ mac' ∈ g.insert mac gw)
    (h : At g (Subs live none) s) :
    (eff (BridgeEff.registry (.store mac gw)) fun _ => ret (.ok ()) :
      BridgeProg (Except GwError Unit)).Safe (bridgeSem cfg) registryWork (fun _ => OneStream) s := by
  refine safe_eff (stable_at lasting_subs g) h fun s₁ h₁ => ⟨trivial, fun r s' hs => ?_⟩
  obtain ⟨rfl, hsubs⟩ := h₁
  obtain ⟨g', hg', rfl⟩ := hs
  cases hg'
  exact safe_ret stable_oneStream (hsubs.congr hlive)

/-- **`set` keeps the invariant**: it subscribes a MAC that is new, and stores it. -/
theorem critical_set (mac : EUI64) (gw : Gateway) :
    Lock.Critical (bridgeSem cfg) registryWork OneStream
      ((Gateways.set runCallbacks mac gw).handle wire) := by
  intro s hI
  have h : At s.registry (Subs (· ∈ s.registry) none) s := ⟨rfl, hI⟩
  generalize s.registry = g at h
  refine safe_eff (stable_at lasting_subs g) h fun s₁ h₁ => ⟨trivial, fun r s' hs => ?_⟩
  obtain ⟨g', ⟨rfl, hg'⟩, rfl⟩ := hs
  cases hg'
  obtain ⟨rfl, hsubs⟩ := h₁
  by_cases hm : mac ∈ s₁.registry
  · obtain ⟨gw₀, hl⟩ := Finmap.mem_iff.mp hm
    simp only [hl]
    refine safe_store ?_ ⟨rfl, hsubs⟩
    intro mac'
    rw [Finmap.mem_insert]
    exact ⟨.inr, fun hm' => hm'.elim (fun he => he ▸ hm) id⟩
  · simp only [Finmap.lookup_eq_none.mpr hm]
    refine (safe_subscribe hm ⟨rfl, hsubs⟩).bind fun r s₂ h₂ => ?_
    obtain ⟨rfl, h₂⟩ := h₂
    refine safe_store ?_ h₂
    intro mac'
    rw [Finmap.mem_insert, or_comm]

/-- The loop of `cleanup` keeps the invariant: it unsubscribes each MAC that it evicts, and every MAC
still to be visited is in the registry. -/
theorem safe_cleanupRange {macs : List EUI64} (hnodup : macs.Nodup) (hmem : ∀ mac ∈ macs, mac ∈ g)
    (h : At g (Subs (· ∈ g) none) s) :
    ((Gateways.cleanupRange runCallbacks macs).handle wire).Safe (bridgeSem cfg) registryWork
      (fun _ => OneStream) s := by
  induction macs generalizing g s with
  | nil => exact safe_ret stable_oneStream (oneStream_of_at h)
  | cons mac macs ih =>
    rw [List.nodup_cons] at hnodup
    rw [List.forall_mem_cons] at hmem
    refine safe_eff (stable_at lasting_subs g) h fun s₁ h₁ => ⟨trivial, fun gw s' hs => ?_⟩
    obtain ⟨g₁, ⟨-, hg₁⟩, rfl⟩ := hs
    cases hg₁
    refine safe_eff (stable_at lasting_subs g) h₁ fun s₂ h₂ => ⟨trivial, fun now s' hs => ?_⟩
    obtain ⟨g₂, hg₂, rfl⟩ := hs
    cases hg₂
    by_cases hstale : (gw.getD .zero).lastSeen < now + gatewayCleanupDuration
    · simp only [bind_ret, hstale, if_true]
      refine (safe_unSubscribe hmem.1 h₂).bind fun r s₃ h₃ => ?_
      obtain ⟨rfl, h₃⟩ := h₃
      refine safe_eff (stable_at lasting_subs g) h₃ fun s₄ h₄ => ⟨trivial, fun r s' hs => ?_⟩
      obtain ⟨g', hg', rfl⟩ := hs
      cases hg'
      obtain ⟨rfl, hsubs⟩ := h₄
      refine ih hnodup.2 ?_ ⟨rfl, hsubs.congr fun mac' => ?_⟩
      · intro mac' hm'
        exact Finmap.mem_erase.mpr ⟨fun he => hnodup.1 (he ▸ hm'), hmem.2 mac' hm'⟩
      · rw [Finmap.mem_erase, and_comm]
    · simp only [bind_ret, hstale, if_false]
      exact ih hnodup.2 hmem.2 h₂

/-- **`cleanup` keeps the invariant.** -/
theorem critical_cleanup : Lock.Critical (bridgeSem cfg) registryWork OneStream
    ((Gateways.cleanup runCallbacks).handle wire) := by
  intro s hI
  have h : At s.registry (Subs (· ∈ s.registry) none) s := ⟨rfl, hI⟩
  generalize s.registry = g at h
  refine safe_eff (stable_at lasting_subs g) h fun s₁ h₁ => ⟨trivial, fun macs s' hs => ?_⟩
  obtain ⟨g', ⟨⟨hnodup, hmem⟩, hg'⟩, rfl⟩ := hs
  cases hg'
  obtain ⟨rfl, hsubs⟩ := h₁
  exact safe_cleanupRange hnodup (fun mac hm => (hmem mac).mp hm) ⟨rfl, hsubs⟩

/-! ### Publishing -/

/-- A call of the backend that is quiet can go on while the registry works. -/
theorem uses_callTtn {α : Type} {p : TtnProg α} (hp : p.Uses TtnEff.Quiet) :
    (callTtn p).Uses registryWork.free :=
  hp.handle fun _ he => ⟨he, fun _ => trivial⟩

/-- Every call of the bridge is critical under the lock of the registry, or quiet. -/
theorem idle_body (l : BridgeCall) :
    registryLock.Idle (bridgeSem cfg) registryWork OneStream (l.body cfg) := by
  cases l with
  | set mac gw => exact .inl ⟨_, rfl, critical_set mac gw⟩
  | cleanup => exact .inl ⟨_, rfl, critical_cleanup⟩
  | publishRX mac rxPacket =>
    have hquiet : (publishGatewayRX cfg mac rxPacket).Uses TtnEff.Quiet :=
      uses_publishGatewayRX (uses_session trivial trivial) (fun _ => trivial) (fun _ => trivial) trivial
        fun _ _ => trivial
    exact .inr (uses_callTtn hquiet)
  | publishStats mac stats =>
    have hquiet : (publishGatewayStats cfg mac stats).Uses TtnEff.Quiet :=
      uses_publishGatewayStats (uses_session trivial trivial) (fun _ => trivial) fun _ _ => trivial
    exact .inr (uses_callTtn hquiet)
  | findConf gtw => exact .inr (uses_callTtn (uses_findConf trivial fun _ => trivial))
  | tick => exact .inr (uses_callTtn ⟨trivial, fun _ => trivial⟩)

theorem lawful_registryLock : registryLock.Lawful (bridgeSem cfg) registryWork OneStream where
  sem_lock s r s' hs := by
    obtain ⟨hfree, rfl⟩ := hs
    exact ⟨by simp [registryLock, hfree], rfl, id⟩
  sem_unlock s r s' hs := by
    cases hs
    exact ⟨by simp [registryLock], id⟩
  free_held e s r s' hfree hs := by
    cases e with
    | ttn e =>
      obtain ⟨t', -, rfl⟩ := hs
      exact Iff.rfl
    | lock => exact hfree.elim
    | unlock => exact hfree.elim
    | registry e => exact hfree.elim
  stable_inv := stable_oneStream
  guar_held e s r s' hguar hs hheld := by
    cases e with
    | ttn e =>
      obtain ⟨t', -, rfl⟩ := hs
      exact hheld
    | registry e =>
      obtain ⟨g, -, rfl⟩ := hs
      exact hheld
    | lock => exact hguar.elim
    | unlock => exact hguar.elim

/-! ### Streams over time -/

/-- What is never undone: a MAC keeps its `gtw`, and a stream that is closed stays closed. -/
structure Older (t t' : TtnState) : Prop where
  /-- A MAC keeps its `gtw`. -/
  lookup : ∀ mac gtw, t.gateways.lookup mac = some gtw → t'.gateways.lookup mac = some gtw
  /-- Streams are not forgotten. -/
  length_le : t.streams.length ≤ t'.streams.length
  /-- A stream that is open was open before, if it was there. -/
  was_open : ∀ st gtw, st < t.streams.length → t'.streams[st]? = some ⟨gtw, true⟩ →
    t.streams[st]? = some ⟨gtw, true⟩

theorem Older.refl (t : TtnState) : Older t t := ⟨fun _ _ h => h, le_rfl, fun _ _ _ h => h⟩

theorem Older.trans {t'' : TtnState} (h : Older t t') (h' : Older t' t'') : Older t t'' where
  lookup mac gtw hl := h'.lookup mac gtw (h.lookup mac gtw hl)
  length_le := h.length_le.trans h'.length_le
  was_open st gtw hlt hs := h.was_open st gtw hlt (h'.was_open st gtw (hlt.trans_le h.length_le) hs)

theorem older_of_ttnSem (h : ttnSem cfg e t r t') : Older t t' where
  lookup _ _ hl := (change_of_ttnSem h).joins.lookup hl
  length_le := (change_of_ttnSem h).streams_length_le
  was_open st gtw hlt hs := by
    have hst := List.getElem?_eq_getElem hlt
    obtain ⟨stream, hs', -, rfl | ⟨hclosed, -⟩⟩ := (change_of_ttnSem h).stream hst
    · rw [hst, ← hs', hs]
    · cases hs'.symm.trans hs
      cases hclosed

theorem older_of_bridgeSem {e : BridgeEff} {s s' : BridgeState} {r : e.Resp} (h : bridgeSem cfg e s r s') :
    Older s.ttn s'.ttn := by
  cases e with
  | lock =>
    obtain ⟨-, rfl⟩ := h
    exact .refl _
  | unlock =>
    cases h
    exact .refl _
  | registry e =>
    obtain ⟨g, -, rfl⟩ := h
    exact .refl _
  | ttn e =>
    obtain ⟨t', ht, rfl⟩ := h
    exact older_of_ttnSem ht

/-! ### The result -/

/-- The stream `st` is open, and was opened for the gateway `mac`. -/
def TtnState.OpenStream (t : TtnState) (mac : EUI64) (st : ℕ) : Prop :=
  ∃ gtw, t.gateways.lookup mac = some gtw ∧ t.streams[st]? = some ⟨gtw, true⟩

/-- The open streams of a gateway: the one in its `downlink` if it is live, else none. -/
theorem Subs.openStream_iff (h : Subs live none t) :
    t.OpenStream mac st ↔ live mac ∧ ∃ gtw, t.gateways.lookup mac = some gtw ∧ t.downlink gtw = some st := by
  constructor
  · rintro ⟨gtw, hl, hs⟩
    rcases h.of_open st gtw hs with hf | ⟨mac', hm, hl', hd⟩
    · cases hf
    · rw [h.inj mac mac' gtw hl hl']
      exact ⟨hm, gtw, hl', hd⟩
  · rintro ⟨hm, gtw, hl, hd⟩
    obtain ⟨gtw', st', hl', hd', hs'⟩ := h.of_live mac hm
    cases hl.symm.trans hl'
    cases hd.symm.trans hd'
    exact ⟨gtw, hl, hs'⟩

theorem Subs.existsUnique_openStream (h : Subs live none t) (hm : live mac) :
    ∃! st, t.OpenStream mac st := by
  obtain ⟨gtw, st, hl, hd, hs⟩ := h.of_live mac hm
  refine ⟨st, ⟨gtw, hl, hs⟩, fun st' hst' => ?_⟩
  obtain ⟨-, gtw', hl', hd'⟩ := h.openStream_iff.mp hst'
  cases hl.symm.trans hl'
  exact Option.some.inj (hd'.symm.trans hd)

variable {ok : BridgeCfg → Move BridgeCall BridgeEff → Prop} {h : List BridgeEntry} {c : BridgeCfg}

theorem lockInv_bridge (hr : Run (bridge cfg) ok {} h c) :
    registryLock.Inv (bridgeSem cfg) registryWork OneStream c ∧
      ∀ en ∈ h, registryLock.Accounted registryWork OneStream en := by
  have hfree : ¬ registryLock.held {} := Bool.false_ne_true
  have hone : OneStream {} := subs_empty _ fun mac => Finmap.notMem_empty
  exact hr.lockInv lawful_registryLock idle_body hfree hone

theorem not_held_of_unlocked {s : BridgeState} (h : s.locked = false) : ¬ registryLock.held s := by
  simp [registryLock, h]

/-- **One downlink stream for each gateway.** In every run of the bridge, whatever calls interleave:
whenever the registry is not at work, a MAC in the registry has one open stream, a MAC that is not has
none, every open stream is that of a MAC in the registry, and the stream of a MAC was opened after every
moment at which the MAC was not in the registry. No stream is overwritten in `downlink` while open. -/
theorem one_stream_per_gateway (hr : Run (bridge cfg) ok {} h c) :
    (c.shared.locked = false →
      (∀ mac ∈ c.shared.registry, ∃! st, c.shared.ttn.OpenStream mac st) ∧
      (∀ mac ∉ c.shared.registry, ∀ st, ¬ c.shared.ttn.OpenStream mac st) ∧
      (∀ st gtw, c.shared.ttn.streams[st]? = some ⟨gtw, true⟩ →
        ∃ mac ∈ c.shared.registry, c.shared.ttn.OpenStream mac st) ∧
      ∀ en ∈ h, en.pre.locked = false → ∀ mac ∉ en.pre.registry, ∀ st,
        c.shared.ttn.OpenStream mac st → en.pre.ttn.streams.length ≤ st) ∧
    ∀ en ∈ h, ∀ gtw st, en.event.1 = .ttn (.setDownlink gtw st) → ∀ old,
      en.pre.ttn.downlink gtw = some old → ∀ gtw', en.pre.ttn.streams[old]? ≠ some ⟨gtw', true⟩ := by
  have hlock := lockInv_bridge hr
  constructor
  · intro hfree
    have hone : OneStream c.shared := hlock.1.inv_of_free (not_held_of_unlocked hfree)
    refine ⟨fun mac hm => hone.existsUnique_openStream hm, ?_, ?_, ?_⟩
    · intro mac hm st hst
      exact hm (hone.openStream_iff.mp hst).1
    · intro st gtw hs
      rcases hone.of_open st gtw hs with hf | ⟨mac, hm, hl, -⟩
      · cases hf
      · exact ⟨mac, hm, gtw, hl, hs⟩
    · -- a stream that was there already was open then, and so belongs to another MAC
      intro en hen hfree' mac hm st hst
      by_contra hlt
      obtain ⟨gtw, hl, hs⟩ := hst
      have holder : Older en.pre.ttn c.shared.ttn :=
        hr.linked.rel_of_mem (fun _ => .refl _) (fun h₁ h₂ => h₁.trans h₂)
          (fun _ _ _ _ hs => older_of_bridgeSem hs) en hen
      have hpast : OneStream en.pre := (hlock.2 en hen).1 (not_held_of_unlocked hfree')
      rcases hpast.of_open st gtw (holder.was_open st gtw (Nat.lt_of_not_le hlt) hs) with
        hf | ⟨mac', hm', hl', -⟩
      · cases hf
      · rw [hone.inj mac mac' gtw hl (holder.lookup mac' gtw hl')] at hm
        exact hm hm'
  · intro en hen gtw st he
    rcases (hlock.2 en hen).2 with hlock' | hunlock | hquiet | hguar
    · rw [he] at hlock'
      cases hlock'
    · rw [he] at hunlock
      cases hunlock
    · rw [he] at hquiet
      exact hquiet.elim
    · rw [he] at hguar
      exact hguar

theorem exists_run_registered : ∃ h c, Run (bridge sampleSettings) (fun _ _ => True) {} h c ∧
    c.shared.locked = false ∧ sampleMAC ∈ c.shared.registry := by
  have r₀ : Run (bridge sampleSettings) (fun _ _ => True) {} [] ⟨{}, []⟩ := .init
  have r₁ := r₀.start (BridgeCall.set sampleMAC .zero) trivial trivial
  have r₂ : Run (bridge sampleSettings) _ _ _ ⟨⟨true, ∅, {}⟩, _⟩ :=
    r₁.act (i := 0) (e := BridgeEff.lock) (r := ()) rfl ⟨rfl, rfl⟩ trivial
  have r₃ : Run (bridge sampleSettings) _ _ _ ⟨⟨true, ∅, {}⟩, _⟩ :=
    r₂.act (i := 0) (e := BridgeEff.registry (.lookup sampleMAC)) (r := none) rfl
      ⟨_, ⟨rfl, rfl⟩, rfl⟩ trivial
  have r₄ : Run (bridge sampleSettings) _ _ _ ⟨⟨true, ∅, {}⟩, _⟩ :=
    r₃.act (i := 0) (e := BridgeEff.ttn (.getGtw sampleMAC)) (r := none) rfl
      ⟨_, ⟨rfl, rfl⟩, rfl⟩ trivial
  have r₅ : Run (bridge sampleSettings) _ _ _ ⟨⟨true, ∅, sampleTtn⟩, _⟩ :=
    r₄.act (i := 0) (e := BridgeEff.ttn (.newGtw sampleMAC)) (r := (0 : ℕ)) rfl
      ⟨sampleTtn, newGtw_sample, rfl⟩ trivial
  have r₆ : Run (bridge sampleSettings) _ _ _ ⟨⟨true, ∅, sampleTtn.openStream 0⟩, _⟩ :=
    r₅.act (i := 0) (e := BridgeEff.ttn (.newDownlinkStream 0)) (r := (0 : ℕ)) rfl
      ⟨_, ⟨rfl, rfl⟩, rfl⟩ trivial
  have r₇ := r₆.act (i := 0) (e := BridgeEff.ttn (.setDownlink 0 0)) (r := ()) rfl ⟨_, rfl, rfl⟩ trivial
  have r₈ := r₇.act (i := 0) (e := BridgeEff.registry (.store sampleMAC .zero)) (r := ()) rfl
    ⟨_, rfl, rfl⟩ trivial
  have r₉ := r₈.act (i := 0) (e := BridgeEff.unlock) (r := ()) rfl rfl trivial
  exact ⟨_, _, r₉, rfl, Finmap.mem_insert.mpr (.inl rfl)⟩

/-- The gateway that registered has one open stream. -/
theorem one_stream_registered : ∃ h c, Run (bridge sampleSettings) (fun _ _ => True) {} h c ∧
    sampleMAC ∈ c.shared.registry ∧ ∃! st, c.shared.ttn.OpenStream sampleMAC st := by
  obtain ⟨h, c, hr, hfree, hm⟩ := exists_run_registered
  exact ⟨h, c, hr, hm, ((one_stream_per_gateway hr).1 hfree).1 sampleMAC hm⟩

end GatewayBridge.Ttn
