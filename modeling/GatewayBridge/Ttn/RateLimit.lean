import GatewayBridge.Ttn.Sessions
import GatewayBridge.Metrics.Average

/-!
# The limit on uplinks

`SetRxRateLimit` documents a limit on the uplinks of a gateway per minute. `PublishGatewayRX`
counts an uplink, and drops it if `Rate` is more than the limit. `Rate` is an average over
the intervals between ticks, which are five seconds long, and it is per second.

What the average of a `gtw` is at any point of a run is determined by the uplinks counted so
far (`Tally`): how many in each interval since the `gtw` was made, and how many since
the last tick. Every effect keeps this (`Averages.snoc`), so it holds in every run
(`averages_backend`). An average lies between the counts that it averages, and so a gateway
that stays within the limit is never cut off. One that stays above it is cut off if it
is sixty times above it; `rate_limit_meets_minute` says for which counts the limit is per minute.
-/

namespace GatewayBridge.Ttn

open GatewayBridge.Go GatewayBridge.Lora GatewayBridge.Process GatewayBridge.Semtech GatewayBridge.Metrics Prog

/-! ### Counting uplinks -/

/-- The uplinks of a `gtw`: how many in each interval that has ended, and how many in the present one. -/
structure Tally where
  /-- The intervals that have ended. -/
  closed : List ℕ := []
  /-- The present interval. -/
  current : ℕ := 0
  deriving DecidableEq

/-- One more effect, on a `gtw` that was made before. -/
def Tally.count (gtw : ℕ) (t : Tally) : TtnEff → Tally
  | .tick => ⟨t.closed ++ [t.current], 0⟩
  | .rxRateUpdate gtw' _ => if gtw' = gtw then ⟨t.closed, t.current + 1⟩ else t
  | _ => t

/-- One more entry of the history. -/
def Tally.step (gtw : ℕ) (t : Tally) (en : TtnEntry) : Tally :=
  if gtw < en.pre.gtws.length then t.count gtw en.event.1 else t

/-- The uplinks of a `gtw`, in a history. -/
def tally (gtw : ℕ) (h : List TtnEntry) : Tally := h.foldl (Tally.step gtw) {}

theorem tally_snoc (gtw : ℕ) (h : List TtnEntry) (en : TtnEntry) :
    tally gtw (h ++ [en]) = (tally gtw h).step gtw en := by
  rw [tally, List.foldl_append, List.foldl_cons, List.foldl_nil, tally]

/-- Uplinks per nanosecond, in an interval with `n` of them. -/
def instantRate (n : ℕ) : ℚ := n / (5 * 10 ^ 9)

/-- The average that the counts determine. -/
def Tally.ewma (alpha : ℚ) (t : Tally) : EWMA where
  uncounted := t.current
  alpha := alpha
  rate := average alpha (t.closed.map instantRate)
  init := !t.closed.isEmpty

variable {cfg : Settings} {alpha : ℚ} {t t' : TtnState} {gtw : ℕ} {e : TtnEff}

theorem Tally.ewma_update (s : Tally) :
    (s.ewma alpha).update 1 = Tally.ewma alpha ⟨s.closed, s.current + 1⟩ := rfl

theorem Tally.ewma_tick (s : Tally) :
    (s.ewma alpha).tick = Tally.ewma alpha ⟨s.closed ++ [s.current], 0⟩ := by
  have hrate : (if !s.closed.isEmpty then
      average alpha (s.closed.map instantRate) +
        alpha * (instantRate s.current - average alpha (s.closed.map instantRate))
      else instantRate s.current) = average alpha ((s.closed ++ [s.current]).map instantRate) := by
    rw [List.map_append, List.map_singleton]
    cases hc : s.closed with
    | nil => rfl
    | cons n ns => exact (average_append_singleton alpha (List.cons_ne_nil _ _) _).symm
  have hinit : (!(s.closed ++ [s.current]).isEmpty) = true := by simp
  rw [EWMA.tick, Tally.ewma, Tally.ewma, hinit, ← hrate]
  rfl

/-! ### One effect -/

/-- What an effect does to the average of a `gtw`. -/
def rateAfter (gtw : ℕ) (rate : EWMA) : TtnEff → EWMA
  | .tick => rate.tick
  | .rxRateUpdate gtw' n => if gtw' = gtw then rate.update n else rate
  | _ => rate

theorem rxRate_of_modify {f : Gtw → Gtw} {gtw' : ℕ} {g' : Gtw}
    (hg' : (t.modify gtw' f).gtws[gtw]? = some g') :
    ∃ g, t.gtws[gtw]? = some g ∧ g' = if gtw' = gtw then f g else g := by
  rw [TtnState.modify, List.getElem?_modify] at hg'
  obtain ⟨g, hg, rfl⟩ := Option.map_eq_some_iff.mp hg'
  exact ⟨g, hg, rfl⟩

theorem rxRate_of_newGtw {mac : EUI64} {g' : Gtw} (hg' : (t.newGtw cfg mac).2.gtws[gtw]? = some g') :
    t.gtws[gtw]? = some g' ∨ (t.gtws.length ≤ gtw ∧ g'.rxRate = { alpha := cfg.alpha }) := by
  rw [TtnState.newGtw] at hg'
  cases hl : t.gateways.lookup mac with
  | some gtw' =>
    rw [hl] at hg'
    exact .inl hg'
  | none =>
    rw [hl, List.getElem?_append] at hg'
    split_ifs at hg' with hlt
    · exact .inl hg'
    · rw [List.getElem?_singleton] at hg'
      split_ifs at hg'
      cases hg'
      exact .inr ⟨Nat.le_of_not_lt hlt, rfl⟩

/-- **What an effect does to the averages.** -/
theorem rxRate_of_ttnSem {r : e.Resp} {g' : Gtw} (h : ttnSem cfg e t r t') (hg' : t'.gtws[gtw]? = some g') :
    (∃ g, t.gtws[gtw]? = some g ∧ g'.rxRate = rateAfter gtw g.rxRate e) ∨
      (t.gtws.length ≤ gtw ∧ g'.rxRate = { alpha := cfg.alpha }) := by
  cases e with
  | newGtw mac =>
    have hpost : t' = (t.newGtw cfg mac).2 := congrArg Prod.snd h
    rw [hpost] at hg'
    rcases rxRate_of_newGtw hg' with hold | hnew
    · exact .inl ⟨g', hold, rfl⟩
    · exact .inr hnew
  | setDownlink gtw' st =>
    cases h
    obtain ⟨g, hg, rfl⟩ := rxRate_of_modify hg'
    refine .inl ⟨g, hg, ?_⟩
    split_ifs <;> rfl
  | rxRateUpdate gtw' n =>
    cases h
    obtain ⟨g, hg, rfl⟩ := rxRate_of_modify hg'
    refine .inl ⟨g, hg, ?_⟩
    rw [rateAfter]
    split_ifs <;> rfl
  | configure gtw' settings =>
    cases h
    obtain ⟨g, hg, rfl⟩ := rxRate_of_modify hg'
    refine .inl ⟨g, hg, ?_⟩
    split_ifs <;> rfl
  | tick =>
    cases h
    rw [List.getElem?_map, Option.map_eq_some_iff] at hg'
    obtain ⟨g, hg, rfl⟩ := hg'
    exact .inl ⟨g, hg, rfl⟩
  | closeDownlink gtw' =>
    obtain ⟨st, -, rfl⟩ := h
    exact .inl ⟨g', hg', rfl⟩
  | newDownlinkStream _ | getGtw _ | downlink _ | rxRate _ | conf _ =>
    obtain ⟨-, rfl⟩ := h
    exact .inl ⟨g', hg', rfl⟩
  | now | uplinkSend _ _ | findGateway _ | statusSend _ _ =>
    cases h
    exact .inl ⟨g', hg', rfl⟩

/-! ### Runs -/

/-- The effect counts one uplink, if it counts any. -/
def TtnEff.CountsOne : TtnEff → Prop
  | .rxRateUpdate _ n => n = 1
  | _ => True

/-- The averages are those that the counts of the history determine, and of a `gtw` that is yet to be made
nothing was counted. -/
structure Averages (cfg : Settings) (h : List TtnEntry) (t : TtnState) : Prop where
  /-- The average of a `gtw`. -/
  rxRate : ∀ (gtw : ℕ) (g : Gtw), t.gtws[gtw]? = some g → g.rxRate = (tally gtw h).ewma cfg.alpha
  /-- Nothing was counted for one that is not there. -/
  fresh : ∀ gtw, t.gtws.length ≤ gtw → tally gtw h = {}

/-- **Every effect keeps the averages.** -/
theorem Averages.snoc {h : List TtnEntry} {en : TtnEntry} (hav : Averages cfg h en.pre)
    (hs : ttnSem cfg en.event.1 en.pre en.event.2 en.post)
    (hone : en.event.1.CountsOne) : Averages cfg (h ++ [en]) en.post where
  rxRate gtw g' hg' := by
    rw [tally_snoc, Tally.step]
    rcases rxRate_of_ttnSem hs hg' with ⟨g, hg, hrate⟩ | ⟨hge, hrate⟩
    · rw [if_pos (List.getElem?_eq_some_iff.mp hg).1, hrate, hav.rxRate gtw g hg]
      -- only a tick and an update count
      revert hone
      cases en.event.1 with
      | tick => exact fun _ => Tally.ewma_tick _
      | rxRateUpdate gtw' n =>
        rintro rfl
        rw [rateAfter, Tally.count]
        split_ifs
        · exact Tally.ewma_update _
        · rfl
      | _ => exact fun _ => rfl
    · rw [if_neg (Nat.not_lt.mpr hge), hav.fresh gtw hge, hrate]
      rfl
  fresh gtw hge := by
    have hlen := (change_of_ttnSem hs).joins.length_le
    rw [tally_snoc, Tally.step, if_neg (by omega)]
    exact hav.fresh gtw (by omega)

/-- A call counts one uplink at a time. -/
theorem countsOne_body (l : TtnCall) : (l.body cfg).Uses TtnEff.CountsOne := by
  have hsession : ∀ mac, (session mac).Uses TtnEff.CountsOne := fun mac => uses_session trivial trivial
  cases l with
  | publishRX mac rxPacket =>
    exact uses_publishGatewayRX (hsession mac) (fun _ => rfl) (fun _ => trivial) trivial fun _ _ => trivial
  | subscribe mac => exact (hsession mac).bind fun gtw => ⟨trivial, fun downlink => ⟨trivial, fun _ => trivial⟩⟩
  | unSubscribe mac =>
    refine ⟨trivial, fun found => ?_⟩
    cases found with
    | none => trivial
    | some gtw =>
      refine ⟨trivial, fun downlink => ?_⟩
      cases downlink with
      | none => trivial
      | some st => exact ⟨trivial, fun _ => trivial⟩
  | publishStats mac stats => exact uses_publishGatewayStats (hsession mac) (fun _ => trivial) fun _ _ => trivial
  | findConf gtw => exact uses_findConf trivial fun _ => trivial
  | tick => exact ⟨trivial, fun _ => trivial⟩

/-- From no `gtw`s the averages are as they should be, as long as uplinks are counted one at a time. -/
theorem averages_of_linked {h : List TtnEntry} (hl : Linked (ttnSem cfg) {} h t)
    (hone : ∀ en ∈ h, en.event.1.CountsOne) : Averages cfg h t := by
  induction hl with
  | nil => exact ⟨fun gtw g hg => by simp at hg, fun gtw _ => rfl⟩
  | @snoc h t en _ hpre hs ih =>
    subst hpre
    have hav := ih fun en' hen' => hone en' (List.mem_append_left _ hen')
    exact hav.snoc hs (hone en (List.mem_append_right _ (List.mem_singleton_self en)))

variable {ok : TtnCfg → Move TtnCall TtnEff → Prop} {h : List TtnEntry} {c : TtnCfg}

/-- **In every run, the average of a `gtw` is the one that its counts determine.** -/
theorem averages_backend {h₁ h₂ : List TtnEntry} {en : TtnEntry}
    (hr : Run (backend cfg) ok {} (h₁ ++ en :: h₂) c) : Averages cfg h₁ en.pre := by
  refine averages_of_linked hr.linked.before.1 fun en' hen' => ?_
  obtain ⟨l, -, hone⟩ := hr.uses countsOne_body en' (List.mem_append_left _ hen')
  exact hone

/-! ### The rate that a call finds -/

variable {limit : ℚ}

/-- Counts of at most five times the limit give a rate of at most the limit. -/
theorem Tally.perSecond_le {s : Tally} (halpha : alpha ∈ Set.Icc 0 1) (hlimit : 0 < limit)
    (h : ∀ n ∈ s.closed, (n : ℚ) ≤ 5 * limit) : (s.ewma alpha).perSecond ≤ limit := by
  rcases eq_or_ne s.closed [] with hnil | hne
  · have hrate : (s.ewma alpha).perSecond = 0 * 10 ^ 9 := by rw [EWMA.perSecond, Tally.ewma, hnil]; rfl
    rw [hrate, zero_mul]
    exact hlimit.le
  · have hmem : average alpha (s.closed.map instantRate) ∈ Set.Iic (limit / 10 ^ 9) := by
      refine average_mem (convex_Iic _) halpha (by simpa using hne) fun q hq => ?_
      obtain ⟨n, hn, rfl⟩ := List.mem_map.mp hq
      rw [Set.mem_Iic, instantRate, div_le_div_iff₀ (by norm_num) (by norm_num)]
      linarith [h n hn]
    exact (le_div_iff₀ (by norm_num)).mp hmem

/-- Counts of more than five times the limit give a rate of more than the limit. -/
theorem Tally.lt_perSecond {s : Tally} (halpha : alpha ∈ Set.Icc 0 1) (hne : s.closed ≠ [])
    (h : ∀ n ∈ s.closed, 5 * limit < (n : ℚ)) : limit < (s.ewma alpha).perSecond := by
  have hmem : average alpha (s.closed.map instantRate) ∈ Set.Ioi (limit / 10 ^ 9) := by
    refine average_mem (convex_Ioi _) halpha (by simpa using hne) fun q hq => ?_
    obtain ⟨n, hn, rfl⟩ := List.mem_map.mp hq
    rw [Set.mem_Ioi, instantRate, div_lt_div_iff₀ (by norm_num) (by norm_num)]
    linarith [h n hn]
  exact (div_lt_iff₀ (by norm_num)).mp hmem

/-- The uplinks that are sent to the router. -/
def uplinksSent (tr : List (Event TtnEff TtnEff.Resp)) : List UplinkMessage :=
  tr.filterMap fun
    | ⟨.uplinkSend _ message, _⟩ => some message
    | _ => none

variable {mac : EUI64} {rxPacket : RXPacketBytes} {tr : List (Event TtnEff TtnEff.Resp)}
  {a : Except GwError Unit}

theorem uplinksSent_eq_nil (h : ∀ ev ∈ tr, ev.1.target = none) : uplinksSent tr = [] := by
  rw [uplinksSent, List.filterMap_eq_nil_iff]
  rintro ⟨e, r⟩ hev
  cases e with
  | uplinkSend gtw message => cases h _ hev
  | _ => rfl

/-- `PublishGatewayRX` under a limit. -/
theorem publishGatewayRX_eq (hlimit : 0 < cfg.rxRateLimit) (mac : EUI64) (rxPacket : RXPacketBytes) :
    publishGatewayRX cfg mac rxPacket = session mac >>= fun gtw =>
      eff (.rxRateUpdate gtw 1) fun _ => eff (.rxRate gtw) fun rate =>
        if cfg.rxRateLimit < rate then ret (.ok ())
        else eff .now fun now => eff (.uplinkSend gtw (convertRXPacket now rxPacket)) fun _ => ret (.ok ()) := by
  unfold publishGatewayRX overRate
  simp only [gt_iff_lt, if_pos hlimit, ask_bind, eff_bind, pure_eq, ret_bind, decide_eq_true_eq]

/-- A call counts its uplink, reads the rate, and sends the uplink if the rate is within the limit. -/
theorem exec_publishGatewayRX (hlimit : 0 < cfg.rxRateLimit)
    (h : Exec (publishGatewayRX cfg mac rxPacket) tr (ret a)) :
    ∃ (tr₀ tr₁ : List (Event TtnEff TtnEff.Resp)) (gtw : ℕ) (rate : ℚ),
      (∀ ev ∈ tr₀, ev.1.target = none) ∧
      tr = tr₀ ++ ⟨.rxRateUpdate gtw 1, ()⟩ :: ⟨.rxRate gtw, rate⟩ :: tr₁ ∧
      if cfg.rxRateLimit < rate then tr₁ = []
      else ∃ now, tr₁ = [⟨.now, now⟩, ⟨.uplinkSend gtw (convertRXPacket now rxPacket), ()⟩] := by
  rw [publishGatewayRX_eq hlimit] at h
  obtain ⟨gtw, tr₀, tr₁, h₀, h₁, rfl⟩ := h.bind_ret
  obtain ⟨_, tr₂, rfl, h₂⟩ := h₁.eff_ret
  obtain ⟨rate, tr₃, rfl, h₃⟩ := h₂.eff_ret
  refine ⟨tr₀, tr₃, gtw, rate, target_session h₀, rfl, ?_⟩
  split_ifs at h₃ ⊢
  · exact (exec_ret_iff.mp h₃).1
  · obtain ⟨now, tr₄, rfl, h₄⟩ := h₃.eff_ret
    obtain ⟨_, tr₅, rfl, h₅⟩ := h₄.eff_ret
    obtain ⟨rfl, -⟩ := exec_ret_iff.mp h₅
    exact ⟨now, rfl⟩

theorem uplinksSent_publishGatewayRX (hlimit : 0 < cfg.rxRateLimit)
    (h : Exec (publishGatewayRX cfg mac rxPacket) tr (ret a)) :
    ∃ (gtw : ℕ) (rate : ℚ), ⟨.rxRate gtw, rate⟩ ∈ tr ∧
      (∀ ev ∈ tr, ∀ gtw', ev.1 = .rxRate gtw' → ev = ⟨.rxRate gtw, rate⟩) ∧
      if cfg.rxRateLimit < rate then uplinksSent tr = []
      else ∃ now, uplinksSent tr = [convertRXPacket now rxPacket] := by
  obtain ⟨tr₀, tr₁, gtw, rate, htarget, rfl, htr₁⟩ := exec_publishGatewayRX hlimit h
  have hsent : uplinksSent (tr₀ ++ ⟨.rxRateUpdate gtw 1, ()⟩ :: ⟨.rxRate gtw, rate⟩ :: tr₁) =
      uplinksSent tr₁ := by
    rw [uplinksSent, List.filterMap_append, ← uplinksSent, uplinksSent_eq_nil htarget]
    rfl
  refine ⟨gtw, rate, by simp, fun ev hev gtw' he => ?_, ?_⟩
  · rcases List.mem_append.mp hev with hev | hev
    · cases he ▸ htarget ev hev
    · rcases List.mem_cons.mp hev with rfl | hev
      · cases he
      · rcases List.mem_cons.mp hev with rfl | hev
        · rfl
        · split_ifs at htr₁
          · rw [htr₁] at hev
            cases hev
          · obtain ⟨now, rfl⟩ := htr₁
            rcases List.mem_pair.mp hev with rfl | rfl <;> cases he
  · rw [hsent]
    split_ifs at htr₁ ⊢
    · rw [htr₁]
      rfl
    · obtain ⟨now, rfl⟩ := htr₁
      exact ⟨now, rfl⟩

/-! ### The result -/

/-- What the limit says of an uplink that comes after intervals with these counts, twelve to a minute: it
is forwarded where they all stay within the limit, and dropped where they all exceed it. -/
def PerMinute (limit : ℚ) (counts : List ℕ) (rxPacket : RXPacketBytes) (sent : List UplinkMessage) : Prop :=
  ((∀ n ∈ counts, 12 * (n : ℚ) ≤ limit) → ∃ now, sent = [convertRXPacket now rxPacket]) ∧
  (counts ≠ [] → (∀ n ∈ counts, limit < 12 * (n : ℚ)) → sent = [])

variable {sent : List UplinkMessage}

/-- A rate that is the average of the counts cuts off per minute where no count is between a twelfth of the
limit and five times it. -/
theorem perMinute_of_rate {s : Tally} (halpha : alpha ∈ Set.Icc 0 1) (hlimit : 0 < limit)
    (hsent : if limit < (s.ewma alpha).perSecond then sent = []
      else ∃ now, sent = [convertRXPacket now rxPacket])
    (hcounts : ∀ n ∈ s.closed, 12 * (n : ℚ) ≤ limit ∨ 5 * limit < n) :
    PerMinute limit s.closed rxPacket sent := by
  constructor
  · intro hle
    rw [if_neg (not_lt.mpr (Tally.perSecond_le halpha hlimit fun n hn => ?_))] at hsent
    · exact hsent
    · linarith [hle n hn]
  · intro hne hlt
    rw [if_pos (Tally.lt_perSecond halpha hne fun n hn => ?_)] at hsent
    · exact hsent
    · exact (hcounts n hn).resolve_left (not_le.mpr (hlt n hn))

/-- A count between a twelfth of the limit and five times it, in every interval, is over the limit and not
cut off. -/
theorem not_perMinute_of_rate {s : Tally} {n : ℕ} (halpha : alpha ∈ Set.Icc 0 1) (hlimit : 0 < limit)
    (hsent : if limit < (s.ewma alpha).perSecond then sent = []
      else ∃ now, sent = [convertRXPacket now rxPacket])
    (hne : s.closed ≠ []) (hsame : ∀ m ∈ s.closed, m = n) (hover : limit < 12 * n) (hle : n ≤ 5 * limit) :
    ¬ PerMinute limit s.closed rxPacket sent := by
  intro hper
  have hnone : sent = [] := hper.2 hne fun m hm => by
    rw [hsame m hm]
    exact hover
  rw [if_neg (not_lt.mpr (Tally.perSecond_le halpha hlimit fun m hm => ?_))] at hsent
  · obtain ⟨now, hsome⟩ := hsent
    rw [hnone] at hsome
    cases hsome
  · rw [hsame m hm]
    exact hle

/-- The rate that is read is the average of the counts so far. -/
theorem rate_of_read {h₁ h₂ : List TtnEntry} {en : TtnEntry} {rate : ℚ}
    (hr : Run (backend cfg) ok {} (h₁ ++ en :: h₂) c) (hevent : en.event = ⟨.rxRate gtw, rate⟩) :
    rate = ((tally gtw h₁).ewma cfg.alpha).perSecond := by
  have hsem := hr.linked.before.2
  rw [hevent] at hsem
  obtain ⟨g, hg, hrate⟩ := Option.map_eq_some_iff.mp hsem.1
  rw [(averages_backend hr).rxRate gtw g hg] at hrate
  exact hrate.symm

/-- **The limit is per minute where no count is between a twelfth of it and five times it.** In every run of
the backend, an uplink that a call has published was forwarded or dropped by the counts of the intervals
that ended before the call read the rate. Where these are all the same, the condition is exact. -/
theorem rate_limit_meets_minute (halpha : 0 < cfg.alpha ∧ cfg.alpha < 1) (hlimit : 0 < cfg.rxRateLimit)
    (hr : Run (backend cfg) ok {} h c) {i : ℕ}
    (ht : c.threads[i]? = some ⟨.publishRX mac rxPacket, .ret a⟩) :
    (∃ en ∈ h, en.tid = i ∧ ∃ gtw, en.event.1 = .rxRate gtw) ∧
    ∀ h₁ en h₂ gtw, h = h₁ ++ en :: h₂ → en.tid = i → en.event.1 = .rxRate gtw →
      en.pre.gateways.lookup mac = some gtw ∧
      ((∀ n ∈ (tally gtw h₁).closed, 12 * (n : ℚ) ≤ cfg.rxRateLimit ∨ 5 * cfg.rxRateLimit < n) →
        PerMinute cfg.rxRateLimit (tally gtw h₁).closed rxPacket (uplinksSent (performed i h))) ∧
      ∀ n : ℕ, (tally gtw h₁).closed ≠ [] → (∀ m ∈ (tally gtw h₁).closed, m = n) →
        (PerMinute cfg.rxRateLimit (tally gtw h₁).closed rxPacket (uplinksSent (performed i h)) ↔
          12 * (n : ℚ) ≤ cfg.rxRateLimit ∨ 5 * cfg.rxRateLimit < n) := by
  have hunit : cfg.alpha ∈ Set.Icc 0 1 := ⟨halpha.1.le, halpha.2.le⟩
  obtain ⟨gtw, rate, hread, hunique, hsent⟩ := uplinksSent_publishGatewayRX hlimit (hr.exec ht)
  refine ⟨?_, fun h₁ en h₂ gtw' hh htid he => ?_⟩
  · obtain ⟨en, hen, htid, hevent⟩ := mem_performed_iff.mp hread
    exact ⟨en, hen, htid, gtw, congrArg Sigma.fst hevent⟩
  · have hen : en ∈ h := hh ▸ List.mem_append_right _ List.mem_cons_self
    have hevent := hunique en.event (mem_performed_iff.mpr ⟨en, hen, htid, rfl⟩) gtw' he
    rw [hevent] at he
    cases he
    rw [rate_of_read (hh ▸ hr) hevent] at hsent
    refine ⟨lookup_of_entry hr ht rfl hen htid (by rw [hevent]; rfl), ?_, fun n hne hsame => ⟨?_, ?_⟩⟩
    · exact perMinute_of_rate hunit hlimit hsent
    · intro hper
      by_contra hbetween
      rw [not_or, not_le, not_lt] at hbetween
      exact not_perMinute_of_rate hunit hlimit hsent hne hsame hbetween.1 hbetween.2 hper
    · intro hn
      refine perMinute_of_rate hunit hlimit hsent fun m hm => ?_
      rw [hsame m hm]
      exact hn

/-! ### One uplink in five seconds -/

/-- The bridge of the samples, with a limit. -/
def limitedSettings (limit : ℚ) : Settings := { sampleSettings with rxRateLimit := limit }

/-- The rate that an uplink finds which is the second, after a tick. -/
def secondRate : ℚ := (((({ alpha := 2 / 25 } : EWMA).update 1).tick).update 1).perSecond

theorem secondRate_eq : secondRate = 1 / 5 := by
  simp only [secondRate, EWMA.update, EWMA.tick, EWMA.perSecond]
  norm_num

/-- What is left of `PublishGatewayRX` once it knows the rate. -/
def afterRate (limit rate : ℚ) : TtnProg (Except GwError Unit) :=
  if limit < rate then ret (.ok ())
  else eff .now fun now => eff (.uplinkSend 0 (convertRXPacket now sampleUplink)) fun _ => ret (.ok ())

/-- An uplink, a tick, and another uplink up to where it has read the rate. -/
theorem run_two_uplinks (hlimit : 0 < limit) :
    ∃ h t c, Run (backend (limitedSettings limit)) (fun _ _ => True) {}
        (h ++ [⟨2, ⟨.rxRate 0, secondRate⟩, t, t⟩]) c ∧
      c.threads[2]? = some ⟨.publishRX sampleMAC sampleUplink, afterRate limit secondRate⟩ ∧
      (tally 0 h).closed = [1] := by
  have hbody : (backend (limitedSettings limit)).body (.publishRX sampleMAC sampleUplink) =
      session sampleMAC >>= fun gtw => eff (.rxRateUpdate gtw 1) fun _ => eff (.rxRate gtw) fun rate =>
        if limit < rate then ret (.ok ())
        else eff .now fun now => eff (.uplinkSend gtw (convertRXPacket now sampleUplink)) fun _ => ret (.ok ()) :=
    publishGatewayRX_eq hlimit sampleMAC sampleUplink
  have r₀ : Run (backend (limitedSettings limit)) (fun _ _ => True) {} [] ⟨{}, []⟩ := .init
  have r₁ := r₀.start_of_body hbody trivial trivial
  have r₂ : Run (backend (limitedSettings limit)) _ _ _ ⟨{}, _⟩ :=
    r₁.act (i := 0) (e := TtnEff.getGtw sampleMAC) (r := none) rfl ⟨rfl, rfl⟩ trivial
  have hmade : (backend (limitedSettings limit)).sem (.newGtw sampleMAC) {} (0 : ℕ) sampleTtn := rfl
  have r₃ := r₂.act (i := 0) rfl hmade trivial
  have r₄ := r₃.act (i := 0) (r := ()) rfl rfl trivial
  have r₅ := r₄.start TtnCall.tick trivial trivial
  have r₆ := r₅.act (i := 1) (r := ()) rfl rfl trivial
  have r₇ := r₆.start_of_body hbody trivial trivial
  have r₈ := r₇.act (i := 2) (e := TtnEff.getGtw sampleMAC) (r := some (0 : ℕ)) rfl ⟨rfl, rfl⟩ trivial
  have r₉ := r₈.act (i := 2) (r := ()) rfl rfl trivial
  have r₁₀ := r₉.act (i := 2) (e := TtnEff.rxRate 0) (r := secondRate) rfl ⟨rfl, rfl⟩ trivial
  exact ⟨_, _, _, r₁₀, rfl, rfl⟩

/-- A limit of a tenth of an uplink per minute: the second uplink is dropped. -/
theorem rate_limit_meets_minute_dropped :
    ∃ h c, Run (backend (limitedSettings (1 / 10))) (fun _ _ => True) {} h c ∧
      c.threads[2]? = some ⟨.publishRX sampleMAC sampleUplink, .ret (.ok ())⟩ ∧
      uplinksSent (performed 2 h) = [] := by
  obtain ⟨h, t, c, hr, ht, hclosed⟩ := run_two_uplinks (show (0 : ℚ) < 1 / 10 by norm_num)
  have hover : (1 / 10 : ℚ) < secondRate := by
    rw [secondRate_eq]
    norm_num
  rw [afterRate, if_pos hover] at ht
  refine ⟨_, c, hr, ht, ?_⟩
  have halpha : 0 < (limitedSettings (1 / 10)).alpha ∧ (limitedSettings (1 / 10)).alpha < 1 := by
    constructor <;> norm_num [limitedSettings, sampleSettings]
  have hmeets := rate_limit_meets_minute halpha (show (0 : ℚ) < 1 / 10 by norm_num) hr ht
  obtain ⟨-, hper, -⟩ := hmeets.2 h _ [] 0 rfl rfl rfl
  rw [hclosed] at hper
  have hlimit : (limitedSettings (1 / 10)).rxRateLimit = 1 / 10 := rfl
  rw [hlimit] at hper
  refine (hper fun n hn => ?_).2 (List.cons_ne_nil _ _) fun n hn => ?_
  · rw [List.mem_singleton.mp hn]
    norm_num
  · rw [List.mem_singleton.mp hn]
    norm_num

/-- A limit of ten uplinks per minute: one in five seconds is more than that, and goes through. -/
theorem twelve_per_minute_forwarded :
    ∃ h₁ en h₂ c, Run (backend (limitedSettings 10)) (fun _ _ => True) {} (h₁ ++ en :: h₂) c ∧
      c.threads[2]? = some ⟨.publishRX sampleMAC sampleUplink, .ret (.ok ())⟩ ∧
      en.tid = 2 ∧ en.event.1 = .rxRate 0 ∧ (tally 0 h₁).closed = [1] ∧
      ¬ PerMinute 10 [1] sampleUplink (uplinksSent (performed 2 (h₁ ++ en :: h₂))) := by
  obtain ⟨h, t, c, hr, ht, hclosed⟩ := run_two_uplinks (show (0 : ℚ) < 10 by norm_num)
  have hunder : ¬ (10 : ℚ) < secondRate := by
    rw [secondRate_eq]
    norm_num
  rw [afterRate, if_neg hunder] at ht
  have r₁ := hr.act (r := (0 : Time)) ht rfl trivial
  have r₂ := r₁.act (r := ()) (Cfg.thread_act_self ht) rfl trivial
  rw [List.append_assoc, List.append_assoc] at r₂
  refine ⟨h, _, _, _, r₂, Cfg.thread_act_self (Cfg.thread_act_self ht), rfl, rfl, hclosed, fun hper => ?_⟩
  have hnone := hper.2 (List.cons_ne_nil _ _) fun n hn => by
    rw [List.mem_singleton.mp hn]
    norm_num
  -- the last entry is the uplink that went through
  have hsend := List.filterMap_eq_nil_iff.mp hnone ⟨.uplinkSend 0 (convertRXPacket 0 sampleUplink), ()⟩
    (mem_performed_iff.mpr ⟨_, List.mem_append_right _ (List.mem_cons_of_mem _ (List.mem_cons_of_mem _
      List.mem_cons_self)), rfl, rfl⟩)
  cases hsend

end GatewayBridge.Ttn
