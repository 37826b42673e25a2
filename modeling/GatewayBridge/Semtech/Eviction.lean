import GatewayBridge.Semtech.Registry

/-!
# Which gateways are evicted

`gateways.cleanup` walks over the map in an order that is not determined, reads the clock anew
for each gateway, calls `onDelete` for those not heard from for a minute, and deletes them;
the first `onDelete` that fails ends it. What one iteration can do is `Iteration`, and what
becomes of one gateway in all of them is its `Fate`.

With readings of the clock that do not decrease, the fates of all gateways give the contract of
`cleanup` (`eviction_exact`). With a clock that stands still and an `onDelete` that fails for
certain MACs, the fate of a gateway still depends on those visited before it, unless no gateway
is behind one that fails (`eviction_order_free_iff`).
-/

namespace GatewayBridge.Semtech

open GatewayBridge.Go GatewayBridge.Lora GatewayBridge.Process Prog

variable {W : Type} {w : World W} {cb : Callbacks} {mac mac' : EUI64} {gw : Gateway} {t now : Time}
  {s s' s₁ : Gateways × W} {tr evs : List RegEvent} {r : Except GwError Unit}

/-! ### What the effects say -/

/-- The readings of the clock, in order. -/
def clock (tr : List RegEvent) : List Time :=
  tr.filterMap fun
    | ⟨.now, t⟩ => some t
    | _ => none

/-- How `onDelete` answered for `mac`, each time it was called. -/
def deletions (mac : EUI64) (tr : List RegEvent) : List (Except GwError Unit) :=
  tr.filterMap fun
    | ⟨.onDelete mac', r⟩ => if mac' = mac then some r else none
    | _ => none

/-- The calls of `onDelete` that failed. -/
def refusals (tr : List RegEvent) : List (EUI64 × GwError) :=
  tr.filterMap fun
    | ⟨.onDelete mac, .error e⟩ => some (mac, e)
    | _ => none

theorem clock_append (tr₁ tr₂ : List RegEvent) : clock (tr₁ ++ tr₂) = clock tr₁ ++ clock tr₂ :=
  List.filterMap_append

theorem deletions_append (mac : EUI64) (tr₁ tr₂ : List RegEvent) :
    deletions mac (tr₁ ++ tr₂) = deletions mac tr₁ ++ deletions mac tr₂ := List.filterMap_append

theorem refusals_append (tr₁ tr₂ : List RegEvent) : refusals (tr₁ ++ tr₂) = refusals tr₁ ++ refusals tr₂ :=
  List.filterMap_append

variable {err : Option GwError}

theorem Iteration.clock_eq (h : Iteration w cb mac now s evs s₁ err) : clock evs = [now] := by
  cases h <;> rfl

theorem Iteration.other (h : Iteration w cb mac now s evs s₁ err) (hne : mac' ≠ mac) :
    s₁.1.lookup mac' = s.1.lookup mac' ∧ deletions mac' evs = [] := by
  have hcall : ∀ r, (if mac = mac' then some r else none : Option (Except GwError Unit)) = none :=
    fun r => if_neg fun he => hne he.symm
  cases h with
  | keep => exact ⟨rfl, rfl⟩
  | drop => exact ⟨Finmap.lookup_erase_ne hne, rfl⟩
  | evict => exact ⟨Finmap.lookup_erase_ne hne, by simp [deletions, hcall]⟩
  | refuse => exact ⟨rfl, by simp [deletions, hcall]⟩

/-- What an iteration did not refuse has no refusal in it; otherwise it has one. -/
theorem Iteration.refusals_eq (h : Iteration w cb mac now s evs s₁ err) :
    refusals evs = (err.map (mac, ·)).toList := by
  cases h <;> rfl

/-! ### The fate of a gateway -/

/-- What becomes of a gateway in a run of `cleanup` with the result `r`: its entry afterwards, and how `onDelete`
answered for it. -/
inductive Fate (cb : Callbacks) (readings : List Time) (r : Except GwError Unit) (gw : Gateway) :
    Option Gateway → List (Except GwError Unit) → Prop
  /-- It was fresh. -/
  | fresh {t : Time} : t ∈ readings → ¬ gw.Stale t → Fate cb readings r gw (some gw) []
  /-- It was not visited any more. -/
  | unvisited {e : GwError} : r = .error e → Fate cb readings r gw (some gw) []
  /-- It was stale, and is gone. -/
  | evicted {t : Time} : t ∈ readings → gw.Stale t →
      Fate cb readings r gw none (if cb.onDelete then [.ok ()] else [])
  /-- It was stale, and its callback ended the run. -/
  | refused {t : Time} {e : GwError} : t ∈ readings → gw.Stale t → cb.onDelete = true → r = .error e →
      Fate cb readings r gw (some gw) [.error e]

variable {readings readings' : List Time} {after : Option Gateway} {answers : List (Except GwError Unit)}

theorem Fate.mono (h : Fate cb readings r gw after answers) (hsub : readings ⊆ readings') :
    Fate cb readings' r gw after answers := by
  cases h with
  | fresh ht hfresh => exact .fresh (hsub ht) hfresh
  | unvisited hr => exact .unvisited hr
  | evicted ht hstale => exact .evicted (hsub ht) hstale
  | refused ht hstale hcb hr => exact .refused (hsub ht) hstale hcb hr

theorem Fate.of_gone (h : Fate cb readings r gw none answers) :
    (∃ t ∈ readings, gw.Stale t) ∧ answers = if cb.onDelete then [.ok ()] else [] := by
  cases h with
  | evicted ht hstale => exact ⟨⟨_, ht, hstale⟩, rfl⟩

theorem Fate.of_fresh (h : Fate cb readings r gw after answers) (hfresh : ∀ t ∈ readings, ¬ gw.Stale t) :
    after = some gw ∧ answers = [] := by
  cases h with
  | fresh => exact ⟨rfl, rfl⟩
  | unvisited => exact ⟨rfl, rfl⟩
  | evicted ht hstale => exact absurd hstale (hfresh _ ht)
  | refused ht hstale => exact absurd hstale (hfresh _ ht)

theorem Fate.of_ok {gw' : Gateway} (h : Fate cb readings (.ok ()) gw (some gw') answers) :
    ∃ t ∈ readings, ¬ gw.Stale t := by
  cases h with
  | fresh ht hfresh => exact ⟨_, ht, hfresh⟩
  | unvisited hr => cases hr
  | refused _ _ _ hr => cases hr

theorem Fate.of_error {e : GwError} (h : Fate cb readings r gw after answers) (he : .error e ∈ answers) :
    (∃ t ∈ readings, gw.Stale t) ∧ after = some gw := by
  cases h with
  | fresh => cases he
  | unvisited => cases he
  | evicted => split_ifs at he <;> simp at he
  | refused ht hstale => exact ⟨⟨_, ht, hstale⟩, rfl⟩

/-- The iteration for a gateway decides its fate. -/
theorem Iteration.fate (h : Iteration w cb mac now s evs s₁ err) (hl : s.1.lookup mac = some gw)
    (hr : ∀ e, err = some e → r = .error e) :
    Fate cb [now] r gw (s₁.1.lookup mac) (deletions mac evs) := by
  have hnow : now ∈ [now] := List.mem_singleton_self now
  cases h with
  | keep hfresh =>
    rw [hl] at hfresh ⊢
    exact .fresh hnow hfresh
  | drop hstale hcb =>
    rw [hl] at hstale
    have hfate : Fate cb [now] r gw none _ := .evicted hnow hstale
    rw [hcb] at hfate
    rw [Finmap.lookup_erase]
    exact hfate
  | evict hstale hcb _ =>
    rw [hl] at hstale
    have hfate : Fate cb [now] r gw none _ := .evicted hnow hstale
    rw [hcb] at hfate
    rw [Finmap.lookup_erase]
    simpa [deletions] using hfate
  | refuse hstale hcb _ =>
    rw [hl] at hstale ⊢
    have hfate : Fate cb [now] r gw (some gw) _ := .refused hnow hstale hcb (hr _ rfl)
    simpa [deletions] using hfate

variable {macs : List EUI64}

/-- A gateway that the loop does not visit is left alone. -/
theorem cleanupRange_other (h : Runs (regSem w) (Gateways.cleanupRange cb macs) s tr r s') (hmac : mac ∉ macs) :
    s'.1.lookup mac = s.1.lookup mac ∧ deletions mac tr = [] := by
  induction macs generalizing s tr with
  | nil =>
    obtain ⟨rfl, -, rfl⟩ := runs_ret_iff.mp h
    exact ⟨rfl, rfl⟩
  | cons mac' macs ih =>
    rw [List.mem_cons, not_or] at hmac
    obtain ⟨now, evs, s₁, ⟨hit, tr', rfl, hrest⟩ | ⟨e, hit, rfl, rfl, rfl⟩⟩ := cleanupRange_cons_iff.mp h
    · obtain ⟨hl, hdel⟩ := hit.other hmac.1
      obtain ⟨hl', hdel'⟩ := ih hrest hmac.2
      rw [deletions_append, hdel, hdel']
      exact ⟨hl'.trans hl, rfl⟩
    · exact hit.other hmac.1

/-- **The fate of a gateway that the loop is to visit.** -/
theorem cleanupRange_fate (hnodup : macs.Nodup) (hmac : mac ∈ macs) (hl : s.1.lookup mac = some gw)
    (h : Runs (regSem w) (Gateways.cleanupRange cb macs) s tr r s') :
    Fate cb (clock tr) r gw (s'.1.lookup mac) (deletions mac tr) := by
  induction macs generalizing s tr with
  | nil => cases hmac
  | cons mac' macs ih =>
    rw [List.nodup_cons] at hnodup
    obtain ⟨now, evs, s₁, ⟨hit, tr', rfl, hrest⟩ | ⟨e, hit, rfl, rfl, rfl⟩⟩ := cleanupRange_cons_iff.mp h
    · rw [clock_append, hit.clock_eq, deletions_append]
      rcases eq_or_ne mac mac' with rfl | hne
      · -- it is this gateway's turn, and the rest of the loop leaves it alone
        obtain ⟨hl', hdel⟩ := cleanupRange_other hrest hnodup.1
        rw [hl', hdel, List.append_nil]
        exact (hit.fate hl fun e he => by cases he).mono (List.subset_append_left _ _)
      · obtain ⟨hl', hdel⟩ := hit.other hne
        rw [hdel, List.nil_append]
        have hmem : mac ∈ macs := (List.mem_cons.mp hmac).resolve_left hne
        exact (ih hnodup.2 hmem (hl'.trans hl) hrest).mono (List.subset_append_right _ _)
    · rw [hit.clock_eq]
      rcases eq_or_ne mac mac' with rfl | hne
      · exact hit.fate hl fun e' he => by rw [Option.some.inj he]
      · obtain ⟨hl', hdel⟩ := hit.other hne
        rw [hdel, hl', hl]
        exact .unvisited rfl

/-- The loop returns the error of the one callback that failed. -/
theorem cleanupRange_refusals (h : Runs (regSem w) (Gateways.cleanupRange cb macs) s tr r s') :
    (r = .ok () ∧ refusals tr = []) ∨ ∃ mac ∈ macs, ∃ e, r = .error e ∧ refusals tr = [(mac, e)] := by
  induction macs generalizing s tr with
  | nil =>
    obtain ⟨rfl, rfl, -⟩ := runs_ret_iff.mp h
    exact .inl ⟨rfl, rfl⟩
  | cons mac macs ih =>
    obtain ⟨now, evs, s₁, ⟨hit, tr', rfl, hrest⟩ | ⟨e, hit, rfl, rfl, rfl⟩⟩ := cleanupRange_cons_iff.mp h
    · rw [refusals_append, hit.refusals_eq]
      rcases ih hrest with hok | ⟨mac', hmac', e, hr, href⟩
      · exact .inl hok
      · exact .inr ⟨mac', List.mem_cons_of_mem _ hmac', e, hr, href⟩
    · exact .inr ⟨mac, List.mem_cons_self, e, rfl, hit.refusals_eq⟩

/-! ### The contract -/

theorem mem_deletions_of_refusals {e : GwError} (h : (mac, e) ∈ refusals tr) : .error e ∈ deletions mac tr := by
  obtain ⟨⟨eff, a⟩, hev, heq⟩ := List.mem_filterMap.mp h
  refine List.mem_filterMap.mpr ⟨_, hev, ?_⟩
  cases eff with
  | onDelete mac' =>
    cases a with
    | error e' =>
      cases heq
      exact if_pos rfl
    | ok _ => cases heq
  | _ => cases heq

/-- **The fate of a gateway**, in whatever order and at whatever times. -/
theorem cleanup_fate (h : Runs (regSem w) (Gateways.cleanup cb) s tr r s') (hl : s.1.lookup mac = some gw) :
    Fate cb (clock tr) r gw (s'.1.lookup mac) (deletions mac tr) := by
  obtain ⟨macs, tr', hnodup, hmem, rfl, hrest⟩ := cleanup_iff.mp h
  have hmac : mac ∈ macs := (hmem mac).mpr (Finmap.lookup_isSome.mp (by rw [hl]; rfl))
  have hfate := cleanupRange_fate hnodup hmac hl hrest
  exact hfate

/-- A gateway that is left was there before. -/
theorem lookup_of_cleanup (h : Runs (regSem w) (Gateways.cleanup cb) s tr r s')
    (hl : s'.1.lookup mac = some gw) : s.1.lookup mac = some gw := by
  rcases cleanup_lookup mac h with hkept | hnone
  · rw [← hkept]
    exact hl
  · rw [hnone] at hl
    cases hl

/-- An error is that of one callback, whose gateway was stale and is kept. -/
theorem cleanup_error {e : GwError} (h : Runs (regSem w) (Gateways.cleanup cb) s tr (.error e) s') :
    ∃ mac gw, refusals tr = [(mac, e)] ∧ s.1.lookup mac = some gw ∧ (∃ t ∈ clock tr, gw.Stale t) ∧
      .error e ∈ deletions mac tr ∧ s'.1.lookup mac = some gw := by
  obtain ⟨macs, tr', hnodup, hmem, rfl, hrest⟩ := cleanup_iff.mp h
  rcases cleanupRange_refusals hrest with ⟨hok, -⟩ | ⟨mac, hmac, e', he, href⟩
  · cases hok
  · cases he
    obtain ⟨gw, hl⟩ := Finmap.mem_iff.mp ((hmem mac).mp hmac)
    have hanswer : .error e ∈ deletions mac tr' := mem_deletions_of_refusals (by rw [href]; simp)
    obtain ⟨hstale, hkept⟩ := (cleanupRange_fate hnodup hmac hl hrest).of_error hanswer
    exact ⟨mac, gw, href, hl, hstale, hanswer, hkept⟩

/-- **Eviction is exact.** With readings `t₀ ≤ … ≤ tₙ` of the clock, in any order of the map and whatever
`onDelete` answers: a gateway that is gone was stale at `tₙ`, and its `onDelete` was called once and agreed;
one that is not stale at `tₙ` is kept as it was, without a call; if `cleanup` returns `nil`, no gateway is
left that was stale at `t₀`; and if it returns an error, one `onDelete` failed, with that error, and its gateway
is kept as it was. -/
theorem eviction_exact (h : Runs (regSem w) (Gateways.cleanup cb) s tr r s')
    (hclock : (clock tr).Pairwise (· ≤ ·)) :
    (∀ mac gw, s.1.lookup mac = some gw → s'.1.lookup mac = none →
      (∃ t ∈ (clock tr).getLast?, gw.lastSeen < t - minute) ∧
        deletions mac tr = if cb.onDelete then [.ok ()] else []) ∧
    (∀ mac gw, s.1.lookup mac = some gw → (∀ t ∈ (clock tr).getLast?, t - minute ≤ gw.lastSeen) →
      s'.1.lookup mac = some gw ∧ deletions mac tr = []) ∧
    (r = .ok () → ∀ mac gw, s'.1.lookup mac = some gw → ∃ t ∈ (clock tr).head?, t - minute ≤ gw.lastSeen) ∧
    ∀ e, r = .error e → ∃ mac gw, refusals tr = [(mac, e)] ∧ s.1.lookup mac = some gw ∧
      s'.1.lookup mac = some gw := by
  have hlast : ∀ {t}, t ∈ clock tr → ∃ tₙ ∈ (clock tr).getLast?, t ≤ tₙ := fun ht =>
    ⟨_, List.getLast?_eq_some_getLast (List.ne_nil_of_mem ht), hclock.rel_getLast ht⟩
  have hfirst : ∀ {t}, t ∈ clock tr → ∃ t₀ ∈ (clock tr).head?, t₀ ≤ t := fun ht =>
    ⟨_, List.head?_eq_some_head (List.ne_nil_of_mem ht), hclock.rel_head ht⟩
  refine ⟨?_, ?_, ?_, ?_⟩
  · intro mac gw hl hgone
    obtain ⟨⟨t, ht, hstale⟩, hcalls⟩ := (hgone ▸ cleanup_fate h hl).of_gone
    obtain ⟨tₙ, htₙ, hle⟩ := hlast ht
    exact ⟨⟨tₙ, htₙ, hstale.mono hle⟩, hcalls⟩
  · intro mac gw hl hfresh
    refine (cleanup_fate h hl).of_fresh fun t ht hstale => ?_
    obtain ⟨tₙ, htₙ, hle⟩ := hlast ht
    exact not_lt.mpr (hfresh tₙ htₙ) (hstale.mono hle)
  · rintro rfl mac gw hl'
    obtain ⟨t, ht, hfresh⟩ := (hl' ▸ cleanup_fate h (lookup_of_cleanup h hl')).of_ok
    obtain ⟨t₀, ht₀, hle⟩ := hfirst ht
    exact ⟨t₀, ht₀, not_lt.mp fun hstale => hfresh (Gateway.Stale.mono hstale hle)⟩
  · rintro e rfl
    obtain ⟨mac, gw, href, hl, -, -, hkept⟩ := cleanup_error h
    exact ⟨mac, gw, href, hl, hkept⟩

/-- Callbacks that fail for certain MACs. -/
def decidedWorld (ok : EUI64 → Bool) : World Unit where
  onNew _ _ r _ := r = .ok ()
  onDelete mac _ r _ := r = if ok mac then .ok () else .error (.callback (str "not connected"))

/-- Another gateway than `sampleMAC`. -/
def otherMAC : EUI64 := ⟨[8, 7, 6, 5, 4, 3, 2, 1], rfl⟩

/-- Two gateways: one last heard from at time `0`, one at time `seen`. -/
def sampleRegistry (seen : Time) : Gateways :=
  ((∅ : Gateways).insert sampleMAC ⟨none, 0, 2⟩).insert otherMAC ⟨none, seen, 2⟩

theorem cleanup_sample {ok : EUI64 → Bool} {seen : Time} {s' : Gateways × Unit}
    (h : Runs (regSem (decidedWorld ok)) (Gateways.cleanupRange ⟨true, true⟩ [sampleMAC, otherMAC])
      (sampleRegistry seen, ()) tr r s') :
    Runs (regSem (decidedWorld ok)) (Gateways.cleanup ⟨true, true⟩) (sampleRegistry seen, ())
      (⟨.range, [sampleMAC, otherMAC]⟩ :: tr) r s' := by
  refine cleanup_iff.mpr ⟨_, tr, by decide, fun mac => ?_, rfl, h⟩
  rw [sampleRegistry, Finmap.mem_insert, Finmap.mem_insert, List.mem_pair, or_comm]
  simp [Finmap.notMem_empty]

/-- At two minutes past `0`, the first gateway is stale and the second is not. -/
theorem eviction_exact_sample :
    ∃ tr s', Runs (regSem (decidedWorld fun _ => true)) (Gateways.cleanup ⟨true, true⟩)
        (sampleRegistry (2 * minute), ()) tr (.ok ()) s' ∧
      s'.1.lookup sampleMAC = none ∧ deletions sampleMAC tr = [.ok ()] ∧
      s'.1.lookup otherMAC = some ⟨none, 2 * minute, 2⟩ ∧ deletions otherMAC tr = [] := by
  have hfirst : Iteration (decidedWorld fun _ => true) ⟨true, true⟩ sampleMAC (2 * minute)
      (sampleRegistry (2 * minute), ()) _ ((sampleRegistry (2 * minute)).erase sampleMAC, ()) none :=
    .evict (by decide) rfl rfl
  have hsecond : Iteration (decidedWorld fun _ => true) ⟨true, true⟩ otherMAC (2 * minute)
      ((sampleRegistry (2 * minute)).erase sampleMAC, ()) _ _ none := .keep (by decide)
  have h := cleanup_sample (cleanupRange_cons_iff.mpr ⟨_, _, _, .inl ⟨hfirst, _, rfl,
    cleanupRange_cons_iff.mpr ⟨_, _, _, .inl ⟨hsecond, _, rfl, .ret⟩⟩⟩⟩)
  have hgone : ((sampleRegistry (2 * minute)).erase sampleMAC).lookup sampleMAC = none := Finmap.lookup_erase _ _
  obtain ⟨hevicted, hkept, -, -⟩ := eviction_exact h (by decide)
  have hother := hkept otherMAC ⟨none, 2 * minute, 2⟩ rfl (by decide)
  exact ⟨_, _, h, hgone, (hevicted sampleMAC ⟨none, 0, 2⟩ rfl hgone).2, hother⟩

/-! ### The order of the map -/

/-- `onDelete` fails for certain MACs, and for those only. -/
structure Decides (w : World W) (ok : EUI64 → Bool) : Prop where
  /-- It answers. -/
  total : ∀ mac u, ∃ r u', w.onDelete mac u r u'
  /-- It succeeds where it should. -/
  ok_iff : ∀ mac u r u', w.onDelete mac u r u' → (r = .ok () ↔ ok mac = true)

/-- The clock shows `t` all the time. -/
def Still (t : Time) (tr : List RegEvent) : Prop := ∀ t' ∈ clock tr, t' = t

/-- The entries that should be left: those of the fresh gateways, and of the stale ones whose own `onDelete`
fails. -/
def remaining (ok : EUI64 → Bool) (t : Time) (g : Gateways) (mac : EUI64) : Option Gateway :=
  (g.lookup mac).filter fun gw => decide ¬ gw.Stale t || !ok mac

/-- `onDelete` succeeds for all stale gateways, or fails for all of them. -/
def Uniform (ok : EUI64 → Bool) (t : Time) (g : Gateways) : Prop :=
  (∀ mac gw, g.lookup mac = some gw → gw.Stale t → ok mac = true) ∨
    ∀ mac gw, g.lookup mac = some gw → gw.Stale t → ok mac = false

variable {ok : EUI64 → Bool} {g : Gateways}

theorem remaining_of_kept (hl : g.lookup mac = some gw) (h : ¬ gw.Stale t ∨ ok mac = false) :
    remaining ok t g mac = some gw := by
  rw [remaining, hl, Option.filter_some, if_pos (by simpa using h)]

theorem remaining_of_evicted (hl : g.lookup mac = some gw) (hstale : gw.Stale t) (hok : ok mac = true) :
    remaining ok t g mac = none := by
  rw [remaining, hl, Option.filter_some, if_neg (by simp [hstale, hok])]

theorem ok_iff_of_deletions {a : Except GwError Unit} (hw : Decides w ok)
    (h : Runs (regSem w) (Gateways.cleanup cb) s tr r s') (ha : a ∈ deletions mac tr) :
    a = .ok () ↔ ok mac = true := by
  have hall : ∀ ev ∈ tr, ∀ mac a, ev = ⟨.onDelete mac, a⟩ → (a = .ok () ↔ ok mac = true) := by
    refine h.forall_mem fun e s b s' hs mac a hev => ?_
    cases hev
    exact hw.ok_iff mac s.2 a s'.2 hs.1
  obtain ⟨⟨eff, b⟩, hev, heq⟩ := List.mem_filterMap.mp ha
  cases eff with
  | onDelete mac' =>
    simp only [Option.ite_none_right_eq_some, Option.some.injEq] at heq
    obtain ⟨rfl, rfl⟩ := heq
    exact hall _ hev mac' b rfl
  | _ => cases heq

/-- A gateway whose `onDelete` failed is one for which it fails. -/
theorem not_ok_of_deletions {e : GwError} (hw : Decides w ok)
    (h : Runs (regSem w) (Gateways.cleanup cb) s tr r s') (he : .error e ∈ deletions mac tr) :
    ok mac = false := by
  have hiff := ok_iff_of_deletions hw h he
  simpa using hiff

/-- Where the callbacks of the stale gateways agree with one another, what is left is what should be. -/
theorem lookup_eq_remaining (hcb : cb.onDelete = true) (hw : Decides w ok) (hu : Uniform ok t s.1)
    (h : Runs (regSem w) (Gateways.cleanup cb) s tr r s') (hclock : Still t tr) (mac : EUI64) :
    s'.1.lookup mac = remaining ok t s.1 mac := by
  cases hl : s.1.lookup mac with
  | none =>
    have hnone : remaining ok t s.1 mac = none := by rw [remaining, hl, Option.filter_none]
    rcases cleanup_lookup mac h with hkept | hgone
    · rw [hkept, hl, hnone]
    · rw [hgone, hnone]
  | some gw =>
    have hfate := cleanup_fate h hl
    have hok : ∀ a ∈ deletions mac tr, a = .ok () ↔ ok mac = true := fun a ha => ok_iff_of_deletions hw h ha
    generalize s'.1.lookup mac = after, deletions mac tr = answers at hfate hok ⊢
    cases hfate with
    | fresh ht hfresh => rw [remaining_of_kept hl (.inl (hclock _ ht ▸ hfresh))]
    | evicted ht hstale =>
      rw [hcb] at hok
      rw [remaining_of_evicted hl (hclock _ ht ▸ hstale) ((hok (.ok ()) (by simp)).mp rfl)]
    | refused ht hstale _ hr =>
      have hno := hok _ (List.mem_singleton_self _)
      rw [remaining_of_kept hl (.inr (by simpa using hno))]
    | unvisited hr =>
      -- another callback failed, so those of all stale gateways do
      subst hr
      obtain ⟨mac', gw', -, hl', ⟨t', ht', hstale'⟩, he, -⟩ := cleanup_error h
      have hno := not_ok_of_deletions hw h he
      rw [hclock t' ht'] at hstale'
      rw [remaining_of_kept hl]
      by_cases hstale : gw.Stale t
      · rcases hu with hall | hnone
        · rw [hall mac' gw' hl' hstale'] at hno
          cases hno
        · exact .inr (hnone mac gw hl hstale)
      · exact .inl hstale

/-! ### Runs in a given order -/

theorem exists_iteration (hw : Decides w ok) (cb : Callbacks) (mac : EUI64) (now : Time) (s : Gateways × W) :
    ∃ evs s₁ err, Iteration w cb mac now s evs s₁ err := by
  by_cases hstale : ((s.1.lookup mac).getD .zero).Stale now
  · cases hcb : cb.onDelete with
    | false => exact ⟨_, _, _, .drop hstale hcb⟩
    | true =>
      obtain ⟨a, u, hcall⟩ := hw.total mac s.2
      cases a with
      | ok _ => exact ⟨_, _, _, .evict hstale hcb hcall⟩
      | error e => exact ⟨_, _, _, .refuse hstale hcb hcall⟩
  · exact ⟨_, _, _, .keep hstale⟩

/-- The loop runs to its end, with the clock standing still. -/
theorem exists_cleanupRange (hw : Decides w ok) (cb : Callbacks) (t : Time) (macs : List EUI64)
    (s : Gateways × W) :
    ∃ tr r s', Runs (regSem w) (Gateways.cleanupRange cb macs) s tr r s' ∧ Still t tr := by
  induction macs generalizing s with
  | nil => exact ⟨[], .ok (), s, .ret, fun t' ht' => by cases ht'⟩
  | cons mac macs ih =>
    obtain ⟨evs, s₁, err, hit⟩ := exists_iteration hw cb mac t s
    have hstill : Still t evs := by
      intro t' ht'
      rw [hit.clock_eq] at ht'
      exact List.mem_singleton.mp ht'
    cases err with
    | some e => exact ⟨evs, _, s₁, cleanupRange_cons_iff.mpr ⟨t, evs, s₁, .inr ⟨e, hit, rfl, rfl, rfl⟩⟩, hstill⟩
    | none =>
      obtain ⟨tr, r, s', hrest, hclock⟩ := ih s₁
      refine ⟨evs ++ tr, r, s', cleanupRange_cons_iff.mpr ⟨t, evs, s₁, .inl ⟨hit, tr, rfl, hrest⟩⟩, ?_⟩
      intro t' ht'
      rw [clock_append] at ht'
      exact (List.mem_append.mp ht').elim (hstill t') (hclock t')

/-- Any gateway can be the first that is visited. -/
theorem exists_cleanup_first (hw : Decides w ok) (cb : Callbacks) (t : Time) (hmac : mac ∈ s.1) :
    ∃ macs tr r s', Runs (regSem w) (Gateways.cleanup cb) s (⟨.range, mac :: macs⟩ :: tr) r s' ∧
      Runs (regSem w) (Gateways.cleanupRange cb (mac :: macs)) s tr r s' ∧ mac ∉ macs ∧ Still t tr := by
  have hperm : s.1.keys.toList.Perm (mac :: s.1.keys.toList.erase mac) :=
    List.perm_cons_erase (Finset.mem_toList.mpr (Finmap.mem_keys.mpr hmac))
  have hnodup := hperm.nodup_iff.mp s.1.keys.nodup_toList
  obtain ⟨tr, r, s', hrest, hclock⟩ := exists_cleanupRange hw cb t (mac :: s.1.keys.toList.erase mac) s
  refine ⟨_, tr, r, s', cleanup_iff.mpr ⟨_, tr, hnodup, fun mac' => ?_, rfl, hrest⟩, hrest,
    (List.nodup_cons.mp hnodup).1, hclock⟩
  rw [← hperm.mem_iff, Finset.mem_toList, Finmap.mem_keys]

/-- A first gateway whose callback fails keeps all the others. -/
theorem refused_first (hcb : cb.onDelete = true) (hw : Decides w ok) (hl : s.1.lookup mac = some gw)
    (hstale : gw.Stale t) (hno : ok mac = false) (hclock : Still t tr)
    (h : Runs (regSem w) (Gateways.cleanupRange cb (mac :: macs)) s tr r s') : s'.1 = s.1 := by
  obtain ⟨now, evs, s₁, ⟨hit, tr', rfl, -⟩ | ⟨e, hit, rfl, rfl, rfl⟩⟩ := cleanupRange_cons_iff.mp h
  · have hnow : now = t := hclock now (by rw [clock_append, hit.clock_eq]; exact List.mem_cons_self)
    subst hnow
    cases hit with
    | keep hfresh =>
      rw [hl] at hfresh
      exact absurd hstale hfresh
    | drop _ hcb' =>
      rw [hcb] at hcb'
      cases hcb'
    | evict _ _ hcall =>
      rw [(hw.ok_iff mac _ _ _ hcall).mp rfl] at hno
      cases hno
  · cases hit with
    | refuse => rfl

theorem agreed_first (hw : Decides w ok) (hl : s.1.lookup mac = some gw)
    (hstale : gw.Stale t) (hyes : ok mac = true) (hclock : Still t tr) (hmac : mac ∉ macs)
    (h : Runs (regSem w) (Gateways.cleanupRange cb (mac :: macs)) s tr r s') : s'.1.lookup mac = none := by
  obtain ⟨now, evs, s₁, ⟨hit, tr', rfl, hrest⟩ | ⟨e, hit, rfl, rfl, rfl⟩⟩ := cleanupRange_cons_iff.mp h
  · have hnow : now = t := hclock now (by rw [clock_append, hit.clock_eq]; exact List.mem_cons_self)
    subst hnow
    rw [(cleanupRange_other hrest hmac).1]
    cases hit with
    | keep hfresh =>
      rw [hl] at hfresh
      exact absurd hstale hfresh
    | drop => exact Finmap.lookup_erase _ _
    | evict => exact Finmap.lookup_erase _ _
  · cases hit with
    | refuse _ _ hcall =>
      have hok := (hw.ok_iff mac _ _ _ hcall).mpr hyes
      cases hok

/-- Where the callbacks of two stale gateways differ, the one that agrees is left or gone depending on which
is visited first. -/
theorem exists_orders (hcb : cb.onDelete = true) (hw : Decides w ok) (hu : ¬ Uniform ok t s.1) :
    ∃ mac gw tr₁ r₁ s₁ tr₂ r₂ s₂, s.1.lookup mac = some gw ∧ gw.Stale t ∧ ok mac = true ∧
      Runs (regSem w) (Gateways.cleanup cb) s tr₁ r₁ s₁ ∧ Still t tr₁ ∧ s₁.1.lookup mac = some gw ∧
      Runs (regSem w) (Gateways.cleanup cb) s tr₂ r₂ s₂ ∧ Still t tr₂ ∧ s₂.1.lookup mac = none := by
  rw [Uniform, not_or] at hu
  obtain ⟨hfail, hagree⟩ := hu
  push Not at hfail hagree
  obtain ⟨mac', gw', hl', hstale', hno⟩ := hfail
  obtain ⟨mac, gw, hl, hstale, hyes⟩ := hagree
  have hno : ok mac' = false := eq_false_of_ne_true hno
  have hyes : ok mac = true := eq_true_of_ne_false hyes
  obtain ⟨macs₁, tr₁, r₁, s₁, h₁, hrest₁, -, hclock₁⟩ :=
    exists_cleanup_first hw cb t (Finmap.mem_of_lookup_eq_some hl')
  obtain ⟨macs₂, tr₂, r₂, s₂, h₂, hrest₂, hmac, hclock₂⟩ :=
    exists_cleanup_first hw cb t (Finmap.mem_of_lookup_eq_some hl)
  refine ⟨mac, gw, _, r₁, s₁, _, r₂, s₂, hl, hstale, hyes, h₁, hclock₁, ?_, h₂, hclock₂, ?_⟩
  · rw [refused_first hcb hw hl' hstale' hno hclock₁ hrest₁]
    exact hl
  · exact agreed_first hw hl hstale hyes hclock₂ hmac hrest₂

/-- **Eviction does not depend on the order of the map exactly when `onDelete` succeeds for all stale gateways
or fails for all of them.** The clock stands still, and `onDelete` fails for certain MACs. Then every
order leaves the fresh gateways and the stale ones whose own `onDelete` fails; and every order leaves the same
gateways. -/
theorem eviction_order_free_iff (hcb : cb.onDelete = true) (hw : Decides w ok) (s : Gateways × W) (t : Time) :
    ((∀ tr r s', Runs (regSem w) (Gateways.cleanup cb) s tr r s' → Still t tr →
        ∀ mac, s'.1.lookup mac = remaining ok t s.1 mac) ↔ Uniform ok t s.1) ∧
    ((∀ tr₁ r₁ s₁ tr₂ r₂ s₂, Runs (regSem w) (Gateways.cleanup cb) s tr₁ r₁ s₁ → Still t tr₁ →
        Runs (regSem w) (Gateways.cleanup cb) s tr₂ r₂ s₂ → Still t tr₂ → s₁.1 = s₂.1) ↔ Uniform ok t s.1) := by
  refine ⟨⟨fun h => ?_, fun hu tr r s' hruns hclock => lookup_eq_remaining hcb hw hu hruns hclock⟩,
    ⟨fun h => ?_, fun hu tr₁ r₁ s₁ tr₂ r₂ s₂ h₁ hclock₁ h₂ hclock₂ => ?_⟩⟩
  · by_contra hu
    obtain ⟨mac, gw, tr₁, r₁, s₁, -, -, -, hl, hstale, hyes, h₁, hclock₁, hleft, -⟩ := exists_orders hcb hw hu
    rw [h tr₁ r₁ s₁ h₁ hclock₁ mac, remaining_of_evicted hl hstale hyes] at hleft
    cases hleft
  · by_contra hu
    obtain ⟨mac, gw, tr₁, r₁, s₁, tr₂, r₂, s₂, -, -, -, h₁, hclock₁, hleft, h₂, hclock₂, hgone⟩ :=
      exists_orders hcb hw hu
    rw [h tr₁ r₁ s₁ tr₂ r₂ s₂ h₁ hclock₁ h₂ hclock₂, hgone] at hleft
    cases hleft
  · apply Finmap.ext_lookup
    intro mac
    rw [lookup_eq_remaining hcb hw hu h₁ hclock₁, lookup_eq_remaining hcb hw hu h₂ hclock₂]

theorem decides_decidedWorld (ok : EUI64 → Bool) : Decides (decidedWorld ok) ok where
  total mac u := ⟨_, (), rfl⟩
  ok_iff := by
    rintro mac u r u' rfl
    cases ok mac <;> simp

/-- Callbacks that all agree: whatever the order, both gateways are gone. -/
theorem eviction_order_free_sample :
    Uniform (fun _ => true) (2 * minute) (sampleRegistry 0) ∧
      ∀ tr r s', Runs (regSem (decidedWorld fun _ => true)) (Gateways.cleanup ⟨true, true⟩)
          (sampleRegistry 0, ()) tr r s' → Still (2 * minute) tr →
        s'.1.lookup sampleMAC = none ∧ s'.1.lookup otherMAC = none := by
  have hu : Uniform (fun _ => true) (2 * minute) (sampleRegistry 0) := .inl fun _ _ _ _ => rfl
  have hcb : (⟨true, true⟩ : Callbacks).onDelete = true := rfl
  have hiff := eviction_order_free_iff hcb (decides_decidedWorld fun _ => true) (sampleRegistry 0, ()) (2 * minute)
  refine ⟨hu, fun tr r s' h hclock => ?_⟩
  have hleft := hiff.1.mpr hu tr r s' h hclock
  exact ⟨hleft sampleMAC, hleft otherMAC⟩

/-- A callback that fails for the first gateway: the second is kept, which is stale, and whose callback would
agree. -/
theorem refusal_keeps_another :
    ∃ tr r s', Runs (regSem (decidedWorld fun mac => mac ≠ sampleMAC)) (Gateways.cleanup ⟨true, true⟩)
        (sampleRegistry 0, ()) tr r s' ∧ Still (2 * minute) tr ∧
      s'.1.lookup otherMAC = some ⟨none, 0, 2⟩ ∧
      remaining (fun mac => mac ≠ sampleMAC) (2 * minute) (sampleRegistry 0) otherMAC = none := by
  have hfirst : Iteration (decidedWorld fun mac => mac ≠ sampleMAC) ⟨true, true⟩ sampleMAC (2 * minute)
      (sampleRegistry 0, ()) _ (sampleRegistry 0, ()) (some _) := .refuse (by decide) rfl rfl
  have h := cleanup_sample (cleanupRange_cons_iff.mpr ⟨_, _, _, .inr ⟨_, hfirst, rfl, rfl, rfl⟩⟩)
  exact ⟨_, _, _, h, fun t' ht' => List.mem_singleton.mp ht', rfl, by decide⟩

end GatewayBridge.Semtech
