import GatewayBridge.Semtech.Convert
import GatewayBridge.Process.Prog

/-!
# The registry of gateways

`type gateways` of `gateway/backend.go`: the map from a MAC to the address the
gateway was last heard from, with the callbacks `onNew` and `onDelete`. The map,
the clock and the callbacks are effects, so `get`, `set` and `cleanup` are
programs over them; each holds the lock of the registry from beginning to end,
so each runs alone (`Prog.Runs`).

The callbacks act on something outside the registry, a `World`: nothing is said
of it here but how its callbacks answer and change it. `freeWorld` lets a
callback answer in any way.

What is proved: `set_runs` and `cleanup_runs` say all that `set` and `cleanup` can
do, to the map and to the world. What one iteration of the loop of `cleanup` can do is
said first, with its effects (`Iteration`, `cleanupRange_cons_iff`).
-/

namespace GatewayBridge.Semtech

open GatewayBridge.Go GatewayBridge.Lora GatewayBridge.Process Prog

/-- `type gateway`. -/
structure Gateway where
  /-- Where it was last heard from. -/
  addr : Option UDPAddr
  /-- When it was last heard from. -/
  lastSeen : Time
  /-- The version of the protocol it speaks. -/
  protocolVersion : UInt8
  deriving DecidableEq

/-- The zero value: no address, the first of January of year 1, version 0. -/
def Gateway.zero : Gateway := ⟨none, -62135596800 * 10 ^ 9, 0⟩

/-- `map[lorawan.EUI64]gateway`. -/
abbrev Gateways := Finmap fun _ : EUI64 => Gateway

/-- `gatewayCleanupDuration`. -/
def gatewayCleanupDuration : ℤ := -1 * minute

/-- Which of the callbacks are not `nil`. -/
structure Callbacks where
  /-- `onNew != nil`. -/
  onNew : Bool
  /-- `onDelete != nil`. -/
  onDelete : Bool

/-! ### The programs -/

/-- What the methods of the registry do to the map, the clock and the outside. -/
inductive RegEff where
  /-- `c.gateways[mac]`. -/
  | lookup (mac : EUI64)
  /-- `c.gateways[mac] = gw`. -/
  | store (mac : EUI64) (gw : Gateway)
  /-- `delete(c.gateways, mac)`. -/
  | delete (mac : EUI64)
  /-- The order in which `range c.gateways` visits the map. -/
  | range
  /-- `time.Now()`. -/
  | now
  /-- `c.onNew(mac)`. -/
  | onNew (mac : EUI64)
  /-- `c.onDelete(mac)`. -/
  | onDelete (mac : EUI64)

/-- The answers. -/
abbrev RegEff.Resp : RegEff → Type
  | .lookup _ => Option Gateway
  | .store _ _ => Unit
  | .delete _ => Unit
  | .range => List EUI64
  | .now => Time
  | .onNew _ => Except GwError Unit
  | .onDelete _ => Except GwError Unit

/-- A method of the registry. -/
abbrev RegProg := Prog RegEff RegEff.Resp

namespace Gateways

/-- `gateways.get`: the gateway and `nil`, or the zero value and an error. -/
def get (mac : EUI64) : RegProg (Gateway × Option GwError) := do
  match ← ask (RegEff.lookup mac) with
  | none => pure (Gateway.zero, some .gatewayDoesNotExist)
  | some gw => pure (gw, none)

/-- `gateways.set`. -/
def set (cb : Callbacks) (mac : EUI64) (gw : Gateway) : RegProg (Except GwError Unit) := do
  let known ← ask (RegEff.lookup mac)
  let added ← if known.isNone && cb.onNew then ask (RegEff.onNew mac) else pure (.ok ())
  match added with
  | .error err => pure (.error err)
  | .ok _ =>
      ask (RegEff.store mac gw)
      pure (.ok ())

/-- The loop of `gateways.cleanup`, over the MACs still to be visited. -/
def cleanupRange (cb : Callbacks) : List EUI64 → RegProg (Except GwError Unit)
  | [] => pure (.ok ())
  | mac :: macs => do
      let gw ← ask (RegEff.lookup mac)
      let now ← ask RegEff.now
      if (gw.getD .zero).lastSeen < now + gatewayCleanupDuration then
        let deleted ← if cb.onDelete then ask (RegEff.onDelete mac) else pure (.ok ())
        match deleted with
        | .error err => pure (.error err)
        | .ok _ =>
            ask (RegEff.delete mac)
            cleanupRange cb macs
      else cleanupRange cb macs

/-- `gateways.cleanup`. -/
def cleanup (cb : Callbacks) : RegProg (Except GwError Unit) := do
  cleanupRange cb (← ask RegEff.range)

end Gateways

/-! ### The semantics -/

/-- What the callbacks act on. -/
structure World (W : Type) where
  /-- How `onNew` answers, and what it changes. -/
  onNew : EUI64 → W → Except GwError Unit → W → Prop
  /-- How `onDelete` answers, and what it changes. -/
  onDelete : EUI64 → W → Except GwError Unit → W → Prop

/-- Callbacks that may answer in any way. -/
def freeWorld : World Unit := ⟨fun _ _ _ _ => True, fun _ _ _ _ => True⟩

/-- What the effects do to the map and to the world. `range` visits every key once; the clock
shows any time. -/
def regSem {W : Type} (w : World W) : (e : RegEff) → Gateways × W → e.Resp → Gateways × W → Prop
  | .lookup mac, s, r, s' => r = s.1.lookup mac ∧ s' = s
  | .store mac gw, s, _, s' => s' = (s.1.insert mac gw, s.2)
  | .delete mac, s, _, s' => s' = (s.1.erase mac, s.2)
  | .range, s, (r : List EUI64), s' => (r.Nodup ∧ ∀ mac, mac ∈ r ↔ mac ∈ s.1) ∧ s' = s
  | .now, s, _, s' => s' = s
  | .onNew mac, s, r, s' => w.onNew mac s.2 r s'.2 ∧ s'.1 = s.1
  | .onDelete mac, s, r, s' => w.onDelete mac s.2 r s'.2 ∧ s'.1 = s.1

/-- An effect of the registry, with its answer. -/
abbrev RegEvent := Event RegEff RegEff.Resp

variable {W : Type} {w : World W} {cb : Callbacks} {mac : EUI64} {gw : Gateway}
  {s s' : Gateways × W} {tr : List RegEvent}

/-- `get` reads the map, and leaves it alone. -/
theorem get_runs {r : Gateway × Option GwError} (h : Runs (regSem w) (Gateways.get mac) s tr r s') :
    s' = s ∧
      match s.1.lookup mac with
      | none => r = (Gateway.zero, some .gatewayDoesNotExist)
      | some gw => r = (gw, none) := by
  obtain ⟨known, s, _, ⟨rfl, rfl⟩, -, h⟩ := runs_eff_iff.mp h
  rw [bind_ret] at h
  cases hl : s.1.lookup mac with
  | none =>
    rw [hl] at h
    obtain ⟨-, rfl, rfl⟩ := runs_ret_iff.mp h
    exact ⟨rfl, rfl⟩
  | some gw =>
    rw [hl] at h
    obtain ⟨-, rfl, rfl⟩ := runs_ret_iff.mp h
    exact ⟨rfl, rfl⟩

/-- **What `set` can do.** It stores the entry and returns `nil`, after `onNew` has agreed if the
MAC is new; or the MAC is new, `onNew` returns an error, `set` returns that error and the map is
as before. -/
theorem set_runs {r : Except GwError Unit} (h : Runs (regSem w) (Gateways.set cb mac gw) s tr r s') :
    (r = .ok () ∧ s'.1 = s.1.insert mac gw ∧
      if mac ∉ s.1 ∧ cb.onNew then w.onNew mac s.2 (.ok ()) s'.2 else s'.2 = s.2) ∨
    (∃ e, r = .error e ∧ s'.1 = s.1 ∧ mac ∉ s.1 ∧ cb.onNew ∧ w.onNew mac s.2 (.error e) s'.2) := by
  obtain ⟨known, s, _, ⟨rfl, rfl⟩, -, h⟩ := runs_eff_iff.mp h
  rw [bind_ret] at h
  by_cases hnew : mac ∉ s.1 ∧ cb.onNew
  · have hn : s.1.lookup mac = none := Finmap.lookup_eq_none.mpr hnew.1
    simp only [hn, hnew.2, Option.isNone_none, Bool.and_self, if_true, ask_bind] at h
    obtain ⟨added, s₁, _, ⟨hw, hs⟩, -, h⟩ := runs_eff_iff.mp h
    cases added with
    | error e =>
      obtain ⟨-, rfl, rfl⟩ := runs_ret_iff.mp h
      exact .inr ⟨e, rfl, hs, hnew.1, hnew.2, hw⟩
    | ok _ =>
      obtain ⟨_, _, _, rfl, -, h⟩ := runs_eff_iff.mp h
      obtain ⟨-, rfl, rfl⟩ := runs_ret_iff.mp h
      exact .inl ⟨rfl, by rw [hs], by rw [if_pos hnew]; exact hw⟩
  · have hn : ((s.1.lookup mac).isNone && cb.onNew) = false := by
      rw [Bool.and_eq_false_iff, Option.isNone_eq_false_iff, Finmap.lookup_isSome]
      by_cases hm : mac ∈ s.1
      · exact .inl hm
      · exact .inr (by simpa [hm] using hnew)
    simp only [hn, Bool.false_eq_true, if_false, pure_eq, ret_bind] at h
    obtain ⟨_, _, _, rfl, -, h⟩ := runs_eff_iff.mp h
    obtain ⟨-, rfl, rfl⟩ := runs_ret_iff.mp h
    exact .inl ⟨rfl, rfl, by rw [if_neg hnew]⟩

/-! ### One iteration of `cleanup` -/

/-- The gateway was not heard from in the minute before `t`. -/
def Gateway.Stale (gw : Gateway) (t : Time) : Prop := gw.lastSeen < t - minute

instance (gw : Gateway) (t : Time) : Decidable (gw.Stale t) := inferInstanceAs (Decidable (_ < _))

theorem Gateway.stale_iff {gw : Gateway} {t : Time} :
    gw.lastSeen < t + gatewayCleanupDuration ↔ gw.Stale t := by
  rw [Gateway.Stale, gatewayCleanupDuration, neg_one_mul, sub_eq_add_neg]

theorem Gateway.Stale.mono {gw : Gateway} {t t' : Time} (h : gw.Stale t) (hle : t ≤ t') : gw.Stale t' :=
  lt_of_lt_of_le h (sub_le_sub_right hle minute)

/-- What an iteration of the loop can do, for `mac`: the effects, the state after it, and the error that ends
the loop. -/
inductive Iteration (w : World W) (cb : Callbacks) (mac : EUI64) (now : Time) (s : Gateways × W) :
    List RegEvent → Gateways × W → Option GwError → Prop
  /-- The gateway is fresh. -/
  | keep : ¬ ((s.1.lookup mac).getD .zero).Stale now →
      Iteration w cb mac now s [⟨.lookup mac, s.1.lookup mac⟩, ⟨.now, now⟩] s none
  /-- It is stale, and there is no callback. -/
  | drop : ((s.1.lookup mac).getD .zero).Stale now → cb.onDelete = false →
      Iteration w cb mac now s [⟨.lookup mac, s.1.lookup mac⟩, ⟨.now, now⟩, ⟨.delete mac, ()⟩]
        (s.1.erase mac, s.2) none
  /-- It is stale, and the callback agrees. -/
  | evict {u : W} : ((s.1.lookup mac).getD .zero).Stale now → cb.onDelete = true →
      w.onDelete mac s.2 (.ok ()) u →
      Iteration w cb mac now s
        [⟨.lookup mac, s.1.lookup mac⟩, ⟨.now, now⟩, ⟨.onDelete mac, .ok ()⟩, ⟨.delete mac, ()⟩]
        (s.1.erase mac, u) none
  /-- It is stale, and the callback fails. -/
  | refuse {e : GwError} {u : W} : ((s.1.lookup mac).getD .zero).Stale now → cb.onDelete = true →
      w.onDelete mac s.2 (.error e) u →
      Iteration w cb mac now s
        [⟨.lookup mac, s.1.lookup mac⟩, ⟨.now, now⟩, ⟨.onDelete mac, .error e⟩] (s.1, u) (some e)

/-- **The loop does one iteration, and goes on with the others unless that ended it.** -/
theorem cleanupRange_cons_iff {macs : List EUI64} {r : Except GwError Unit} :
    Runs (regSem w) (Gateways.cleanupRange cb (mac :: macs)) s tr r s' ↔
      ∃ now evs s₁, (Iteration w cb mac now s evs s₁ none ∧
          ∃ tr', tr = evs ++ tr' ∧ Runs (regSem w) (Gateways.cleanupRange cb macs) s₁ tr' r s') ∨
        ∃ e, Iteration w cb mac now s evs s₁ (some e) ∧ tr = evs ∧ r = .error e ∧ s' = s₁ := by
  constructor
  · intro h
    obtain ⟨gw, s, tr₁, ⟨rfl, rfl⟩, rfl, h₁⟩ := runs_eff_iff.mp h
    obtain ⟨now, s, tr₂, rfl, rfl, h₂⟩ := runs_eff_iff.mp h₁
    simp only [bind_ret, Gateway.stale_iff] at h₂
    split_ifs at h₂ with hstale hcb
    · rw [ask_bind] at h₂
      obtain ⟨deleted, ⟨g₁, u⟩, tr₃, ⟨hw, rfl⟩, rfl, h₃⟩ := runs_eff_iff.mp h₂
      cases deleted with
      | error e =>
        obtain ⟨rfl, rfl, rfl⟩ := runs_ret_iff.mp h₃
        exact ⟨now, _, _, .inr ⟨e, .refuse hstale hcb hw, rfl, rfl, rfl⟩⟩
      | ok _ =>
        obtain ⟨_, _, tr₄, rfl, rfl, h₄⟩ := runs_eff_iff.mp h₃
        exact ⟨now, _, _, .inl ⟨.evict hstale hcb hw, tr₄, rfl, h₄⟩⟩
    · obtain ⟨_, _, tr₃, rfl, rfl, h₃⟩ := runs_eff_iff.mp h₂
      exact ⟨now, _, _, .inl ⟨.drop hstale (by simpa using hcb), tr₃, rfl, h₃⟩⟩
    · exact ⟨now, _, _, .inl ⟨.keep hstale, tr₂, rfl, h₂⟩⟩
  · rintro ⟨now, evs, s₁, ⟨hit, tr', rfl, hrest⟩ | ⟨e, hit, rfl, rfl, rfl⟩⟩
    · cases hit with
      | keep hfresh =>
        refine .eff ⟨rfl, rfl⟩ (.eff rfl ?_)
        rw [bind_ret, if_neg (Gateway.stale_iff.not.mpr hfresh)]
        exact hrest
      | drop hstale hcb =>
        refine .eff ⟨rfl, rfl⟩ (.eff rfl ?_)
        rw [bind_ret, if_pos (Gateway.stale_iff.mpr hstale), hcb]
        exact .eff rfl hrest
      | @evict u hstale hcb hw =>
        have hcall : regSem w (.onDelete mac) s (.ok ()) (s.1, u) := ⟨hw, rfl⟩
        refine .eff ⟨rfl, rfl⟩ (.eff rfl ?_)
        rw [bind_ret, if_pos (Gateway.stale_iff.mpr hstale), hcb]
        exact .eff hcall (.eff rfl hrest)
    · cases hit with
      | @refuse e u hstale hcb hw =>
        have hcall : regSem w (.onDelete mac) s (.error e) (s.1, u) := ⟨hw, rfl⟩
        refine .eff ⟨rfl, rfl⟩ (.eff rfl ?_)
        rw [bind_ret, if_pos (Gateway.stale_iff.mpr hstale), hcb]
        exact .eff hcall .ret

theorem cleanup_iff {r : Except GwError Unit} :
    Runs (regSem w) (Gateways.cleanup cb) s tr r s' ↔
      ∃ macs tr', macs.Nodup ∧ (∀ mac, mac ∈ macs ↔ mac ∈ s.1) ∧ tr = ⟨.range, macs⟩ :: tr' ∧
        Runs (regSem w) (Gateways.cleanupRange cb macs) s tr' r s' := by
  constructor
  · intro h
    obtain ⟨macs, s, tr', ⟨⟨hnodup, hmem⟩, rfl⟩, rfl, hrest⟩ := runs_eff_iff.mp h
    exact ⟨macs, tr', hnodup, hmem, rfl, hrest⟩
  · rintro ⟨macs, tr', hnodup, hmem, rfl, hrest⟩
    exact .eff ⟨⟨hnodup, hmem⟩, rfl⟩ hrest

/-! ### What leaves the map -/

/-- Stale gateways leave the map one after the other, each after `onDelete` has agreed. -/
inductive Evicted (w : World W) (cb : Callbacks) (s : Gateways × W) : Gateways × W → Prop
  /-- None has left. -/
  | refl : Evicted w cb s s
  /-- One more leaves. -/
  | tail {t : Gateways × W} {mac : EUI64} {u : W} :
      Evicted w cb s t → mac ∈ t.1 →
        (if cb.onDelete then w.onDelete mac t.2 (.ok ()) u else u = t.2) →
          Evicted w cb s (t.1.erase mac, u)

theorem Evicted.head {t t' : Gateways × W} {u : W} (hmac : mac ∈ s.1)
    (hw : if cb.onDelete then w.onDelete mac s.2 (.ok ()) u else u = s.2) (ht : t = (s.1.erase mac, u))
    (h : Evicted w cb t t') : Evicted w cb s t' := by
  induction h with
  | refl =>
    rw [ht]
    exact .tail .refl hmac hw
  | tail _ hmac' hw' ih => exact .tail ih hmac' hw'

theorem Evicted.lookup {t : Gateways × W} (h : Evicted w cb s t) (mac : EUI64) :
    t.1.lookup mac = s.1.lookup mac ∨ t.1.lookup mac = none := by
  induction h with
  | refl => exact .inl rfl
  | @tail t mac' u _ _ _ ih =>
    by_cases hm : mac = mac'
    · subst hm
      exact .inr (Finmap.lookup_erase _ _)
    · rw [Finmap.lookup_erase_ne hm]
      exact ih

/-- An iteration that does not end the loop changes nothing, or lets the gateway leave the map. -/
theorem Iteration.cases {now : Time} {evs : List RegEvent} {s₁ : Gateways × W}
    (h : Iteration w cb mac now s evs s₁ none) :
    s₁ = s ∨ ∃ u, (if cb.onDelete then w.onDelete mac s.2 (.ok ()) u else u = s.2) ∧ s₁ = (s.1.erase mac, u) := by
  cases h with
  | keep => exact .inl rfl
  | drop _ hcb => exact .inr ⟨s.2, by simp [hcb], rfl⟩
  | @evict u _ hcb hw => exact .inr ⟨u, by simpa [hcb] using hw, rfl⟩

/-- What the loop of `cleanup` can do. The MACs still to be visited are in the map: the loop deletes
only those it has visited. -/
theorem cleanupRange_runs {macs : List EUI64} {r : Except GwError Unit} (hmacs : macs.Nodup)
    (hmem : ∀ mac ∈ macs, mac ∈ s.1) (h : Runs (regSem w) (Gateways.cleanupRange cb macs) s tr r s') :
    (r = .ok () ∧ Evicted w cb s s') ∨
    (∃ mac e t, r = .error e ∧ Evicted w cb s t ∧ mac ∈ t.1 ∧ s'.1 = t.1 ∧
      w.onDelete mac t.2 (.error e) s'.2) := by
  induction macs generalizing s tr with
  | nil =>
    obtain ⟨-, rfl, rfl⟩ := runs_ret_iff.mp h
    exact .inl ⟨rfl, .refl⟩
  | cons mac macs ih =>
    rw [List.nodup_cons] at hmacs
    rw [List.forall_mem_cons] at hmem
    obtain ⟨now, evs, s₁, ⟨hit, tr', -, hrest⟩ | ⟨e, hit, -, rfl, rfl⟩⟩ := cleanupRange_cons_iff.mp h
    · rcases hit.cases with rfl | ⟨u, hw, rfl⟩
      · exact ih hmacs.2 hmem.2 hrest
      · have hkeep : ∀ mac' ∈ macs, mac' ∈ s.1.erase mac := fun mac' hm =>
          Finmap.mem_erase.mpr ⟨fun he => hmacs.1 (he ▸ hm), hmem.2 mac' hm⟩
        rcases ih hmacs.2 hkeep hrest with ⟨hr, hev⟩ | ⟨mac', e, t, hr, hev, hrefused⟩
        · exact .inl ⟨hr, hev.head hmem.1 hw rfl⟩
        · exact .inr ⟨mac', e, t, hr, hev.head hmem.1 hw rfl, hrefused⟩
    · cases hit with
      | refuse _ _ hw => exact .inr ⟨mac, e, s, rfl, .refl, hmem.1, rfl, hw⟩

/-- **What `cleanup` can do**, whatever the clock shows and in whatever order it visits the map. Some
gateways leave and it returns `nil`; or some leave, the callback for one more returns an error, and
`cleanup` returns that error and changes nothing more. -/
theorem cleanup_runs {r : Except GwError Unit} (h : Runs (regSem w) (Gateways.cleanup cb) s tr r s') :
    (r = .ok () ∧ Evicted w cb s s') ∨
    (∃ mac e t, r = .error e ∧ Evicted w cb s t ∧ mac ∈ t.1 ∧ s'.1 = t.1 ∧
      w.onDelete mac t.2 (.error e) s'.2) := by
  obtain ⟨macs, tr', hnodup, hmem, -, hrest⟩ := cleanup_iff.mp h
  exact cleanupRange_runs hnodup (fun mac hm => (hmem mac).mp hm) hrest

/-- `cleanup` changes no entry but by evicting it. -/
theorem cleanup_lookup {r : Except GwError Unit} (mac : EUI64)
    (h : Runs (regSem w) (Gateways.cleanup cb) s tr r s') :
    s'.1.lookup mac = s.1.lookup mac ∨ s'.1.lookup mac = none := by
  rcases cleanup_runs h with ⟨-, hev⟩ | ⟨mac', e, t, -, hev, -, hs, -⟩
  · exact hev.lookup mac
  · rw [hs]
    exact hev.lookup mac

/-- Every effect has an answer, where the callbacks have. -/
theorem regSem_total (hnew : ∀ mac u, ∃ r u', w.onNew mac u r u')
    (hdel : ∀ mac u, ∃ r u', w.onDelete mac u r u') (e : RegEff) (s : Gateways × W) :
    ∃ r s', regSem w e s r s' := by
  cases e with
  | lookup mac => exact ⟨_, s, rfl, rfl⟩
  | store mac gw => exact ⟨(), _, rfl⟩
  | delete mac => exact ⟨(), _, rfl⟩
  | range => exact ⟨s.1.keys.toList, s, ⟨s.1.keys.nodup_toList, by simp [Finmap.mem_keys]⟩, rfl⟩
  | now => exact ⟨(0 : ℤ), s, rfl⟩
  | onNew mac =>
    obtain ⟨r, u', h⟩ := hnew mac s.2
    exact ⟨r, (s.1, u'), h, rfl⟩
  | onDelete mac =>
    obtain ⟨r, u', h⟩ := hdel mac s.2
    exact ⟨r, (s.1, u'), h, rfl⟩

end GatewayBridge.Semtech
