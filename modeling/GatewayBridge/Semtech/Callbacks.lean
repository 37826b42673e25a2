import GatewayBridge.Semtech.Registry
import Mathlib.Data.List.Chain

/-!
# The callbacks of the registry come in pairs

The backends subscribe in `onNew` and unsubscribe in `onDelete`, so they rely on
the two to be paired. Here the world of the registry is a `recorder`: a callback
may answer in any way, and every call is written down with its answer.

`Reached` is the registry after any calls of `set` and `cleanup`, one after the
other, from the empty map. The invariant is `Paired`: for every MAC, the callbacks
that succeeded alternate, the first of them being `onNew`, and the MAC is in the
map exactly when the last of them is `onNew`. A call adds to the record what
`Answered` says: an `onNew` that fails is the whole call, and an `onDelete` that
fails is the last thing that `cleanup` does.
-/

namespace GatewayBridge.Semtech

open GatewayBridge.Go GatewayBridge.Lora GatewayBridge.Process Prog

/-- The callbacks. -/
inductive Callback where
  /-- `onNew`. -/
  | onNew
  /-- `onDelete`. -/
  | onDelete
  deriving DecidableEq

/-- A call of a callback, and its answer. -/
structure CallbackCall where
  /-- Which callback. -/
  callback : Callback
  /-- For which gateway. -/
  mac : EUI64
  /-- What it returned. -/
  result : Except GwError Unit

/-- Callbacks that may answer in any way, and a record of their calls. -/
def recorder : World (List CallbackCall) where
  onNew mac calls r calls' := calls' = calls ++ [⟨.onNew, mac, r⟩]
  onDelete mac calls r calls' := calls' = calls ++ [⟨.onDelete, mac, r⟩]

/-- Both callbacks are set, as `NewBackend` does. -/
def bothCallbacks : Callbacks := ⟨true, true⟩

/-- The methods that change the registry. -/
inductive RegCall where
  /-- `gateways.set`. -/
  | set (mac : EUI64) (gw : Gateway)
  /-- `gateways.cleanup`. -/
  | cleanup

/-- The method of a call. -/
def RegCall.body (cb : Callbacks) : RegCall → RegProg (Except GwError Unit)
  | .set mac gw => Gateways.set cb mac gw
  | .cleanup => Gateways.cleanup cb

/-- The registry, and the record of the callbacks. -/
abbrev Recorded := Gateways × List CallbackCall

/-- A call runs to its end, from `s` to `s'`, and returns `r`. -/
def Calls (call : RegCall) (s : Recorded) (r : Except GwError Unit) (s' : Recorded) : Prop :=
  ∃ tr, Runs (regSem recorder) (call.body bothCallbacks) s tr r s'

/-- The registry after calls, one after the other, from the empty map. -/
inductive Reached : Recorded → Prop
  /-- No call yet. -/
  | init : Reached (∅, [])
  /-- One more call. -/
  | call {s s' : Recorded} {call : RegCall} {r : Except GwError Unit} :
      Reached s → Calls call s r s' → Reached s'

/-! ### The callbacks of one gateway -/

/-- The callback of `c`, if it is for `mac` and succeeded. -/
def successOf (mac : EUI64) (c : CallbackCall) : Option Callback :=
  match c.result with
  | .ok _ => if c.mac = mac then some c.callback else none
  | .error _ => none

/-- The callbacks for `mac` that succeeded, in the order of the calls. -/
def successes (mac : EUI64) (calls : List CallbackCall) : List Callback := calls.filterMap (successOf mac)

/-- No callback twice in a row, and `onNew` first. -/
structure Alternating (cs : List Callback) : Prop where
  /-- The first is `onNew`. -/
  first : ∀ c ∈ cs.head?, c = .onNew
  /-- Each differs from the one before. -/
  next : cs.IsChain (· ≠ ·)

variable {mac mac' : EUI64} {calls : List CallbackCall} {c : Callback} {e : GwError}

theorem successes_append (mac : EUI64) (calls calls' : List CallbackCall) :
    successes mac (calls ++ calls') = successes mac calls ++ successes mac calls' :=
  List.filterMap_append

@[simp] theorem successes_error : successes mac [⟨c, mac', .error e⟩] = [] := rfl

@[simp] theorem successes_ok : successes mac [⟨c, mac, .ok ()⟩] = [c] := by
  simp [successes, successOf]

theorem successes_ok_of_ne (h : mac' ≠ mac) : successes mac [⟨c, mac', .ok ()⟩] = [] := by
  simp [successes, successOf, h]

/-- One more: `onNew` if it is the first, and not the one that was last. -/
theorem Alternating.snoc {cs : List Callback} (h : Alternating cs) (hfirst : cs = [] → c = .onNew)
    (hlast : cs.getLast? ≠ some c) : Alternating (cs ++ [c]) := by
  constructor
  · intro d hd
    cases cs with
    | nil =>
      have hd : c = d := by simpa using hd
      rw [← hd]
      exact hfirst rfl
    | cons a cs => exact h.first d hd
  · refine h.next.append (List.isChain_singleton c) ?_
    rintro x hx y hy rfl
    have hy : c = x := by simpa using hy
    rw [hy] at hlast
    exact hlast (Option.mem_def.mp hx)

/-! ### The invariant -/

/-- For every MAC the callbacks alternate, and the MAC is in the map exactly when the last that
succeeded is `onNew`. -/
structure Paired (s : Recorded) : Prop where
  /-- They alternate. -/
  alternate : ∀ mac, Alternating (successes mac s.2)
  /-- The last of them tells whether the MAC is in the map. -/
  last : ∀ mac, mac ∈ s.1 ↔ (successes mac s.2).getLast? = some .onNew

variable {s s' t : Recorded} {gw : Gateway}

theorem Paired.init : Paired (∅, []) :=
  ⟨fun _ => ⟨nofun, List.isChain_nil⟩, fun _ => iff_of_false Finmap.notMem_empty nofun⟩

theorem Paired.failed (h : Paired s) (c : Callback) (mac : EUI64) (e : GwError) :
    Paired (s.1, s.2 ++ [⟨c, mac, .error e⟩]) := by
  constructor
  · intro mac'
    rw [successes_append, successes_error, List.append_nil]
    exact h.alternate mac'
  · intro mac'
    rw [successes_append, successes_error, List.append_nil]
    exact h.last mac'

theorem Paired.refresh (h : Paired s) (hmac : mac ∈ s.1) (gw : Gateway) :
    Paired (s.1.insert mac gw, s.2) := by
  refine ⟨h.alternate, fun mac' => ?_⟩
  rw [Finmap.mem_insert, ← h.last mac']
  constructor
  · rintro (rfl | hmem)
    · exact hmac
    · exact hmem
  · exact .inr

/-- A callback succeeds that was not the last for its MAC, and the map follows. -/
theorem Paired.succeeded {g : Gateways} (h : Paired s) (hfirst : successes mac s.2 = [] → c = .onNew)
    (hlast : (successes mac s.2).getLast? ≠ some c) (hmac : mac ∈ g ↔ c = .onNew)
    (hothers : ∀ mac', mac' ≠ mac → (mac' ∈ g ↔ mac' ∈ s.1)) : Paired (g, s.2 ++ [⟨c, mac, .ok ()⟩]) := by
  constructor
  · intro mac'
    rw [successes_append]
    by_cases hm : mac = mac'
    · subst hm
      rw [successes_ok]
      exact (h.alternate mac).snoc hfirst hlast
    · rw [successes_ok_of_ne hm, List.append_nil]
      exact h.alternate mac'
  · intro mac'
    rw [successes_append]
    by_cases hm : mac = mac'
    · subst hm
      simp [hmac]
    · rw [successes_ok_of_ne hm, List.append_nil, ← h.last mac']
      exact hothers mac' fun he => hm he.symm

/-- A new gateway, after `onNew`. -/
theorem Paired.add (h : Paired s) (hmac : mac ∉ s.1) (gw : Gateway) :
    Paired (s.1.insert mac gw, s.2 ++ [⟨.onNew, mac, .ok ()⟩]) := by
  refine h.succeeded (fun _ => rfl) (fun hl => hmac ((h.last mac).mpr hl)) ?_ fun mac' hm => ?_
  · exact iff_of_true (Finmap.mem_insert.mpr (.inl rfl)) rfl
  · rw [Finmap.mem_insert, or_iff_right hm]

/-- A gateway leaves, after `onDelete`. -/
theorem Paired.evict (h : Paired s) (hmac : mac ∈ s.1) :
    Paired (s.1.erase mac, s.2 ++ [⟨.onDelete, mac, .ok ()⟩]) := by
  have hlast := (h.last mac).mp hmac
  refine h.succeeded (fun hnil => ?_) (fun hl => ?_) ?_ fun mac' hm => ?_
  · rw [hnil] at hlast
    cases hlast
  · rw [hlast] at hl
    cases hl
  · exact iff_of_false Finmap.notMem_erase_self nofun
  · rw [Finmap.mem_erase, and_iff_right hm]

/-! ### What a call adds to the record -/

/-- What a call that took the registry from `s` to `s'` and returned `r` tells of the callbacks that
failed in it. -/
structure Answered (call : RegCall) (s : Recorded) (r : Except GwError Unit) (s' : Recorded)
    (added : List CallbackCall) : Prop where
  /-- What was added to the record. -/
  record : s'.2 = s.2 ++ added
  /-- A failed `onNew`: `set` returns its error, and the map is as it was. -/
  onNew : ∀ mac e, ⟨.onNew, mac, .error e⟩ ∈ added → s'.1 = s.1 ∧ r = .error e ∧ ∃ gw, call = .set mac gw
  /-- A failed `onDelete`: the entry is still there, as it was. -/
  onDelete : ∀ mac e, ⟨.onDelete, mac, .error e⟩ ∈ added → mac ∈ s'.1 ∧ s'.1.lookup mac = s.1.lookup mac

theorem set_answered {r : Except GwError Unit} (hs : Paired s) (h : Calls (.set mac gw) s r s') :
    Paired s' ∧ ∃ added, Answered (.set mac gw) s r s' added := by
  obtain ⟨tr, h⟩ := h
  obtain ⟨g', calls'⟩ := s'
  rcases set_runs h with ⟨rfl, rfl, hcalls⟩ | ⟨e, rfl, rfl, hmac, -, rfl⟩
  · split_ifs at hcalls with hnew
    · subst hcalls
      refine ⟨hs.add hnew.1 gw, _, rfl, ?_, ?_⟩ <;> simp
    · subst hcalls
      have hmac : mac ∈ s.1 := by
        by_contra hmac
        exact hnew ⟨hmac, rfl⟩
      refine ⟨hs.refresh hmac gw, [], by simp, ?_, ?_⟩ <;> simp
  · refine ⟨hs.failed .onNew mac e, _, rfl, ?_, ?_⟩
    · intro mac' e' hmem
      cases List.mem_singleton.mp hmem
      exact ⟨rfl, rfl, gw, rfl⟩
    · simp

/-- Evictions keep the invariant, and no callback fails. -/
theorem evicted_answered (hs : Paired s) (h : Evicted recorder bothCallbacks s t) :
    Paired t ∧ ∃ added, t.2 = s.2 ++ added ∧ ∀ c mac e, ⟨c, mac, .error e⟩ ∉ added := by
  induction h with
  | refl => exact ⟨hs, [], by simp, by simp⟩
  | @tail t mac u _ hmac hw ih =>
    obtain ⟨ht, added, hadded, hok⟩ := ih
    rw [if_pos (show bothCallbacks.onDelete = true from rfl)] at hw
    cases hw
    refine ⟨ht.evict hmac, added ++ [⟨.onDelete, mac, .ok ()⟩], by simp [hadded], ?_⟩
    intro c mac' e hmem
    rcases List.mem_append.mp hmem with hmem | hmem
    · exact hok c mac' e hmem
    · simp at hmem

theorem cleanup_answered {r : Except GwError Unit} (hs : Paired s) (h : Calls .cleanup s r s') :
    Paired s' ∧ ∃ added, Answered .cleanup s r s' added := by
  obtain ⟨tr, h⟩ := h
  obtain ⟨g', calls'⟩ := s'
  rcases cleanup_runs h with ⟨rfl, hev⟩ | ⟨mac, e, t, rfl, hev, hmac, rfl, rfl⟩
  · obtain ⟨ht, added, hadded, hok⟩ := evicted_answered hs hev
    exact ⟨ht, added, hadded, fun mac e hmem => absurd hmem (hok _ _ _),
      fun mac e hmem => absurd hmem (hok _ _ _)⟩
  · obtain ⟨ht, added, hadded, hok⟩ := evicted_answered hs hev
    refine ⟨ht.failed .onDelete mac e, added ++ [⟨.onDelete, mac, .error e⟩], by simp [hadded], ?_, ?_⟩
    · intro mac' e' hmem
      rcases List.mem_append.mp hmem with hmem | hmem
      · exact absurd hmem (hok _ _ _)
      · simp at hmem
    · -- the refused one is in the map when the loop stops, so it is as it was
      intro mac' e' hmem
      rcases List.mem_append.mp hmem with hmem | hmem
      · exact absurd hmem (hok _ _ _)
      · cases List.mem_singleton.mp hmem
        refine ⟨hmac, (hev.lookup mac).resolve_right fun hnone => ?_⟩
        exact Finmap.lookup_eq_none.mp hnone hmac

/-- One call keeps the invariant, and treats a failed callback as it must. -/
theorem Paired.call {call : RegCall} {r : Except GwError Unit} (hs : Paired s) (h : Calls call s r s') :
    Paired s' ∧ ∃ added, Answered call s r s' added := by
  cases call with
  | set mac gw => exact set_answered hs h
  | cleanup => exact cleanup_answered hs h

theorem Reached.paired (h : Reached s) : Paired s := by
  induction h with
  | init => exact .init
  | call _ hcall ih => exact (ih.call hcall).1

/-- **The callbacks alternate.** After any calls of `set` and `cleanup`, whatever the clock shows, in
whatever order `cleanup` visits the map and whatever the callbacks answer: for every MAC the
callbacks that succeeded alternate, `onNew` first, and the MAC is in the map exactly when the last of
them is `onNew`. In the next call, a failed `onNew` leaves the map as it was and its error is what
`set` returns, and a failed `onDelete` leaves the entry as it was. -/
theorem callbacks_alternate (h : Reached s) :
    (∀ mac, Alternating (successes mac s.2)) ∧
    (∀ mac, mac ∈ s.1 ↔ (successes mac s.2).getLast? = some .onNew) ∧
    ∀ call r s', Calls call s r s' → ∃ added, Answered call s r s' added := by
  have hs := h.paired
  exact ⟨hs.alternate, hs.last, fun call r s' hcall => (hs.call hcall).2⟩

/-- A gateway is heard from, and `onDelete` refuses when it has gone stale. -/
theorem callbacks_alternate_refused :
    ∃ s : Recorded, Reached s ∧ sampleMAC ∈ s.1 ∧
      s.2 = [⟨.onNew, sampleMAC, .ok ()⟩, ⟨.onDelete, sampleMAC, .error .gatewayDoesNotExist⟩] ∧
      Alternating (successes sampleMAC s.2) := by
  have hset : Calls (.set sampleMAC .zero) (∅, []) (.ok ())
      (Finmap.insert sampleMAC .zero ∅, [⟨.onNew, sampleMAC, .ok ()⟩]) := by
    have hnew : none = (∅ : Gateways).lookup sampleMAC := by rw [Finmap.lookup_empty]
    refine ⟨[⟨.lookup sampleMAC, none⟩, ⟨.onNew sampleMAC, .ok ()⟩, ⟨.store sampleMAC .zero, ()⟩], ?_⟩
    refine runs_eff_iff.mpr ⟨none, _, _, ⟨hnew, rfl⟩, rfl, ?_⟩
    refine runs_eff_iff.mpr ⟨.ok (), (∅, _), _, ⟨rfl, rfl⟩, rfl, ?_⟩
    exact runs_eff_iff.mpr ⟨(), _, _, rfl, rfl, .ret⟩
  have hcleanup : Calls .cleanup (Finmap.insert sampleMAC .zero ∅, [⟨.onNew, sampleMAC, .ok ()⟩])
      (.error .gatewayDoesNotExist) (Finmap.insert sampleMAC .zero ∅,
        [⟨.onNew, sampleMAC, .ok ()⟩, ⟨.onDelete, sampleMAC, .error .gatewayDoesNotExist⟩]) := by
    have hknown : some .zero = ((∅ : Gateways).insert sampleMAC .zero).lookup sampleMAC := by
      rw [Finmap.lookup_insert]
    have hrange : ∀ mac, mac ∈ [sampleMAC] ↔ mac ∈ (∅ : Gateways).insert sampleMAC .zero := by
      intro mac
      rw [List.mem_singleton, Finmap.mem_insert, or_iff_left Finmap.notMem_empty]
    refine ⟨[⟨.range, [sampleMAC]⟩, ⟨.lookup sampleMAC, some .zero⟩, ⟨.now, (0 : ℤ)⟩,
      ⟨.onDelete sampleMAC, .error .gatewayDoesNotExist⟩], ?_⟩
    refine runs_eff_iff.mpr ⟨[sampleMAC], _, _, ⟨⟨List.nodup_singleton _, hrange⟩, rfl⟩, rfl, ?_⟩
    refine runs_eff_iff.mpr ⟨some .zero, _, _, ⟨hknown, rfl⟩, rfl, ?_⟩
    refine runs_eff_iff.mpr ⟨(0 : ℤ), _, _, rfl, rfl, ?_⟩
    exact runs_eff_iff.mpr ⟨.error .gatewayDoesNotExist, (_, _), _, ⟨rfl, rfl⟩, rfl, .ret⟩
  have hr := (Reached.init.call hset).call hcleanup
  exact ⟨_, hr, Finmap.mem_insert.mpr (.inl rfl), rfl, (callbacks_alternate hr).1 sampleMAC⟩

end GatewayBridge.Semtech
