import GatewayBridge.Process.Emits

/-!
# A goroutine for each item

Items go through a channel, and each is taken by a worker of its own, which looks up where it belongs and
sends one message for it, or ends before that. Workers overtake one another, so the messages
are in any order; but none is sent twice, and each is that of an item which was put into the channel
(`Works.accounted`). The other way round, every item that was taken has a worker of its own, which has
taken no other (`Works.taken_accounted`).
-/

namespace GatewayBridge.Process

universe u v w x y z

/-- What a worker does. -/
inductive WorkStep (P K D M : Type z) where
  /-- It takes an item. -/
  | took (p : P)
  /-- It looks up where the items of `k` belong. -/
  | found (k : K) (d : D)
  /-- It sends a message to `d`. -/
  | sent (d : D) (m : M)

namespace WorkStep

variable {P K D M : Type z}

/-- The item that is taken. -/
def item : WorkStep P K D M → Option P
  | took p => some p
  | _ => none

/-- The message that is sent, and where. -/
def message : WorkStep P K D M → Option (D × M)
  | sent d m => some (d, m)
  | _ => none

end WorkStep

/-- A worker so far: it takes an item, looks up where its key belongs, and sends a message for it there. -/
inductive Works {P K D M : Type z} (key : P → K) (Msg : P → M → Prop) : List (WorkStep P K D M) → Prop
  /-- It has not begun. -/
  | idle : Works key Msg []
  /-- It has its item. -/
  | took (p : P) : Works key Msg [.took p]
  /-- It knows where the item belongs. -/
  | found (p : P) (d : D) : Works key Msg [.took p, .found (key p) d]
  /-- It has sent the message. -/
  | sent (p : P) (d : D) (m : M) : Msg p m → Works key Msg [.took p, .found (key p) d, .sent d m]

variable {S : Type x} {E : Type u} {R : E → Type v} {P K D M : Type z} {ι : Type y} {key : P → K}
  {Msg : P → M → Prop} {step : Event E R → Option (WorkStep P K D M)} {h : List (Entry S E R)} {i : ℕ}

theorem ofKey_emitted_bind {β γ : Type z} (out : Event E R → Option β) (g : β → Option γ) (i : ℕ)
    (h : List (Entry S E R)) :
    ofKey i (emitted (fun ev => (out ev).bind g) h) = (ofKey i (emitted out h)).filterMap g := by
  rw [ofKey_emitted, ofKey_emitted, List.filterMap_filterMap]

theorem mem_emitted_bind_iff {β γ : Type z} {out : Event E R → Option β} {g : β → Option γ} {b : γ} :
    (i, b) ∈ emitted (fun ev => (out ev).bind g) h ↔ ∃ a, (i, a) ∈ emitted out h ∧ g a = some b := by
  rw [mem_emitted_iff]
  constructor
  · rintro ⟨en, hen, htid, hb⟩
    obtain ⟨a, ha, hg⟩ := Option.bind_eq_some_iff.mp hb
    exact ⟨a, mem_emitted_iff.mpr ⟨en, hen, htid, ha⟩, hg⟩
  · rintro ⟨a, ha, hg⟩
    obtain ⟨en, hen, htid, ha⟩ := mem_emitted_iff.mp ha
    exact ⟨en, hen, htid, by rw [ha]; exact hg⟩

theorem mem_ofKey_iff {β : Type z} {l : List (ℕ × β)} {b : β} : b ∈ ofKey i l ↔ (i, b) ∈ l := by
  rw [ofKey, List.mem_filterMap]
  constructor
  · rintro ⟨⟨k, b'⟩, hmem, heq⟩
    split_ifs at heq with hk
    cases heq
    subst hk
    exact hmem
  · intro hmem
    exact ⟨(i, b), hmem, if_pos rfl⟩

/-- The items that were taken, each with its worker. -/
def takenItems (step : Event E R → Option (WorkStep P K D M)) (h : List (Entry S E R)) : List (ℕ × P) :=
  emitted (fun ev => (step ev).bind WorkStep.item) h

/-- The messages that were sent, each with its worker. -/
def sentMessages (step : Event E R → Option (WorkStep P K D M)) (h : List (Entry S E R)) : List (ℕ × D × M) :=
  emitted (fun ev => (step ev).bind WorkStep.message) h

/-- The messages of a worker: one at most, for the item it took. -/
theorem Works.message {l : List (WorkStep P K D M)} {r : ℕ} {d : D} {m : M} (hw : Works key Msg l)
    (hm : (l.filterMap WorkStep.message)[r]? = some (d, m)) :
    r = 0 ∧ ∃ p, .took p ∈ l ∧ .found (key p) d ∈ l ∧ Msg p m := by
  cases hw with
  | idle => cases hm
  | took p => cases hm
  | found p d => cases hm
  | sent p d' m' hmsg =>
    cases r with
    | zero =>
      cases hm
      exact ⟨rfl, p, by simp, by simp, hmsg⟩
    | succ r => cases hm

/-- The items of a worker: one at most. -/
theorem Works.item {l : List (WorkStep P K D M)} {r : ℕ} {p : P} (hw : Works key Msg l)
    (hp : (l.filterMap WorkStep.item)[r]? = some p) : r = 0 := by
  cases hw with
  | idle => cases hp
  | took p | found p d | sent p d m hmsg =>
    cases r with
    | zero => rfl
    | succ r => cases hp

/-- **No message is sent twice, and none without an item**: the messages are accounted for by the sources of
the items, where the items that were taken are the first ones of those put in. -/
theorem Works.accounted {ord : ι → ι → Prop} {Src : ι → P → Prop} {items : List P}
    (hworks : ∀ i d m, (i, d, m) ∈ sentMessages step h → Works key Msg (ofKey i (emitted step h)))
    (hne : ∀ i i', ord i i' → i ≠ i') (hitems : Accounted ord Src items)
    (htaken : (takenItems step h).map Prod.snd <+: items) :
    Accounted (· ≠ ·) (fun i (dm : D × M) => ∃ p, Src i p ∧ Msg p dm.2 ∧
      ∃ j, (j, .found (key p) dm.1) ∈ emitted step h) ((sentMessages step h).map Prod.snd) := by
  obtain ⟨is, hord, his⟩ := hitems
  -- from the worker of a message to the place of its item
  have hplaces : Accounted (· ≠ ·) (fun (n : ℕ) (dm : D × M) => ∃ p, items[n]? = some p ∧ Msg p dm.2 ∧
      ∃ j, (j, .found (key p) dm.1) ∈ emitted step h) ((sentMessages step h).map Prod.snd) := by
    refine (accounted_numbered (sentMessages step h)).trace_back
      (S := fun o n => o.2 = 0 ∧ ∃ p, (takenItems step h)[n]? = some (o.1, p)) ?_ ?_
    · rintro ⟨i, r⟩ ⟨d, m⟩ hm
      have hmem : (i, d, m) ∈ sentMessages step h := mem_ofKey_iff.mp (List.mem_of_getElem? hm)
      rw [sentMessages, ofKey_emitted_bind] at hm
      obtain ⟨hr, p, htook, hfound, hmsg⟩ := (hworks i d m hmem).message hm
      have htook' : (i, p) ∈ takenItems step h :=
        mem_emitted_bind_iff.mpr ⟨.took p, mem_ofKey_iff.mp htook, rfl⟩
      obtain ⟨n, hn⟩ := List.mem_iff_getElem?.mp htook'
      have hitem : ((takenItems step h).map Prod.snd)[n]? = some p := by rw [List.getElem?_map, hn]; rfl
      refine ⟨n, ⟨hr, p, hn⟩, p, ?_, hmsg, i, mem_ofKey_iff.mp hfound⟩
      obtain ⟨hlt, rfl⟩ := List.getElem?_eq_some_iff.mp hitem
      exact List.prefix_iff_getElem?.mp htaken n hlt
    · rintro ⟨i, r⟩ ⟨i', r'⟩ n n' hnum ⟨hr, p, hn⟩ ⟨hr', p', hn'⟩ rfl
      cases hn.symm.trans hn'
      have hlt : r < r' := hnum rfl
      simp only at hr hr'
      omega
  -- from there to the source
  refine hplaces.trace_back (S := fun n i => is[n]? = some i) ?_ ?_
  · rintro n dm ⟨p, hn, hmsg, hfound⟩
    obtain ⟨i, hi, hsrc⟩ := Accounted.source his hn
    exact ⟨i, hi, p, hsrc, hmsg, hfound⟩
  · intro n n' i i' hn hi hi'
    rcases Nat.lt_or_gt_of_ne hn with hlt | hgt
    · exact hne _ _ (ord_of_positions hord hlt hi hi')
    · exact (hne _ _ (ord_of_positions hord hgt hi' hi)).symm

/-- A worker takes no second item. -/
theorem Works.took_unique {l : List (WorkStep P K D M)} {p p' : P} (hw : Works key Msg l) (hp : .took p ∈ l)
    (hp' : .took p' ∈ l) : p = p' := by
  cases hw with
  | idle => cases hp
  | took q | found q d | sent q d m hmsg =>
    have hq : p = q := by simpa using hp
    have hq' : p' = q := by simpa using hp'
    rw [hq, hq']

/-- **Every item that was taken has a worker of its own.** -/
theorem Works.taken_accounted
    (hworks : ∀ i p, (i, p) ∈ takenItems step h → Works key Msg (ofKey i (emitted step h))) :
    Accounted (· ≠ ·) (fun i p => (i, p) ∈ takenItems step h) ((takenItems step h).map Prod.snd) := by
  refine (accounted_numbered (takenItems step h)).trace_back (S := fun o i => o = (i, 0)) ?_ ?_
  · rintro ⟨i, r⟩ p hp
    have hmem : (i, p) ∈ takenItems step h := mem_ofKey_iff.mp (List.mem_of_getElem? hp)
    rw [takenItems, ofKey_emitted_bind] at hp
    have hr : r = 0 := (hworks i p hmem).item hp
    exact ⟨i, by rw [hr], hmem⟩
  · rintro _ _ i i' hnum rfl rfl rfl
    exact Nat.lt_irrefl _ (hnum rfl)

end GatewayBridge.Process
