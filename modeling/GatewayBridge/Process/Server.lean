import GatewayBridge.Process.Emits
import Mathlib.Data.List.ReduceOption

/-!
# A loop that serves

A loop goes round: in each round it takes an item, and sends one reply for it at most. `Served` says of
what the loop has done that it is a number of rounds, and `Serving` that a last one may have begun. What
became of an item (`Service.Fate`) is said of the steps of its own round. So the replies are those of
different items, in the order of the items, and a source for every item is one for every reply
(`Accounted.replies`).

The loop is one thread: of the calls of some kind, no more than one is ever started (`Run.unique`).
-/

namespace GatewayBridge.Process

universe u v w x y z

/-! ### Rounds -/

/-- A round of a loop. -/
structure Round (X : Type u) (P : Type v) (M : Type w) where
  /-- What the loop did in it. -/
  steps : List X
  /-- The item that it took. -/
  item : P
  /-- The reply that it sent. -/
  reply : Option M

/-- What a loop takes and sends, and what becomes of an item. -/
structure Service (X : Type u) (P : Type v) (M : Type w) where
  /-- The item that a step takes. -/
  item : X → Option P
  /-- The reply that a step sends. -/
  reply : X → Option M
  /-- These are the steps of a round for the item, with this reply. -/
  Fate : List X → P → Option M → Prop
  /-- A round takes one item. -/
  fate_item : ∀ {l p out}, Fate l p out → l.filterMap item = [p]
  /-- It sends one reply, or none. -/
  fate_reply : ∀ {l p out}, Fate l p out → l.filterMap reply = out.toList

namespace Service

variable {X : Type u} {P : Type v} {M : Type w} (S : Service X P M) {rounds : List (Round X P M)} {l mid : List X}
  {p : P} {o : Option M}

/-- Every round is one of the service. -/
def Fates (rounds : List (Round X P M)) : Prop := ∀ r ∈ rounds, S.Fate r.steps r.item r.reply

/-- The loop has gone round a number of times. -/
def Served (l : List X) : Prop := ∃ rounds, S.Fates rounds ∧ l = rounds.flatMap Round.steps

/-- The loop has gone round a number of times, and has begun another round: it has sent no reply in it. -/
def Serving (l : List X) : Prop :=
  ∃ rounds last, S.Fates rounds ∧ l = rounds.flatMap Round.steps ++ last ∧
    (last.filterMap S.item).length ≤ 1 ∧ last.filterMap S.reply = []

variable {S}

theorem served_nil : S.Served [] := ⟨[], nofun, rfl⟩

theorem Served.serving (h : S.Served l) : S.Serving l := by
  obtain ⟨rounds, hrounds, rfl⟩ := h
  exact ⟨rounds, [], hrounds, (List.append_nil _).symm, Nat.zero_le 1, rfl⟩

theorem Served.take (h : S.Served l) (hitem : (mid.filterMap S.item).length ≤ 1)
    (hreply : mid.filterMap S.reply = []) : S.Serving (l ++ mid) := by
  obtain ⟨rounds, hrounds, rfl⟩ := h
  exact ⟨rounds, mid, hrounds, rfl, hitem, hreply⟩

theorem Served.round (h : S.Served l) (hfate : S.Fate mid p o) : S.Served (l ++ mid) := by
  obtain ⟨rounds, hrounds, rfl⟩ := h
  refine ⟨rounds ++ [⟨mid, p, o⟩], ?_, by simp⟩
  intro r hr
  rcases List.mem_append.mp hr with hr | hr
  · exact hrounds r hr
  · rw [List.mem_singleton.mp hr]
    exact hfate

theorem Fates.items (h : S.Fates rounds) : (rounds.flatMap Round.steps).filterMap S.item = rounds.map Round.item := by
  induction rounds with
  | nil => rfl
  | cons r rounds ih =>
    have hitem := S.fate_item (h r List.mem_cons_self)
    rw [List.flatMap_cons, List.filterMap_append, hitem, ih fun r' hr' => h r' (List.mem_cons_of_mem _ hr')]
    rfl

theorem Fates.replies (h : S.Fates rounds) :
    (rounds.flatMap Round.steps).filterMap S.reply = rounds.filterMap Round.reply := by
  induction rounds with
  | nil => rfl
  | cons r rounds ih =>
    have hreply := S.fate_reply (h r List.mem_cons_self)
    rw [List.flatMap_cons, List.filterMap_append, hreply, ih fun r' hr' => h r' (List.mem_cons_of_mem _ hr')]
    cases ho : r.reply <;> simp [ho]

/-- **The items and the replies of a loop that serves.** -/
theorem Serving.items_replies (h : S.Serving l) : ∃ rounds last, S.Fates rounds ∧
    l = rounds.flatMap Round.steps ++ last ∧
    l.filterMap S.item = rounds.map Round.item ++ last.filterMap S.item ∧ (last.filterMap S.item).length ≤ 1 ∧
    l.filterMap S.reply = rounds.filterMap Round.reply := by
  obtain ⟨rounds, last, hrounds, rfl, hitem, hreply⟩ := h
  refine ⟨rounds, last, hrounds, rfl, ?_, hitem, ?_⟩
  · rw [List.filterMap_append, hrounds.items]
  · rw [List.filterMap_append, hrounds.replies, hreply, List.append_nil]

/-! ### Steps with more to them -/

variable {A : Type x} {f : A → X} {L : List A}

/-- The service, for steps that are known by what `f` says of them. -/
def comap (S : Service X P M) (f : A → X) : Service A P M where
  item a := S.item (f a)
  reply a := S.reply (f a)
  Fate l p o := S.Fate (l.map f) p o
  fate_item hfate := (List.filterMap_map ..).symm.trans (S.fate_item hfate)
  fate_reply hfate := (List.filterMap_map ..).symm.trans (S.fate_reply hfate)

theorem exists_fates_comap (hrounds : S.Fates rounds) {last : List X}
    (h : L.map f = rounds.flatMap Round.steps ++ last) :
    ∃ rounds' last', (S.comap f).Fates rounds' ∧ L = rounds'.flatMap Round.steps ++ last' ∧ last'.map f = last := by
  induction rounds generalizing L with
  | nil => exact ⟨[], L, nofun, rfl, h⟩
  | cons r rounds ih =>
    rw [List.flatMap_cons, List.append_assoc] at h
    obtain ⟨steps, rest, rfl, hsteps, hrest⟩ := List.map_eq_append_iff.mp h
    obtain ⟨rounds', last', hrounds', rfl, hlast⟩ := ih (fun r' hr' => hrounds r' (List.mem_cons_of_mem _ hr')) hrest
    refine ⟨⟨steps, r.item, r.reply⟩ :: rounds', last', ?_, (List.append_assoc ..).symm, hlast⟩
    intro r' hr'
    rcases List.mem_cons.mp hr' with rfl | hr'
    · have hfate := hrounds r List.mem_cons_self
      rw [← hsteps] at hfate
      exact hfate
    · exact hrounds' r' hr'

/-- **A loop that serves does so in the steps themselves.** -/
theorem Serving.of_map (h : S.Serving (L.map f)) : (S.comap f).Serving L := by
  obtain ⟨rounds, last, hrounds, heq, hitem, hreply⟩ := h
  obtain ⟨rounds', last', hrounds', rfl, rfl⟩ := exists_fates_comap hrounds heq
  rw [List.filterMap_map] at hitem hreply
  exact ⟨rounds', last', hrounds', rfl, hitem, hreply⟩

end Service

/-- **The outcomes of a list are accounted for by the sources of its elements.** -/
theorem Accounted.outcomes {ι : Type u} {β : Type v} {γ : Type w} {ord : ι → ι → Prop} {P : ι → β → Prop}
    {F : β → Option γ → Prop} {l : List β} {outs : List (Option γ)} (h : Accounted ord P l)
    (hF : List.Forall₂ F l outs) :
    Accounted ord (fun i g => ∃ b, P i b ∧ F b (some g)) outs.reduceOption := by
  obtain ⟨is, hord, his⟩ := h
  suffices hsources : ∃ is' : List ι, is'.Sublist is ∧
      List.Forall₂ (fun i g => ∃ b, P i b ∧ F b (some g)) is' outs.reduceOption by
    obtain ⟨is', hsub, his'⟩ := hsources
    exact ⟨is', hord.sublist hsub, his'⟩
  clear hord
  induction his generalizing outs with
  | nil =>
    cases hF
    exact ⟨[], .slnil, .nil⟩
  | @cons i b is l hi _ ih =>
    obtain ⟨out, outs, hout, houts, rfl⟩ := List.forall₂_cons_left_iff.mp hF
    obtain ⟨is', hsub, his'⟩ := ih houts
    cases out with
    | none => exact ⟨is', hsub.cons i, his'⟩
    | some g => exact ⟨i :: is', hsub.cons_cons i, .cons ⟨b, hi, hout⟩ his'⟩

/-- **The replies are accounted for by the sources of the items**, in their order. -/
theorem Accounted.replies {X : Type u} {P : Type v} {M : Type w} {ι : Type x} {ord : ι → ι → Prop}
    {Src : ι → P → Prop} {F : List X → P → Option M → Prop} {rounds : List (Round X P M)}
    (h : Accounted ord Src (rounds.map Round.item)) (hF : ∀ r ∈ rounds, F r.steps r.item r.reply) :
    Accounted ord (fun i m => ∃ p, Src i p ∧ ∃ steps, F steps p (some m)) (rounds.filterMap Round.reply) := by
  have hall : List.Forall₂ (fun p o => ∃ steps, F steps p o) (rounds.map Round.item) (rounds.map Round.reply) := by
    rw [List.forall₂_map_left_iff, List.forall₂_map_right_iff, List.forall₂_same]
    exact fun r hr => ⟨r.steps, hF r hr⟩
  have hreplies : rounds.filterMap Round.reply = (rounds.map Round.reply).reduceOption := by
    rw [List.reduceOption, List.filterMap_map]
    rfl
  rw [hreplies]
  exact h.outcomes hall

/-! ### One thread -/

section Sole

variable {S : Type x} {L : Type y} {E : Type u} {R : E → Type v} {α : Type w} {β : Type z}
  {sys : System S L E R α} {ok : Cfg S L E R α → Move L E → Prop} {s₀ : S} {h : List (Entry S E R)}
  {c : Cfg S L E R α} {i j : ℕ} {out : Event E R → Option β}

/-- **Of the calls of a kind, one is started at most.** -/
theorem Run.unique {K : L → Prop} (hok : ∀ c l, ok c (.start l) → K l → ∀ i l', c.call i = some l' → ¬ K l')
    (hr : Run sys ok s₀ h c) {l l' : L} (hi : c.call i = some l) (hj : c.call j = some l') (hl : K l)
    (hl' : K l') : i = j := by
  induction hr generalizing i j l l' with
  | init => simp [Cfg.call] at hi
  | @start h c l₀ hr _ hstart ih =>
    obtain ⟨t, ht, rfl⟩ := Option.map_eq_some_iff.mp hi
    obtain ⟨t', ht', rfl⟩ := Option.map_eq_some_iff.mp hj
    have hbound : ∀ {n : ℕ} {t : Thread L E R α},
        (c.start sys l₀).threads[n]? = some t → n ≤ c.threads.length := by
      intro n t hn
      have hlt := (List.getElem?_eq_some_iff.mp hn).1
      rw [Cfg.start, List.length_append, List.length_singleton] at hlt
      exact Nat.le_of_lt_succ hlt
    rcases Cfg.thread_start ht with hold | ⟨hge, rfl⟩
    · rcases Cfg.thread_start ht' with hold' | ⟨-, rfl⟩
      · exact ih (Option.map_eq_some_iff.mpr ⟨t, hold, rfl⟩) (Option.map_eq_some_iff.mpr ⟨t', hold', rfl⟩) hl hl'
      · exact absurd hl (hok c l₀ hstart hl' i _ (Option.map_eq_some_iff.mpr ⟨t, hold, rfl⟩))
    · rcases Cfg.thread_start ht' with hold' | ⟨hge', -⟩
      · exact absurd hl' (hok c l₀ hstart hl j _ (Option.map_eq_some_iff.mpr ⟨t', hold', rfl⟩))
      · exact (Nat.le_antisymm (hbound ht) hge).trans (Nat.le_antisymm (hbound ht') hge').symm
  | act _ hk _ _ ih =>
    rw [Cfg.call_act hk] at hi hj
    exact ih hi hj hl hl'

/-- What is emitted by one thread only. -/
theorem emitted_of_sole (hsole : ∀ en ∈ h, (out en.event).isSome → en.tid = i) :
    (emitted out h).map Prod.snd = ofKey i (emitted out h) := by
  rw [ofKey, ← List.filterMap_eq_map]
  refine List.filterMap_congr fun b hb => ?_
  obtain ⟨j, b⟩ := b
  obtain ⟨en, hen, rfl, hevent⟩ := mem_emitted_iff.mp hb
  rw [if_pos (hsole en hen (by rw [hevent]; rfl))]
  rfl

end Sole

end GatewayBridge.Process
