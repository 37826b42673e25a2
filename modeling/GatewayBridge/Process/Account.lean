import Mathlib.Data.List.Forall2
import Mathlib.Data.List.Induction
import Mathlib.Data.List.Pairwise
import Mathlib.Data.List.NodupEquivFin

/-!
# Where the elements of a list are from

`Accounted ord P l` gives every element of a list a source: the sources are listed in the order of the
elements, any two of them, an earlier and a later one, are related by `ord`, and `P` relates a source
to its element. With `≠` for `ord`, no source is used twice; with an order, the elements are in the order
of their sources.

* `Accounted.sublist` — what is lost does not matter.
* `Accounted.trace_back` — the sources have sources themselves.
* `accounted_numbered` — where the elements carry a key, each is accounted for by its key and
  its number among the elements of that key.
-/

namespace GatewayBridge.Process

universe u v w

variable {ι : Type u} {κ : Type v} {β : Type w}

/-- Every element has a source, and earlier and later sources are related by `ord`. -/
def Accounted (ord : ι → ι → Prop) (P : ι → β → Prop) (l : List β) : Prop :=
  ∃ is : List ι, is.Pairwise ord ∧ List.Forall₂ P is l

variable {ord : ι → ι → Prop} {ord' : κ → κ → Prop} {P : ι → β → Prop} {P' : κ → β → Prop} {l l' : List β}

/-- The sources of a part of a list. -/
theorem exists_sources_of_sublist {is : List ι} (h : List.Forall₂ P is l) (hl : l'.Sublist l) :
    ∃ is' : List ι, is'.Sublist is ∧ List.Forall₂ P is' l' := by
  induction hl generalizing is with
  | slnil => exact ⟨[], List.nil_sublist _, .nil⟩
  | @cons l' l b _ ih =>
    obtain ⟨i, is₁, -, h₁, rfl⟩ := List.forall₂_cons_right_iff.mp h
    obtain ⟨is', hsub, h'⟩ := ih h₁
    exact ⟨is', hsub.cons i, h'⟩
  | @cons_cons l' l b _ ih =>
    obtain ⟨i, is₁, hi, h₁, rfl⟩ := List.forall₂_cons_right_iff.mp h
    obtain ⟨is', hsub, h'⟩ := ih h₁
    exact ⟨i :: is', hsub.cons_cons i, .cons hi h'⟩

/-- **A part of a list is accounted for as the whole.** -/
theorem Accounted.sublist (h : Accounted ord P l) (hl : l'.Sublist l) : Accounted ord P l' := by
  obtain ⟨is, hord, his⟩ := h
  obtain ⟨is', hsub, his'⟩ := exists_sources_of_sublist his hl
  exact ⟨is', hord.sublist hsub, his'⟩

theorem exists_sources {S : ι → κ → Prop} {is : List ι} (h : List.Forall₂ P is l)
    (hP : ∀ i b, P i b → ∃ k, S i k ∧ P' k b) :
    ∃ ks : List κ, List.Forall₂ S is ks ∧ List.Forall₂ P' ks l := by
  induction h with
  | nil => exact ⟨[], .nil, .nil⟩
  | @cons i b is l hi _ ih =>
    obtain ⟨k, hS, hk⟩ := hP i b hi
    obtain ⟨ks, hSs, hks⟩ := ih
    exact ⟨k :: ks, .cons hS hSs, .cons hk hks⟩

theorem pairwise_sources {S : ι → κ → Prop} {is : List ι} {ks : List κ} (hord : is.Pairwise ord)
    (hS : List.Forall₂ S is ks) (himp : ∀ i i' k k', ord i i' → S i k → S i' k' → ord' k k') :
    ks.Pairwise ord' := by
  induction hS with
  | nil => exact .nil
  | @cons i k is ks hi hrest ih =>
    obtain ⟨hfirst, hord⟩ := List.pairwise_cons.mp hord
    refine List.pairwise_cons.mpr ⟨fun k' hk' => ?_, ih hord⟩
    obtain ⟨n, hn, rfl⟩ := List.mem_iff_getElem.mp hk'
    have hlt : n < is.length := hrest.length_eq ▸ hn
    exact himp i is[n] k ks[n] (hfirst _ (List.getElem_mem hlt)) hi
      ((List.forall₂_iff_get.mp hrest).2 n hlt hn)

/-- **Tracing back**: where every source has a source of its own kind, these account for the list. -/
theorem Accounted.trace_back {S : ι → κ → Prop} (h : Accounted ord P l)
    (hP : ∀ i b, P i b → ∃ k, S i k ∧ P' k b)
    (himp : ∀ i i' k k', ord i i' → S i k → S i' k' → ord' k k') : Accounted ord' P' l := by
  obtain ⟨is, hord, his⟩ := h
  obtain ⟨ks, hS, hks⟩ := exists_sources his hP
  exact ⟨ks, pairwise_sources hord hS himp, hks⟩

/-- Another account of the same sources. -/
theorem Accounted.imp {Q : ι → β → Prop} (h : Accounted ord P l) (hP : ∀ i b, P i b → Q i b) :
    Accounted ord Q l := by
  obtain ⟨is, hord, his⟩ := h
  exact ⟨is, hord, his.imp hP⟩

/-- An element of a list that is accounted for has a source. -/
theorem Accounted.source {is : List ι} (h : List.Forall₂ P is l) {n : ℕ} {b : β} (hb : l[n]? = some b) :
    ∃ i, is[n]? = some i ∧ P i b := by
  obtain ⟨hn, rfl⟩ := List.getElem?_eq_some_iff.mp hb
  have hn' : n < is.length := h.length_eq ▸ hn
  exact ⟨is[n], List.getElem?_eq_getElem hn', (List.forall₂_iff_get.mp h).2 n hn' hn⟩

/-- Elements at increasing positions have sources in that order. -/
theorem ord_of_positions {is : List ι} (h : is.Pairwise ord) {n n' : ℕ} {i i' : ι} (hlt : n < n')
    (hi : is[n]? = some i) (hi' : is[n']? = some i') : ord i i' := by
  obtain ⟨hn, rfl⟩ := List.getElem?_eq_some_iff.mp hi
  obtain ⟨hn', rfl⟩ := List.getElem?_eq_some_iff.mp hi'
  exact List.pairwise_iff_getElem.mp h n n' hn hn' hlt

/-- What is made of the elements of a part of a list is made, in the same order, of elements of the list. -/
theorem exists_positions {γ : Type w} (f : β → Option γ) (h : l'.Sublist l) :
    ∃ g : ℕ → ℕ, StrictMono g ∧
      ∀ n c, (l'.filterMap f)[n]? = some c → ∃ b, l[g n]? = some b ∧ f b = some c := by
  have hsub : (l'.filter fun b => (f b).isSome).Sublist l := List.filter_sublist.trans h
  obtain ⟨g, hg⟩ := List.sublist_iff_exists_orderEmbedding_getElem?_eq.mp hsub
  refine ⟨g, g.strictMono, fun n c hc => ?_⟩
  have hmade : (l'.filterMap f).map some = (l'.filter fun b => (f b).isSome).map f := by
    clear h hsub g hg hc
    induction l' with
    | nil => rfl
    | cons b l' ih => cases hb : f b <;> simp [hb, ih]
  have hn : ((l'.filter fun b => (f b).isSome).map f)[n]? = some (some c) := by
    rw [← hmade, List.getElem?_map, hc]
    rfl
  rw [List.getElem?_map, Option.map_eq_some_iff] at hn
  obtain ⟨b, hb, hfb⟩ := hn
  exact ⟨b, (hg n).symm.trans hb, hfb⟩

/-! ### Elements with a key -/

/-- Of two sources, each a key and a number: with the same key, the earlier number comes first. -/
def Numbered (o o' : κ × ℕ) : Prop := o.1 = o'.1 → o.2 < o'.2

theorem Numbered.ne {o o' : κ × ℕ} (h : Numbered o o') : o ≠ o' := by
  rintro rfl
  exact Nat.lt_irrefl _ (h rfl)

section Keyed

variable [DecidableEq κ]

/-- The elements of a key. -/
def ofKey (k : κ) (l : List (κ × β)) : List β :=
  l.filterMap fun kb => if kb.1 = k then some kb.2 else none

theorem ofKey_append (k : κ) (l l' : List (κ × β)) : ofKey k (l ++ l') = ofKey k l ++ ofKey k l' :=
  List.filterMap_append

theorem ofKey_singleton_self (k : κ) (b : β) : ofKey k [(k, b)] = [b] := by
  simp [ofKey]

theorem ofKey_sublist (k : κ) (l : List (κ × β)) : ((ofKey k l).map (Prod.mk k)).Sublist l := by
  induction l with
  | nil => exact List.Sublist.slnil
  | cons kb l ih =>
    by_cases hk : kb.1 = k
    · subst hk
      simpa [ofKey] using ih
    · simpa [ofKey, hk] using ih.cons kb

/-- The elements of a key are accounted for as the whole. -/
theorem Accounted.ofKey {P : ι → κ × β → Prop} {l : List (κ × β)} (h : Accounted ord P l) (k : κ) :
    Accounted ord (fun i b => P i (k, b)) (ofKey k l) := by
  obtain ⟨is, hord, his⟩ := h.sublist (ofKey_sublist k l)
  exact ⟨is, hord, List.forall₂_map_right_iff.mp his⟩

/-- **Each element is the one with its number among those of its key.** -/
theorem accounted_numbered (l : List (κ × β)) :
    Accounted Numbered (fun o (b : β) => (ofKey o.1 l)[o.2]? = some b) (l.map Prod.snd) := by
  suffices h : ∃ os : List (κ × ℕ), os.Pairwise Numbered ∧ (∀ o ∈ os, o.2 < (ofKey o.1 l).length) ∧
      List.Forall₂ (fun o b => (ofKey o.1 l)[o.2]? = some b) os (l.map Prod.snd) by
    obtain ⟨os, hord, -, hos⟩ := h
    exact ⟨os, hord, hos⟩
  induction l using List.reverseRecOn with
  | nil => exact ⟨[], .nil, List.forall_mem_nil _, .nil⟩
  | append_singleton l kb ih =>
    obtain ⟨k, b⟩ := kb
    obtain ⟨os, hord, hlt, hos⟩ := ih
    refine ⟨os ++ [(k, (ofKey k l).length)], ?_, ?_, ?_⟩
    · refine List.pairwise_append.mpr ⟨hord, List.pairwise_singleton _ _, fun o ho o' ho' heq => ?_⟩
      rw [List.mem_singleton.mp ho'] at heq ⊢
      have hk : o.1 = k := heq
      exact hk ▸ hlt o ho
    · intro o ho
      rw [ofKey_append, List.length_append]
      rcases List.mem_append.mp ho with ho | ho
      · exact Nat.lt_add_right _ (hlt o ho)
      · rw [List.mem_singleton.mp ho, ofKey_singleton_self]
        exact Nat.lt_succ_self _
    · rw [List.map_append]
      refine List.rel_append (hos.imp fun o b hb => ?_) (.cons ?_ .nil)
      · rw [ofKey_append, List.getElem?_append_left (List.getElem?_eq_some_iff.mp hb).1]
        exact hb
      · rw [ofKey_append, ofKey_singleton_self]
        exact List.getElem?_concat_length

end Keyed

end GatewayBridge.Process
