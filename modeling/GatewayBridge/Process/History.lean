import GatewayBridge.Process.Pool

/-!
# What a history says about the state

Some part of the shared state is often a record of the past: it holds the value
that was written last, unless it was cleared since. `Latest sets clears h b` says
so of a history, without the state; `Linked.latest_iff` is the rule that the state
holds just this, for a `view` of the state that an effect either sets, or clears,
or leaves alone.

`Run.finish` is the other use of a history here: a run can be continued by moves
of one thread until that thread is done.
-/

namespace GatewayBridge.Process

open Prog

universe u v w x y z

variable {S : Type x} {L : Type y} {E : Type u} {R : E → Type v} {α : Type w} {β : Type z}

/-! ### The effects of a history -/

section Linked

variable {sem : (e : E) → S → R e → S → Prop} {s₀ s : S} {h : List (Entry S E R)}

theorem Linked.sem_of_mem (hl : Linked sem s₀ h s) {en : Entry S E R} (hen : en ∈ h) :
    sem en.event.1 en.pre en.event.2 en.post := by
  obtain ⟨h₁, h₂, rfl⟩ := List.append_of_mem hen
  exact hl.before.2

/-- What every effect of the history keeps holds after it. -/
theorem Linked.invariant_of_mem {I : S → Prop} (h₀ : I s₀) (hl : Linked sem s₀ h s)
    (hI : ∀ en ∈ h, I en.pre → I en.post) : I s := by
  induction hl with
  | nil => exact h₀
  | @snoc h s en hl hpre hs ih =>
    have hh := ih fun en' hen' => hI en' (List.mem_append_left _ hen')
    subst hpre
    exact hI en (List.mem_append_right _ (List.mem_singleton_self en)) hh

/-- What every effect of the history keeps holds before each of them. -/
theorem Linked.invariant_pre {I : S → Prop} (h₀ : I s₀) (hl : Linked sem s₀ h s)
    (hI : ∀ en ∈ h, I en.pre → I en.post) : ∀ en ∈ h, I en.pre := by
  intro en hen
  obtain ⟨h₁, h₂, rfl⟩ := List.append_of_mem hen
  exact hl.before.1.invariant_of_mem h₀ fun en' hen' => hI en' (List.mem_append_left _ hen')

/-- The state that an effect of the history left is related to those that the later effects found, and to
the last one, where every effect relates the states around it. -/
theorem Linked.pairwise_rel {r : S → S → Prop} (hrefl : ∀ s, r s s)
    (htrans : ∀ {s₁ s₂ s₃}, r s₁ s₂ → r s₂ s₃ → r s₁ s₃) (hsem : ∀ e s a s', sem e s a s' → r s s')
    (hl : Linked sem s₀ h s) : (h.Pairwise fun en en' => r en.post en'.pre) ∧ ∀ en ∈ h, r en.post s := by
  induction hl with
  | nil => exact ⟨.nil, nofun⟩
  | @snoc h s en hl hpre hs ih =>
    obtain ⟨hpair, hlast⟩ := ih
    constructor
    · rw [List.pairwise_append]
      refine ⟨hpair, List.pairwise_singleton _ _, fun en' hen' en'' hen'' => ?_⟩
      rw [List.mem_singleton.mp hen'', hpre]
      exact hlast en' hen'
    · intro en' hen'
      rcases List.mem_append.mp hen' with hen' | hen'
      · exact htrans (hlast en' hen') (hsem _ _ _ _ hs)
      · rw [List.mem_singleton.mp hen']
        exact hrefl _

/-- The state that an effect of the history found is related to the last one, where every effect relates the
states around it. -/
theorem Linked.rel_of_mem {r : S → S → Prop} (hrefl : ∀ s, r s s)
    (htrans : ∀ {s₁ s₂ s₃}, r s₁ s₂ → r s₂ s₃ → r s₁ s₃) (hsem : ∀ e s a s', sem e s a s' → r s s')
    (hl : Linked sem s₀ h s) : ∀ en ∈ h, r en.pre s := by
  intro en hen
  exact htrans (hsem _ _ _ _ (hl.sem_of_mem hen)) ((hl.pairwise_rel hrefl htrans hsem).2 en hen)

end Linked

/-! ### The value written last -/

/-- Some entry of `h` sets the value `b`, and no later one sets a value or clears it. -/
def Latest {ι : Type*} (sets : ι → β → Prop) (clears : ι → Prop) (h : List ι) (b : β) : Prop :=
  ∃ h₁ en h₂, h = h₁ ++ en :: h₂ ∧ sets en b ∧ ∀ en' ∈ h₂, ¬ clears en' ∧ ∀ b', ¬ sets en' b'

theorem not_latest_nil {ι : Type*} {sets : ι → β → Prop} {clears : ι → Prop} {b : β} :
    ¬ Latest sets clears [] b := by
  rintro ⟨h₁, en, h₂, hh, -⟩
  simp at hh

/-- One more entry: it sets the value, or the value was there and the entry leaves it alone. -/
theorem latest_snoc_iff {ι : Type*} {sets : ι → β → Prop} {clears : ι → Prop} {h : List ι} {en : ι}
    {b : β} :
    Latest sets clears (h ++ [en]) b ↔
      sets en b ∨ Latest sets clears h b ∧ ¬ clears en ∧ ∀ b', ¬ sets en b' := by
  constructor
  · rintro ⟨h₁, en', h₂, hh, hset, hlater⟩
    rcases List.eq_nil_or_concat' h₂ with rfl | ⟨h₂', en'', rfl⟩
    · obtain ⟨-, hen⟩ := List.append_inj' hh rfl
      cases hen
      exact .inl hset
    · rw [← List.cons_append, ← List.append_assoc] at hh
      obtain ⟨rfl, hen⟩ := List.append_inj' hh rfl
      cases hen
      refine .inr ⟨⟨h₁, en', h₂', rfl, hset, fun e he => ?_⟩, ?_⟩
      · exact hlater e (List.mem_append_left _ he)
      · exact hlater en (List.mem_append_right _ (List.mem_singleton_self en))
  · rintro (hset | ⟨⟨h₁, en', h₂, rfl, hset, hlater⟩, hen⟩)
    · exact ⟨h, en, [], rfl, hset, List.forall_mem_nil _⟩
    · refine ⟨h₁, en', h₂ ++ [en], by simp, hset, fun e he => ?_⟩
      rcases List.mem_append.mp he with he | he
      · exact hlater e he
      · rw [List.mem_singleton.mp he]
        exact hen

/-- **The rule for a recorded value.** Where every effect sets the view, clears it or leaves it alone,
the view holds the value that was set last, if it was not cleared since. -/
theorem Linked.latest_iff {sem : (e : E) → S → R e → S → Prop} {s₀ s : S} {h : List (Entry S E R)}
    {sets : Entry S E R → β → Prop} {clears : Entry S E R → Prop} (hl : Linked sem s₀ h s)
    (view : S → Option β) (h₀ : view s₀ = none)
    (hset : ∀ en ∈ h, ∀ b, sets en b → view en.post = some b)
    (hclear : ∀ en ∈ h, clears en → view en.post = none)
    (hframe : ∀ en ∈ h, ¬ clears en → (∀ b, ¬ sets en b) → view en.post = view en.pre) (b : β) :
    view s = some b ↔ Latest sets clears h b := by
  induction hl with
  | nil =>
    rw [h₀]
    exact iff_of_false nofun not_latest_nil
  | @snoc h s en hl hpre hs ih =>
    have hen : en ∈ h ++ [en] := List.mem_append_right _ (List.mem_singleton_self en)
    have hpast := ih (fun e he => hset e (List.mem_append_left _ he))
      (fun e he => hclear e (List.mem_append_left _ he)) (fun e he => hframe e (List.mem_append_left _ he))
    rw [latest_snoc_iff]
    by_cases hsets : ∃ b', sets en b'
    · obtain ⟨b', hb'⟩ := hsets
      rw [hset en hen b' hb', Option.some.injEq]
      constructor
      · rintro rfl
        exact .inl hb'
      · rintro (hb | ⟨-, -, hno⟩)
        · exact Option.some.inj ((hset en hen b' hb').symm.trans (hset en hen b hb))
        · exact absurd hb' (hno b')
    · rw [not_exists] at hsets
      by_cases hclears : clears en
      · rw [hclear en hen hclears]
        refine iff_of_false nofun ?_
        rintro (hb | ⟨-, hno, -⟩)
        · exact hsets b hb
        · exact hno hclears
      · rw [hframe en hen hclears hsets, hpre, hpast]
        constructor
        · intro hlatest
          exact .inr ⟨hlatest, hclears, hsets⟩
        · rintro (hb | ⟨hlatest, -⟩)
          · exact absurd hb (hsets b)
          · exact hlatest

/-! ### One thread of a run -/

variable {sys : System S L E R α} {ok : Cfg S L E R α → Move L E → Prop} {s₀ : S}
  {h : List (Entry S E R)} {c : Cfg S L E R α} {i : ℕ}

theorem performed_eq_cons {ev : Event E R} {tr : List (Event E R)} (h : List (Entry S E R))
    (hp : performed i h = ev :: tr) :
    ∃ h₁ en h₂, h = h₁ ++ en :: h₂ ∧ en.tid = i ∧ en.event = ev ∧ performed i h₂ = tr := by
  obtain ⟨h₁, en, h₂, rfl, -, hen, hrest⟩ := List.filterMap_eq_cons_iff.mp hp
  split_ifs at hen with htid
  cases hen
  exact ⟨h₁, en, h₂, rfl, htid, rfl, hrest⟩

/-- A thread whose effects all have answers can be run to its end. -/
theorem Run.finish {P : E → Prop} (hok : ∀ c i e, ok c (.act i e))
    (hsem : ∀ e, P e → ∀ s, ∃ r s', sys.sem e s r s') {l : L} {p : Prog E R α} (hp : p.Uses P)
    (hr : Run sys ok s₀ h c) (ht : c.threads[i]? = some ⟨l, p⟩) :
    ∃ h' c' a, Run sys ok s₀ (h ++ h') c' ∧ c'.threads[i]? = some ⟨l, .ret a⟩ := by
  induction p generalizing h c with
  | ret a => exact ⟨[], c, a, by rwa [List.append_nil], ht⟩
  | eff e k ih =>
    obtain ⟨r, s', hs⟩ := hsem e hp.1 c.shared
    obtain ⟨h', c', a, hr', ht'⟩ := ih r (hp.2 r) (hr.act ht hs (hok c i e)) (Cfg.thread_act_self ht)
    exact ⟨_, c', a, by rwa [List.append_assoc] at hr', ht'⟩

end GatewayBridge.Process
