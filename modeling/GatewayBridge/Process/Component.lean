import GatewayBridge.Process.Pool
import Mathlib.Logic.Function.Basic

/-!
# A system as a part of another

The programs of a large system may consist of calls of a smaller one, one after the other, with effects
of their own in between. Then what the large system does to the state of the smaller one is what the
smaller one can do on its own: every run of the whole, with all but the effects of the part left out, is a
run of the part (`Run.component`). So an invariant of the part, over its own runs, is one of the whole.

* `Component A B` — the state of `B` as that of `A`, and the effects of `B` that are effects of `A`.
* `Tracks o p` — what the program `p` of `B` does to the part is what calls of `A` do; `o` is what is left of
  the one under way.
-/

namespace GatewayBridge.Process

open Prog

universe u v w x y

/-- How the system `A` is a part of the system `B`. -/
structure Component {S S' : Type x} {L L' : Type y} {E E' : Type u} {R : E → Type v} {R' : E' → Type v}
    {α α' : Type w} (A : System S L E R α) (B : System S' L' E' R' α') where
  /-- The state of the part. -/
  view : S' → S
  /-- The effect of the part that an effect is. -/
  seen : Event E' R' → Option (Event E R)
  /-- Such an effect does in the part what it does there. -/
  sem_seen : ∀ e s r s', B.sem e s r s' → ∀ ev, seen ⟨e, r⟩ = some ev → A.sem ev.1 (view s) ev.2 (view s')
  /-- The other effects leave the part alone. -/
  sem_unseen : ∀ e s r s', B.sem e s r s' → seen ⟨e, r⟩ = none → view s' = view s

namespace Component

variable {S S' : Type x} {L L' : Type y} {E E' : Type u} {R : E → Type v} {R' : E' → Type v} {α α' : Type w}
  {A : System S L E R α} {B : System S' L' E' R' α'} (C : Component A B)

/-- What `p` does to the part, calls of `A` do; `o` is what is left of the one under way. -/
inductive Tracks : Option (Prog E R α) → Prog E' R' α' → Prop
  /-- Nothing left to do. -/
  | ret (b : α') : Tracks none (.ret b)
  /-- An effect that is none of the part. -/
  | own {e : E'} {k : R' e → Prog E' R' α'} : (∀ r, C.seen ⟨e, r⟩ = none) → (∀ r, Tracks none (k r)) →
      Tracks none (.eff e k)
  /-- A call of `A` begins. -/
  | call (l : L) {p : Prog E' R' α'} : (∀ s, A.starts l s) → Tracks (some (A.body l)) p → Tracks none p
  /-- The call goes on. -/
  | step {e : E} {k : R e → Prog E R α} {e' : E'} {k' : R' e' → Prog E' R' α'} (answer : R' e' → R e) :
      (∀ r, C.seen ⟨e', r⟩ = some ⟨e, answer r⟩) → (∀ r, Tracks (some (k (answer r))) (k' r)) →
        Tracks (some (.eff e k)) (.eff e' k')
  /-- The call has ended. -/
  | done (a : α) {p : Prog E' R' α'} : Tracks none p → Tracks (some (.ret a)) p

/-- What every effect of the part keeps, every effect of the whole keeps. -/
theorem keeps {I : S → Prop} (hI : ∀ e s r s', A.sem e s r s' → I s → I s') (e : E') (s : S') (r : R' e) (s' : S')
    (hs : B.sem e s r s') (h : I (C.view s)) : I (C.view s') := by
  cases hseen : C.seen ⟨e, r⟩ with
  | none =>
    rw [C.sem_unseen e s r s' hs hseen]
    exact h
  | some ev => exact hI _ _ _ _ (C.sem_seen e s r s' hs ev hseen) h

/-- An effect of the part that was performed, with the states of the part. -/
def entry (en : Entry S' E' R') : Option (Event E R × S × S) :=
  (C.seen en.event).map fun ev => (ev, C.view en.pre, C.view en.post)

/-- A configuration of `A` that has the calls under way: `own i` is the thread there for the call of thread
`i`. -/
structure Sim (c : Cfg S' L' E' R' α') (c' : Cfg S L E R α) (own : ℕ → Option ℕ) : Prop where
  /-- The states agree. -/
  shared : c'.shared = C.view c.shared
  /-- A thread without a call under way. -/
  idle : ∀ i t, c.threads[i]? = some t → own i = none → C.Tracks none t.prog
  /-- A thread with a call under way. -/
  busy : ∀ i j, own i = some j → ∃ t l q, c.threads[i]? = some t ∧ c'.threads[j]? = some ⟨l, q⟩ ∧
    C.Tracks (some q) t.prog
  /-- Two threads have two. -/
  inj : ∀ i i' j, own i = some j → own i' = some j → i = i'

variable {C} {c : Cfg S' L' E' R' α'} {c' : Cfg S L E R α} {own : ℕ → Option ℕ} {i j : ℕ}
  {t : Thread L' E' R' α'}

theorem Sim.lt_of_own (hs : C.Sim c c' own) (h : own i = some j) : j < c'.threads.length := by
  obtain ⟨-, l, q, -, hj, -⟩ := hs.busy i j h
  exact (List.getElem?_eq_some_iff.mp hj).1

theorem update_inj {n : ℕ} (hinj : ∀ i i' j, own i = some j → own i' = some j → i = i')
    (hlt : ∀ i j, own i = some j → j < n) (i₁ i₂ j : ℕ) (h₁ : Function.update own i (some n) i₁ = some j)
    (h₂ : Function.update own i (some n) i₂ = some j) : i₁ = i₂ := by
  rw [Function.update_apply] at h₁ h₂
  split_ifs at h₁ h₂ with hi₁ hi₂ hi₂
  · exact hi₁.trans hi₂.symm
  · cases h₁
    exact absurd (hlt i₂ n h₂) (Nat.lt_irrefl n)
  · cases h₂
    exact absurd (hlt i₁ n h₁) (Nat.lt_irrefl n)
  · exact hinj i₁ i₂ j h₁ h₂

theorem Sim.call (hs : C.Sim c c' own) (l : L) (ht : c.threads[i]? = some t) (hi : own i = none)
    (htracks : C.Tracks (some (A.body l)) t.prog) :
    C.Sim c (c'.start A l) (Function.update own i (some c'.threads.length)) := by
  have hnew : (c'.start A l).threads[c'.threads.length]? = some ⟨l, A.body l⟩ := List.getElem?_concat_length
  refine ⟨hs.shared, ?_, ?_, ?_⟩
  · intro i' t' ht' hown
    by_cases hii : i' = i
    · rw [hii, Function.update_self] at hown
      cases hown
    · rw [Function.update_of_ne hii] at hown
      exact hs.idle i' t' ht' hown
  · intro i' j' hown
    by_cases hii : i' = i
    · subst hii
      rw [Function.update_self] at hown
      cases hown
      exact ⟨t, l, A.body l, ht, hnew, htracks⟩
    · rw [Function.update_of_ne hii] at hown
      obtain ⟨t', l', q, ht', hj, htracks'⟩ := hs.busy i' j' hown
      refine ⟨t', l', q, ht', ?_, htracks'⟩
      rw [Cfg.start, List.getElem?_append_left (hs.lt_of_own hown)]
      exact hj
  · exact update_inj hs.inj (fun i' j' => hs.lt_of_own)

theorem Sim.done (hs : C.Sim c c' own) (ht : c.threads[i]? = some t) (htracks : C.Tracks none t.prog) :
    C.Sim c c' (Function.update own i none) := by
  have hown : ∀ {i' j'}, Function.update own i none i' = some j' → i' ≠ i ∧ own i' = some j' := by
    intro i' j' h
    by_cases hii : i' = i
    · rw [hii, Function.update_self] at h
      cases h
    · exact ⟨hii, by rwa [Function.update_of_ne hii] at h⟩
  refine ⟨hs.shared, ?_, fun i' j' h => hs.busy i' j' (hown h).2, fun i₁ i₂ j' h₁ h₂ => ?_⟩
  · intro i' t' ht' h
    by_cases hii : i' = i
    · subst hii
      cases ht.symm.trans ht'
      exact htracks
    · rw [Function.update_of_ne hii] at h
      exact hs.idle i' t' ht' h
  · exact hs.inj i₁ i₂ j' (hown h₁).2 (hown h₂).2

theorem Sim.start (hs : C.Sim c c' own) (l : L') (htracks : C.Tracks none (B.body l)) :
    C.Sim (c.start B l) c' own := by
  refine ⟨hs.shared, ?_, ?_, hs.inj⟩
  · intro i t ht hown
    rcases Cfg.thread_start ht with ht | ⟨-, rfl⟩
    · exact hs.idle i t ht hown
    · exact htracks
  · intro i j hown
    obtain ⟨t, l', q, ht, hj, htracks'⟩ := hs.busy i j hown
    refine ⟨t, l', q, ?_, hj, htracks'⟩
    rw [Cfg.start, List.getElem?_append_left (List.getElem?_eq_some_iff.mp ht).1]
    exact ht

/-- A thread starts with a call. -/
theorem Sim.start_call (hs : C.Sim c c' own) (l : L') (l₀ : L) (htracks : C.Tracks (some (A.body l₀)) (B.body l)) :
    C.Sim (c.start B l) (c'.start A l₀) (Function.update own c.threads.length (some c'.threads.length)) := by
  have hnew : (c.start B l).threads[c.threads.length]? = some ⟨l, B.body l⟩ := List.getElem?_concat_length
  have hfresh : ∀ {i j}, own i = some j → i ≠ c.threads.length := by
    rintro i j hown rfl
    obtain ⟨t, -, -, ht, -⟩ := hs.busy _ j hown
    exact Nat.lt_irrefl _ (List.getElem?_eq_some_iff.mp ht).1
  refine ⟨hs.shared, ?_, ?_, ?_⟩
  · intro i t ht hown
    by_cases hi : i = c.threads.length
    · rw [hi, Function.update_self] at hown
      cases hown
    · rw [Function.update_of_ne hi] at hown
      rcases Cfg.thread_start ht with hold | ⟨hge, -⟩
      · exact hs.idle i t hold hown
      · have hlt := (List.getElem?_eq_some_iff.mp ht).1
        rw [Cfg.start, List.length_append, List.length_singleton] at hlt
        exact absurd (Nat.le_antisymm (Nat.le_of_lt_succ hlt) hge) hi
  · intro i j hown
    by_cases hi : i = c.threads.length
    · subst hi
      rw [Function.update_self] at hown
      cases hown
      exact ⟨_, l₀, A.body l₀, hnew, List.getElem?_concat_length, htracks⟩
    · rw [Function.update_of_ne hi] at hown
      obtain ⟨t, l', q, ht, hj, htracks'⟩ := hs.busy i j hown
      refine ⟨t, l', q, ?_, ?_, htracks'⟩
      · rw [Cfg.start, List.getElem?_append_left (List.getElem?_eq_some_iff.mp ht).1]
        exact ht
      · rw [Cfg.start, List.getElem?_append_left (hs.lt_of_own hown)]
        exact hj
  · exact update_inj hs.inj (fun i' j' => hs.lt_of_own)

/-- A thread performs an effect that is none of the part. -/
theorem Sim.act_own {l : L'} {p : Prog E' R' α'} {s' : S'} (hs : C.Sim c c' own) (hown : own i = none)
    (hview : C.view s' = C.view c.shared) (htracks : C.Tracks none p) : C.Sim (c.act i l p s') c' own := by
  refine ⟨hs.shared.trans hview.symm, ?_, ?_, hs.inj⟩
  · intro i' t ht hown'
    rcases Cfg.thread_act ht with ⟨-, rfl⟩ | ⟨-, ht⟩
    · exact htracks
    · exact hs.idle i' t ht hown'
  · intro i' j hown'
    obtain ⟨t, l', q, ht, hj, htracks'⟩ := hs.busy i' j hown'
    have hne : i ≠ i' := by
      rintro rfl
      cases hown.symm.trans hown'
    refine ⟨t, l', q, ?_, hj, htracks'⟩
    rw [Cfg.act, List.getElem?_set_ne hne]
    exact ht

/-- A thread performs an effect of the part, and so does the call that is under way for it. -/
theorem Sim.act_step {l : L'} {l₀ : L} {p p' : Prog E' R' α'} {q q' : Prog E R α} {s' : S'}
    (hs : C.Sim c c' own) (hi : c.threads[i]? = some ⟨l, p⟩) (hown : own i = some j)
    (hj : c'.threads[j]? = some ⟨l₀, q⟩) (htracks : C.Tracks (some q') p') :
    C.Sim (c.act i l p' s') (c'.act j l₀ q' (C.view s')) own := by
  refine ⟨rfl, ?_, ?_, hs.inj⟩
  · intro i' t ht hown'
    rcases Cfg.thread_act ht with ⟨rfl, -⟩ | ⟨-, ht⟩
    · cases hown.symm.trans hown'
    · exact hs.idle i' t ht hown'
  · intro i' j' hown'
    by_cases hii : i' = i
    · subst hii
      cases hown.symm.trans hown'
      exact ⟨⟨l, p'⟩, l₀, q', Cfg.thread_act_self hi, Cfg.thread_act_self hj, htracks⟩
    · obtain ⟨t, l', q₁, ht, hj', htracks'⟩ := hs.busy i' j' hown'
      have hjj : j ≠ j' := by
        rintro rfl
        exact hii (hs.inj i' i j hown' hown)
      refine ⟨t, l', q₁, ?_, ?_, htracks'⟩
      · rw [Cfg.act, List.getElem?_set_ne fun h => hii h.symm]
        exact ht
      · rw [Cfg.act, List.getElem?_set_ne hjj]
        exact hj'

/-- What the next effect `e` of thread `i` is: none of the part, or the next one of the call under way. -/
inductive Next (C : Component A B) (c' : Cfg S L E R α) (own : ℕ → Option ℕ) (i : ℕ) (e : E')
    (k : R' e → Prog E' R' α') : Prop
  /-- It is none of the part. -/
  | own : own i = none → (∀ r, C.seen ⟨e, r⟩ = none) → (∀ r, C.Tracks none (k r)) → Next C c' own i e k
  /-- It is the next one of the call. -/
  | step (j : ℕ) (l : L) {e₀ : E} {k₀ : R e₀ → Prog E R α} (answer : R' e → R e₀) : own i = some j →
      c'.threads[j]? = some ⟨l, .eff e₀ k₀⟩ → (∀ r, C.seen ⟨e, r⟩ = some ⟨e₀, answer r⟩) →
        (∀ r, C.Tracks (some (k₀ (answer r))) (k r)) → Next C c' own i e k

/-- The call under way for thread `i`. -/
def Under (c' : Cfg S L E R α) (own : ℕ → Option ℕ) (i : ℕ) : Option (Prog E R α) → Prop
  | none => own i = none
  | some q => ∃ j l, own i = some j ∧ c'.threads[j]? = some ⟨l, q⟩

theorem Sim.exists_under (hs : C.Sim c c' own) (ht : c.threads[i]? = some t) :
    ∃ o, C.Tracks o t.prog ∧ Under c' own i o := by
  cases hown : own i with
  | none => exact ⟨none, hs.idle i t ht hown, hown⟩
  | some j =>
    obtain ⟨t', l, q, ht', hj, htracks⟩ := hs.busy i j hown
    cases ht.symm.trans ht'
    exact ⟨some q, htracks, j, l, hown, hj⟩

/-- **Before an effect, calls begin and end** as the program has it. -/
theorem Sim.next {s₀ : S} {h' : List (Entry S E R)} {o : Option (Prog E R α)} {p : Prog E' R' α'}
    (htracks : C.Tracks o p) {e : E'} {k : R' e → Prog E' R' α'} (hp : p = .eff e k) {l : L'}
    (hi : c.threads[i]? = some ⟨l, p⟩) (hr : Run A (fun _ _ => True) s₀ h' c') (hs : C.Sim c c' own)
    (hunder : Under c' own i o) :
    ∃ c'' own', Run A (fun _ _ => True) s₀ h' c'' ∧ C.Sim c c'' own' ∧ C.Next c'' own' i e k := by
  induction htracks generalizing c' own with
  | ret b => cases hp
  | own hseen hk =>
    cases hp
    exact ⟨c', own, hr, hs, .own hunder hseen hk⟩
  | call l₀ hstarts hbody ih =>
    refine ih hp hi (hr.start l₀ (hstarts _) trivial) (hs.call l₀ hi hunder hbody) ?_
    exact ⟨_, l₀, Function.update_self _ _ _, List.getElem?_concat_length⟩
  | step answer hseen hk =>
    cases hp
    obtain ⟨j, l₀, hown, hj⟩ := hunder
    exact ⟨c', own, hr, hs, .step j l₀ answer hown hj hseen hk⟩
  | done a hrest ih => exact ih hp hi hr (hs.done hi hrest) (Function.update_self _ _ _)

/-- A program of `A` that runs as a part of one of `B`, with an effect of `B` for each of its own. -/
theorem tracks_handle {R : E → Type w} {R' : E' → Type w} {A : System S L E R α} {B : System S' L' E' R' α'}
    {C : Component A B} {g : (e : E) → Prog E' R' (R e)}
    (hg : ∀ e, ∃ (e' : E') (answer : R' e' → R e), g e = .eff e' (fun r => .ret (answer r)) ∧
      ∀ r, C.seen ⟨e', r⟩ = some ⟨e, answer r⟩)
    {q : Prog E R α} {f : α → Prog E' R' α'} (hf : ∀ a, C.Tracks none (f a)) :
    C.Tracks (some q) (q.handle g >>= f) := by
  induction q with
  | ret a => exact .done a (hf a)
  | eff e k ih =>
    obtain ⟨e', answer, he, hseen⟩ := hg e
    rw [handle_eff, he]
    exact .step answer hseen fun r => ih (answer r)

end Component

/-- The effect that was performed, and the states around it. -/
def Entry.transition {S : Type x} {E : Type u} {R : E → Type v} (en : Entry S E R) : Event E R × S × S :=
  (en.event, en.pre, en.post)

/-- **What the whole does to a part, the part can do on its own.** -/
theorem Run.component {S S' : Type x} {L L' : Type y} {E E' : Type u} {R : E → Type v} {R' : E' → Type v}
    {α α' : Type w} {A : System S L E R α} {B : System S' L' E' R' α'} (C : Component A B)
    (hbody : ∀ l s, B.starts l s → C.Tracks none (B.body l) ∨
      ∃ l', A.starts l' (C.view s) ∧ C.Tracks (some (A.body l')) (B.body l))
    {ok : Cfg S' L' E' R' α' → Move L' E' → Prop} {s₀ : S'} {h : List (Entry S' E' R')} {c : Cfg S' L' E' R' α'}
    (hr : Run B ok s₀ h c) :
    ∃ h' c', Run A (fun _ _ => True) (C.view s₀) h' c' ∧ c'.shared = C.view c.shared ∧
      h'.map Entry.transition = h.filterMap C.entry := by
  suffices hsim : ∃ h' c' own, Run A (fun _ _ => True) (C.view s₀) h' c' ∧ C.Sim c c' own ∧
      h'.map Entry.transition = h.filterMap C.entry by
    obtain ⟨h', c', own, hr', hs, hh⟩ := hsim
    exact ⟨h', c', hr', hs.shared, hh⟩
  induction hr with
  | init => exact ⟨[], _, fun _ => none, .init, ⟨rfl, by simp, by simp, by simp⟩, rfl⟩
  | @start h c l hr hstarts _ ih =>
    obtain ⟨h', c', own, hr', hs, hh⟩ := ih
    rcases hbody l c.shared hstarts with htracks | ⟨l', hl', htracks⟩
    · exact ⟨h', c', own, hr', hs.start l htracks, hh⟩
    · exact ⟨h', _, _, hr'.start l' (hs.shared ▸ hl') trivial, hs.start_call l l' htracks, hh⟩
  | @act h c i l e k r s' hr hi hsem _ ih =>
    obtain ⟨h', c', own, hr', hs, hh⟩ := ih
    obtain ⟨o, htracks, hunder⟩ := hs.exists_under hi
    obtain ⟨c'', own', hr'', hs', hnext⟩ := hs.next htracks rfl hi hr' hunder
    cases hnext with
    | own hown hseen hk =>
      refine ⟨h', c'', own', hr'', hs'.act_own hown (C.sem_unseen _ _ _ _ hsem (hseen r)) (hk r), ?_⟩
      rw [List.filterMap_append, hh]
      simp [Component.entry, hseen r]
    | @step j l₀ e₀ k₀ answer hown hj hseen hk =>
      have hsem' := C.sem_seen _ _ _ _ hsem _ (hseen r)
      rw [← hs'.shared] at hsem'
      refine ⟨_, _, own', hr''.act hj hsem' trivial, hs'.act_step hi hown hj (hk r), ?_⟩
      rw [List.map_append, List.filterMap_append, hh]
      simp [Component.entry, hseen r, Entry.transition, hs'.shared]

end GatewayBridge.Process
