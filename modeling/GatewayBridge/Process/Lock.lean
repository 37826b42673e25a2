import GatewayBridge.Process.Pool
import Mathlib.Logic.Relation

/-!
# A lock, and what it protects

Many programs run at once, and some of them do part of their work under a lock. A
state between two such parts satisfies an invariant; inside a part the invariant may
be broken, and programs that do not take the lock go on all the while. The rule for
this is the one of rely and guarantee, for programs of `Process.Prog`:

* `Interference` — the effects that the others may perform at any moment (`free`), and
  the states in which an effect is meant to be performed (`guar`); an assertion that
  no free effect breaks is `Stable`;
* `Safe` — a program keeps to `guar` and ends as it should, although the others
  interfere before each of its effects. `Safe.bind` chains such facts;
* `Lock.locked` — a program under the lock, and `Lock.Critical` — it brings the state
  from the invariant back to the invariant;
* `Run.lockInv` — **the rule for a lock**: where every call is a critical program under the
  lock, or performs only effects that need no lock, the invariant holds whenever the
  lock is free;
* `Run.guar` — the rule without a lock: where every call is safe although the others may do
  anything at any moment, every effect is performed where it is meant to be.
-/

namespace GatewayBridge.Process

open Prog

universe u v w x y

/-- The effects that others may perform at any moment, and when an effect is meant to be performed. -/
structure Interference (S : Type x) (E : Type u) where
  /-- The effects that need no lock. -/
  free : E → Prop
  /-- The states in which an effect is meant to be performed. -/
  guar : E → S → Prop

variable {S : Type x} {L : Type y} {E : Type u} {R : E → Type v} {α β : Type w}

/-! ### Interference -/

/-- How free effects of the others may change the state. -/
def Interference.rely (ι : Interference S E) (sem : (e : E) → S → R e → S → Prop) : S → S → Prop :=
  Relation.ReflTransGen fun s s' => ∃ e r, ι.free e ∧ sem e s r s'

/-- No free effect breaks `P`. -/
def Interference.Stable (ι : Interference S E) (sem : (e : E) → S → R e → S → Prop) (P : S → Prop) : Prop :=
  ∀ e s r s', ι.free e → sem e s r s' → P s → P s'

theorem Interference.Stable.rely {ι : Interference S E} {sem : (e : E) → S → R e → S → Prop} {P : S → Prop}
    (hP : ι.Stable sem P) {s s' : S} (h : ι.rely sem s s') (hs : P s) : P s' := by
  induction h with
  | refl => exact hs
  | tail _ hstep ih =>
    obtain ⟨e, r, hfree, hsem⟩ := hstep
    exact hP e _ r _ hfree hsem ih

/-! ### Programs under interference -/

namespace Prog

/-- Run from `s`, with interference before each effect and after the last, `p` performs every
effect where it is meant to be performed, and ends with a value and a state that satisfy `Q`. -/
def Safe (sem : (e : E) → S → R e → S → Prop) (ι : Interference S E) (Q : α → S → Prop) :
    Prog E R α → S → Prop
  | ret a, s => ∀ s₁, ι.rely sem s s₁ → Q a s₁
  | eff e k, s => ∀ s₁, ι.rely sem s s₁ → ι.guar e s₁ ∧ ∀ r s', sem e s₁ r s' → (k r).Safe sem ι Q s'

variable {sem : (e : E) → S → R e → S → Prop} {ι : Interference S E}

/-- Interference does not make a program unsafe. -/
theorem Safe.rely {Q : α → S → Prop} {p : Prog E R α} {s s₁ : S} (h : p.Safe sem ι Q s)
    (hs : ι.rely sem s s₁) : p.Safe sem ι Q s₁ := by
  cases p with
  | ret a => exact fun s₂ h₂ => h s₂ (Relation.ReflTransGen.trans hs h₂)
  | eff e k => exact fun s₂ h₂ => h s₂ (Relation.ReflTransGen.trans hs h₂)

theorem safe_ret {Q : α → S → Prop} {a : α} {s : S} (hQ : ι.Stable sem (Q a)) (h : Q a s) :
    (ret a : Prog E R α).Safe sem ι Q s := fun _ hs => hQ.rely hs h

/-- An effect is performed in a state that satisfies whatever is stable and held before. -/
theorem safe_eff {P : S → Prop} {Q : α → S → Prop} {e : E} {k : R e → Prog E R α} {s : S}
    (hP : ι.Stable sem P) (h : P s)
    (hk : ∀ s₁, P s₁ → ι.guar e s₁ ∧ ∀ r s', sem e s₁ r s' → (k r).Safe sem ι Q s') :
    (eff e k).Safe sem ι Q s := fun s₁ hs => hk s₁ (hP.rely hs h)

/-- **Sequencing.** What the first program ends with is where the second one starts. -/
theorem Safe.bind {Q : α → S → Prop} {Q' : β → S → Prop} {p : Prog E R α} {f : α → Prog E R β} {s : S}
    (h : p.Safe sem ι Q s) (hf : ∀ a s', Q a s' → (f a).Safe sem ι Q' s') :
    (p >>= f).Safe sem ι Q' s := by
  induction p generalizing s with
  | ret a => exact hf a s (h s .refl)
  | eff e k ih =>
    intro s₁ h₁
    obtain ⟨hg, hk⟩ := h s₁ h₁
    exact ⟨hg, fun r s' hs => ih r (hk r s' hs)⟩

end Prog

/-! ### The lock -/

/-- A lock: the effects that take and release it, and the states in which it is taken. -/
structure Lock (S : Type x) (E : Type u) where
  /-- Take the lock; it waits until the lock is free. -/
  lock : E
  /-- Release the lock. -/
  unlock : E
  /-- The lock is taken. -/
  held : S → Prop

namespace Lock

variable (ℓ : Lock S E)

/-- The end of a program that holds the lock: it releases it. -/
def release (a : α) : Prog E R α := eff ℓ.unlock fun _ => ret a

/-- `p`, with the lock held from beginning to end. -/
def locked (p : Prog E R α) : Prog E R α := eff ℓ.lock fun _ => p >>= ℓ.release

variable (sem : (e : E) → S → R e → S → Prop) (ι : Interference S E) (I : S → Prop)

/-- What the rule assumes: `lock` and `unlock` are a lock and do nothing else to the invariant, a free
effect touches neither, and an effect where it is meant to be performed does not release the lock. -/
structure Lawful : Prop where
  /-- Taking the lock waits until it is free. -/
  sem_lock : ∀ s r s', sem ℓ.lock s r s' → ¬ ℓ.held s ∧ ℓ.held s' ∧ (I s → I s')
  /-- After a release the lock is free. -/
  sem_unlock : ∀ s r s', sem ℓ.unlock s r s' → ¬ ℓ.held s' ∧ (I s → I s')
  /-- A free effect leaves the lock alone. -/
  free_held : ∀ e s r s', ι.free e → sem e s r s' → (ℓ.held s' ↔ ℓ.held s)
  /-- A free effect keeps the invariant. -/
  stable_inv : ι.Stable sem I
  /-- An effect where it is meant to be performed does not release the lock. -/
  guar_held : ∀ e s r s', ι.guar e s → sem e s r s' → ℓ.held s → ℓ.held s'

/-- Started where the invariant holds, `p` ends where it holds. -/
def Critical (p : Prog E R α) : Prop := ∀ s, I s → p.Safe sem ι (fun _ => I) s

/-- A program that does not hold the lock: it is about to take it, or never will. -/
def Idle (p : Prog E R α) : Prop := (∃ q, p = ℓ.locked q ∧ Critical sem ι I q) ∨ p.Uses ι.free

/-- A program that holds the lock, and will release it where the invariant holds. -/
def Busy (p : Prog E R α) (s : S) : Prop :=
  ∃ q, p = q >>= ℓ.release ∧ q.Safe sem ι (fun _ => I) s

/-- The lock is free, the invariant holds and every thread is idle; or one thread has the lock. -/
inductive Inv (c : Cfg S L E R α) : Prop
  /-- Nobody holds the lock. -/
  | free : ¬ ℓ.held c.shared → I c.shared →
      (∀ (j : ℕ) (t : Thread L E R α), c.threads[j]? = some t → ℓ.Idle sem ι I t.prog) → Inv c
  /-- Thread `i` holds the lock. -/
  | held (i : ℕ) (t : Thread L E R α) : ℓ.held c.shared → c.threads[i]? = some t →
      ℓ.Busy sem ι I t.prog c.shared →
      (∀ (j : ℕ) (t' : Thread L E R α), c.threads[j]? = some t' → j ≠ i →
        ℓ.Idle sem ι I t'.prog) → Inv c

/-- An effect that a thread may perform in `s`: it takes or releases the lock, needs no lock, or is meant
to be performed there. -/
def Permits (e : E) (s : S) : Prop := e = ℓ.lock ∨ e = ℓ.unlock ∨ ι.free e ∨ ι.guar e s

/-- What is known of an effect that was performed: it was permitted, and the invariant held if the lock
was free. -/
def Accounted (en : Entry S E R) : Prop := (¬ ℓ.held en.pre → I en.pre) ∧ ℓ.Permits ι en.event.1 en.pre

variable {ℓ sem ι I} {c : Cfg S L E R α} {i : ℕ} {l : L} {e : E} {k : R e → Prog E R α} {r : R e}
  {s' : S}

theorem Inv.start {sys : System S L E R α} (hc : ℓ.Inv sem ι I c)
    (hl : ℓ.Idle sem ι I (sys.body l)) : ℓ.Inv sem ι I (c.start sys l) := by
  cases hc with
  | free hfree hI hidle =>
    refine .free hfree hI fun j t ht => ?_
    rcases Cfg.thread_start ht with ht | ⟨-, rfl⟩
    · exact hidle j t ht
    · exact hl
  | held i t hheld ht hbusy hidle =>
    refine .held i t hheld ?_ hbusy fun j t' ht' hj => ?_
    · rw [Cfg.start, List.getElem?_append_left (List.getElem?_eq_some_iff.mp ht).1]
      exact ht
    · rcases Cfg.thread_start ht' with ht' | ⟨-, rfl⟩
      · exact hidle j t' ht' hj
      · exact hl

/-- Where the lock is free, the invariant holds. -/
theorem Inv.inv_of_free (hc : ℓ.Inv sem ι I c) (hfree : ¬ ℓ.held c.shared) : I c.shared := by
  cases hc with
  | free _ hI _ => exact hI
  | held _ _ hheld _ _ _ => exact absurd hheld hfree

/-- The lock is free and a thread moves: it takes the lock, or performs a free effect. -/
theorem Inv.act_unheld (laws : ℓ.Lawful sem ι I) (hfree : ¬ ℓ.held c.shared) (hI : I c.shared)
    (hidle : ∀ (j : ℕ) (t : Thread L E R α), c.threads[j]? = some t → ℓ.Idle sem ι I t.prog)
    (ht : c.threads[i]? = some ⟨l, eff e k⟩) (hs : sem e c.shared r s') :
    ℓ.Inv sem ι I (c.act i l (k r) s') ∧ ℓ.Permits ι e c.shared := by
  rcases hidle i _ ht with ⟨q, hq, hcrit⟩ | huses
  · unfold locked at hq
    cases hq
    obtain ⟨-, hheld, hI'⟩ := laws.sem_lock _ _ _ hs
    refine ⟨.held i _ hheld (Cfg.thread_act_self ht) ⟨q, rfl, hcrit _ (hI' hI)⟩ ?_, .inl rfl⟩
    intro j t htj hj
    rcases Cfg.thread_act htj with ⟨rfl, -⟩ | ⟨-, htj⟩
    · exact absurd rfl hj
    · exact hidle j t htj
  · refine ⟨.free ?_ (laws.stable_inv _ _ _ _ huses.1 hs hI) ?_, .inr (.inr (.inl huses.1))⟩
    · intro hheld
      exact hfree ((laws.free_held _ _ _ _ huses.1 hs).mp hheld)
    · intro j t htj
      rcases Cfg.thread_act htj with ⟨-, rfl⟩ | ⟨-, htj⟩
      · exact .inr (huses.2 r)
      · exact hidle j t htj

/-- The owner of the lock moves: it releases the lock, or goes on under it. -/
theorem Inv.act_owner (laws : ℓ.Lawful sem ι I) (hheld : ℓ.held c.shared)
    (hbusy : ℓ.Busy sem ι I (eff e k) c.shared)
    (hidle : ∀ (j : ℕ) (t : Thread L E R α), c.threads[j]? = some t → j ≠ i → ℓ.Idle sem ι I t.prog)
    (ht : c.threads[i]? = some ⟨l, eff e k⟩) (hs : sem e c.shared r s') :
    ℓ.Inv sem ι I (c.act i l (k r) s') ∧ ℓ.Permits ι e c.shared := by
  obtain ⟨q, hq, hsafe⟩ := hbusy
  cases q with
  | ret a =>
    simp only [ret_bind, release] at hq
    cases hq
    obtain ⟨hfree, hI'⟩ := laws.sem_unlock _ _ _ hs
    refine ⟨.free hfree (hI' (hsafe _ .refl)) ?_, .inr (.inl rfl)⟩
    intro j t htj
    rcases Cfg.thread_act htj with ⟨-, rfl⟩ | ⟨hj, htj⟩
    · exact .inr trivial
    · exact hidle j t htj hj
  | eff e' k' =>
    rw [eff_bind] at hq
    cases hq
    obtain ⟨hguar, hk⟩ := hsafe _ .refl
    have hheld' := laws.guar_held _ _ _ _ hguar hs hheld
    refine ⟨.held i _ hheld' (Cfg.thread_act_self ht) ⟨_, rfl, hk _ _ hs⟩ ?_, .inr (.inr (.inr hguar))⟩
    intro j t htj hj
    rcases Cfg.thread_act htj with ⟨hji, -⟩ | ⟨-, htj⟩
    · exact absurd hji hj
    · exact hidle j t htj hj

/-- Another thread than the owner `i₀` moves: it interferes with the owner. -/
theorem Inv.act_other {i₀ : ℕ} {t₀ : Thread L E R α} (laws : ℓ.Lawful sem ι I) (hheld : ℓ.held c.shared)
    (ht₀ : c.threads[i₀]? = some t₀) (hbusy : ℓ.Busy sem ι I t₀.prog c.shared)
    (hidle : ∀ (j : ℕ) (t : Thread L E R α), c.threads[j]? = some t → j ≠ i₀ → ℓ.Idle sem ι I t.prog)
    (hi : i ≠ i₀) (ht : c.threads[i]? = some ⟨l, eff e k⟩) (hs : sem e c.shared r s') :
    ℓ.Inv sem ι I (c.act i l (k r) s') ∧ ℓ.Permits ι e c.shared := by
  rcases hidle i _ ht hi with ⟨q, hq, hcrit⟩ | huses
  · unfold locked at hq
    cases hq
    exact absurd hheld (laws.sem_lock _ _ _ hs).1
  · obtain ⟨q, hq, hsafe⟩ := hbusy
    have hheld' := (laws.free_held _ _ _ _ huses.1 hs).mpr hheld
    have hsafe' := hsafe.rely (.single ⟨e, r, huses.1, hs⟩)
    refine ⟨.held i₀ t₀ hheld' ?_ ⟨q, hq, hsafe'⟩ ?_, .inr (.inr (.inl huses.1))⟩
    · rw [Cfg.act, List.getElem?_set_ne hi]
      exact ht₀
    · intro j t htj hj
      rcases Cfg.thread_act htj with ⟨-, rfl⟩ | ⟨-, htj⟩
      · exact .inr (huses.2 r)
      · exact hidle j t htj hj

/-- **One move keeps the invariant of the lock**, and its effect was permitted. -/
theorem Inv.act (laws : ℓ.Lawful sem ι I) (hc : ℓ.Inv sem ι I c)
    (ht : c.threads[i]? = some ⟨l, eff e k⟩) (hs : sem e c.shared r s') :
    ℓ.Inv sem ι I (c.act i l (k r) s') ∧ ℓ.Permits ι e c.shared := by
  cases hc with
  | free hfree hI hidle => exact act_unheld laws hfree hI hidle ht hs
  | held i₀ t₀ hheld ht₀ hbusy hidle =>
    by_cases hi : i = i₀
    · subst hi
      rw [ht, Option.some.injEq] at ht₀
      subst ht₀
      exact act_owner laws hheld hbusy hidle ht hs
    · exact act_other laws hheld ht₀ hbusy hidle hi ht hs

end Lock

/-- **The rule for a lock.** Where every call is a critical program under the lock or performs only
effects that need no lock, the invariant holds in every state in which the lock is free, and every
effect is accounted for. -/
theorem Run.lockInv {sys : System S L E R α} {ok : Cfg S L E R α → Move L E → Prop} {s₀ : S}
    {h : List (Entry S E R)} {c : Cfg S L E R α} {ℓ : Lock S E} {ι : Interference S E}
    {I : S → Prop} (laws : ℓ.Lawful sys.sem ι I) (hbody : ∀ l, ℓ.Idle sys.sem ι I (sys.body l))
    (hfree : ¬ ℓ.held s₀) (hI : I s₀) (hr : Run sys ok s₀ h c) :
    ℓ.Inv sys.sem ι I c ∧ ∀ en ∈ h, ℓ.Accounted ι I en := by
  induction hr with
  | init => exact ⟨.free hfree hI nofun, nofun⟩
  | start l _ _ _ ih => exact ⟨ih.1.start (hbody l), ih.2⟩
  | @act h c i l e k r s' _ ht hs _ ih =>
    obtain ⟨hinv, hpermits⟩ := ih.1.act laws ht hs
    refine ⟨hinv, fun en hen => ?_⟩
    rcases List.mem_append.mp hen with hen | hen
    · exact ih.2 en hen
    · rw [List.mem_singleton] at hen
      subst hen
      exact ⟨ih.1.inv_of_free, hpermits⟩

/-! ### Without a lock -/

/-- Every thread is safe from here on. -/
def AllSafe (sem : (e : E) → S → R e → S → Prop) (ι : L → Interference S E) (c : Cfg S L E R α) : Prop :=
  ∀ (j : ℕ) (t : Thread L E R α), c.threads[j]? = some t →
    t.prog.Safe sem (ι t.call) (fun _ _ => True) c.shared

section AllSafe

variable {sys : System S L E R α} {ι : L → Interference S E} {c : Cfg S L E R α} {i : ℕ} {l : L}

theorem AllSafe.start (hc : AllSafe sys.sem ι c)
    (hl : (sys.body l).Safe sys.sem (ι l) (fun _ _ => True) c.shared) :
    AllSafe sys.sem ι (c.start sys l) := by
  intro j t ht
  rcases Cfg.thread_start ht with ht | ⟨-, rfl⟩
  · exact hc j t ht
  · exact hl

/-- One move: its effect was performed where it is meant to be, and it was interference for the others. -/
theorem AllSafe.act {e : E} {k : R e → Prog E R α} {r : R e} {s' : S} (hfree : ∀ l e, (ι l).free e)
    (hc : AllSafe sys.sem ι c) (ht : c.threads[i]? = some ⟨l, eff e k⟩) (hs : sys.sem e c.shared r s') :
    (ι l).guar e c.shared ∧ AllSafe sys.sem ι (c.act i l (k r) s') := by
  obtain ⟨hguar, hk⟩ := hc i _ ht _ .refl
  refine ⟨hguar, fun j t htj => ?_⟩
  rcases Cfg.thread_act htj with ⟨-, rfl⟩ | ⟨-, htj⟩
  · exact hk r s' hs
  · exact (hc j t htj).rely (.single ⟨e, r, hfree _ e, hs⟩)

/-- **The rule without a lock.** Where every call is safe although the others may perform any effect at
any moment, every effect was performed where it is meant to be. -/
theorem Run.guar {ok : Cfg S L E R α → Move L E → Prop} {s₀ : S} {h : List (Entry S E R)}
    (hfree : ∀ l e, (ι l).free e)
    (hbody : ∀ l s, sys.starts l s → (sys.body l).Safe sys.sem (ι l) (fun _ _ => True) s)
    (hr : Run sys ok s₀ h c) :
    AllSafe sys.sem ι c ∧ ∀ en ∈ h, ∃ l, c.call en.tid = some l ∧ (ι l).guar en.event.1 en.pre := by
  induction hr with
  | init => exact ⟨nofun, nofun⟩
  | start l _ hstarts _ ih =>
    refine ⟨ih.1.start (hbody l _ hstarts), fun en hen => ?_⟩
    obtain ⟨l', hl', hguar⟩ := ih.2 en hen
    exact ⟨l', Cfg.call_start hl', hguar⟩
  | @act h c i l e k r s' _ ht hs _ ih =>
    obtain ⟨hguar, hsafe⟩ := ih.1.act hfree ht hs
    refine ⟨hsafe, fun en hen => ?_⟩
    rcases List.mem_append.mp hen with hen | hen
    · obtain ⟨l', hl', hguar'⟩ := ih.2 en hen
      exact ⟨l', (Cfg.call_act ht en.tid).trans hl', hguar'⟩
    · rw [List.mem_singleton] at hen
      subst hen
      refine ⟨l, (Cfg.call_act ht i).trans ?_, hguar⟩
      rw [Cfg.call, ht]
      rfl

end AllSafe

end GatewayBridge.Process
