import GatewayBridge.Process.Prog
import Mathlib.Data.List.Induction

/-!
# Programs interleaved

A system runs any number of programs at once over one shared state. Each call
that is started becomes a thread, which is the program of the call; at every
step one thread performs its next effect, in whatever order. The answers and the
changes of the shared state are those of a relation `sem`, so an effect may have
many answers, one, or none in a given state (it waits).

The history of a run lists every effect performed, by which thread, with its
answer, and the shared state before and after. Two facts carry a proof about a
run to facts about the programs and about the shared state:

* `Run.exec` — what thread `i` has performed is an execution of the program it
  started with, whatever the other threads did in between;
* `Run.linked` — the states of the history follow one another by `sem`, from the
  state at the start to the present one.

A run may be restricted by a condition `ok` on its moves (`Run`); a system
without restriction takes `fun _ _ => True`.
-/

namespace GatewayBridge.Process

open Prog

universe u v w x y

/-- A system: the program of each call, what the effects do, and which calls can start. -/
structure System (S : Type x) (L : Type y) (E : Type u) (R : E → Type v) (α : Type w) where
  /-- The program of a call. -/
  body : L → Prog E R α
  /-- How an effect is answered, and what it does to the shared state. -/
  sem : (e : E) → S → R e → S → Prop
  /-- The calls that can start in a state. -/
  starts : L → S → Prop

/-- A call that has started, with what is left of its program. -/
structure Thread (L : Type y) (E : Type u) (R : E → Type v) (α : Type w) where
  /-- The call. -/
  call : L
  /-- What is left to do. -/
  prog : Prog E R α

/-- A configuration: the shared state, and the threads in the order they started. -/
structure Cfg (S : Type x) (L : Type y) (E : Type u) (R : E → Type v) (α : Type w) where
  /-- The shared state. -/
  shared : S
  /-- The threads. -/
  threads : List (Thread L E R α)

/-- An effect that was performed. -/
structure Entry (S : Type x) (E : Type u) (R : E → Type v) where
  /-- The thread that performed it. -/
  tid : ℕ
  /-- The effect, with its answer. -/
  event : Event E R
  /-- The shared state before. -/
  pre : S
  /-- The shared state after. -/
  post : S

/-- A move of the system. -/
inductive Move (L : Type y) (E : Type u) where
  /-- The call `l` starts. -/
  | start (l : L)
  /-- Thread `i` performs `e`. -/
  | act (i : ℕ) (e : E)

variable {S : Type x} {L : Type y} {E : Type u} {R : E → Type v} {α : Type w}

/-- The call of thread `i`. -/
def Cfg.call (c : Cfg S L E R α) (i : ℕ) : Option L := c.threads[i]?.map Thread.call

theorem Cfg.lt_of_call {c : Cfg S L E R α} {i : ℕ} {l : L} (h : c.call i = some l) :
    i < c.threads.length := by
  obtain ⟨t, ht, -⟩ := Option.map_eq_some_iff.mp h
  exact (List.getElem?_eq_some_iff.mp ht).1

/-- The configuration after `l` starts. -/
def Cfg.start (c : Cfg S L E R α) (sys : System S L E R α) (l : L) : Cfg S L E R α :=
  { c with threads := c.threads ++ [⟨l, sys.body l⟩] }

/-- The configuration after thread `i` of call `l` moves on to `p`, leaving the state `s`. -/
def Cfg.act (c : Cfg S L E R α) (i : ℕ) (l : L) (p : Prog E R α) (s : S) : Cfg S L E R α :=
  ⟨s, c.threads.set i ⟨l, p⟩⟩

theorem Cfg.thread_start {c : Cfg S L E R α} {sys : System S L E R α} {l : L} {i : ℕ} {t : Thread L E R α}
    (ht : (c.start sys l).threads[i]? = some t) :
    c.threads[i]? = some t ∨ (c.threads.length ≤ i ∧ t = ⟨l, sys.body l⟩) := by
  rw [Cfg.start, List.getElem?_append] at ht
  split_ifs at ht with hlt
  · exact .inl ht
  · rw [List.getElem?_singleton] at ht
    split_ifs at ht
    cases ht
    exact .inr ⟨Nat.le_of_not_lt hlt, rfl⟩

theorem Cfg.thread_act {c : Cfg S L E R α} {i j : ℕ} {l : L} {p : Prog E R α} {s : S} {t : Thread L E R α}
    (ht : (c.act i l p s).threads[j]? = some t) :
    (j = i ∧ t = ⟨l, p⟩) ∨ (j ≠ i ∧ c.threads[j]? = some t) := by
  rw [Cfg.act, List.getElem?_set] at ht
  split_ifs at ht with hij
  · cases ht
    exact .inl ⟨hij.symm, rfl⟩
  · exact .inr ⟨fun h => hij h.symm, ht⟩

theorem Cfg.thread_act_self {c : Cfg S L E R α} {i : ℕ} {l : L} {p : Prog E R α} {s : S} {t : Thread L E R α}
    (ht : c.threads[i]? = some t) : (c.act i l p s).threads[i]? = some ⟨l, p⟩ := by
  rw [Cfg.act, List.getElem?_set_self (List.getElem?_eq_some_iff.mp ht).1]

/-- A thread that has started keeps its call when another starts. -/
theorem Cfg.call_start {c : Cfg S L E R α} {sys : System S L E R α} {l l' : L} {i : ℕ}
    (h : c.call i = some l') : (c.start sys l).call i = some l' := by
  rw [Cfg.call, Cfg.start, List.getElem?_append_left (Cfg.lt_of_call h)]
  exact h

/-- A move keeps the calls of the threads. -/
theorem Cfg.call_act {c : Cfg S L E R α} {i : ℕ} {l : L} {p q : Prog E R α} {s : S}
    (h : c.threads[i]? = some ⟨l, q⟩) (j : ℕ) : (c.act i l p s).call j = c.call j := by
  rw [Cfg.call, Cfg.call]
  by_cases hij : i = j
  · subst hij
    rw [Cfg.thread_act_self h, h]
    rfl
  · rw [Cfg.act, List.getElem?_set_ne hij]

/-- `Run sys ok s₀ h c`: from the state `s₀` and no threads, by moves that satisfy `ok`, the
system has performed `h` and is now in `c`. -/
inductive Run (sys : System S L E R α) (ok : Cfg S L E R α → Move L E → Prop) (s₀ : S) :
    List (Entry S E R) → Cfg S L E R α → Prop
  /-- No thread has started. -/
  | init : Run sys ok s₀ [] ⟨s₀, []⟩
  /-- The call `l` starts. -/
  | start {h : List (Entry S E R)} {c : Cfg S L E R α} (l : L) :
      Run sys ok s₀ h c → sys.starts l c.shared → ok c (.start l) →
        Run sys ok s₀ h (c.start sys l)
  /-- Thread `i` performs its next effect. -/
  | act {h : List (Entry S E R)} {c : Cfg S L E R α} {i : ℕ} {l : L} {e : E}
      {k : R e → Prog E R α} {r : R e} {s' : S} :
      Run sys ok s₀ h c → c.threads[i]? = some ⟨l, .eff e k⟩ → sys.sem e c.shared r s' →
        ok c (.act i e) → Run sys ok s₀ (h ++ [⟨i, ⟨e, r⟩, c.shared, s'⟩]) (c.act i l (k r) s')

/-- The effects that thread `i` performed. -/
def performed (i : ℕ) (h : List (Entry S E R)) : List (Event E R) :=
  h.filterMap fun en => if en.tid = i then some en.event else none

/-- The states of a history follow one another by `sem`, from `s₀` to `s`. -/
inductive Linked (sem : (e : E) → S → R e → S → Prop) (s₀ : S) : List (Entry S E R) → S → Prop
  /-- Nothing performed. -/
  | nil : Linked sem s₀ [] s₀
  /-- One more effect. -/
  | snoc {h : List (Entry S E R)} {s : S} {en : Entry S E R} :
      Linked sem s₀ h s → en.pre = s → sem en.event.1 s en.event.2 en.post →
        Linked sem s₀ (h ++ [en]) en.post

variable {sys : System S L E R α} {ok : Cfg S L E R α → Move L E → Prop} {s₀ : S}
  {h : List (Entry S E R)} {c : Cfg S L E R α}

/-- A call starts, with its program written out. -/
theorem Run.start_of_body {l : L} {p : Prog E R α} (hr : Run sys ok s₀ h c) (hbody : sys.body l = p)
    (hstarts : sys.starts l c.shared) (hok : ok c (.start l)) :
    Run sys ok s₀ h ⟨c.shared, c.threads ++ [⟨l, p⟩]⟩ := by
  subst hbody
  exact hr.start l hstarts hok

/-! ### The effects of one thread -/

theorem performed_append (i : ℕ) (h₁ h₂ : List (Entry S E R)) :
    performed i (h₁ ++ h₂) = performed i h₁ ++ performed i h₂ :=
  List.filterMap_append

theorem performed_singleton_self (i : ℕ) (ev : Event E R) (s s' : S) :
    performed i [⟨i, ev, s, s'⟩] = [ev] := by
  simp [performed]

theorem performed_singleton_of_ne {i : ℕ} {en : Entry S E R} (hi : en.tid ≠ i) :
    performed i [en] = [] := by
  simp [performed, hi]

/-- An effect is performed by a thread that has started. -/
theorem Run.tid_lt (hr : Run sys ok s₀ h c) : ∀ en ∈ h, en.tid < c.threads.length := by
  induction hr with
  | init => simp
  | start l _ _ _ ih =>
    intro en hen
    have := ih en hen
    simp only [Cfg.start, List.length_append, List.length_singleton]
    omega
  | act _ hi _ _ ih =>
    intro en hen
    simp only [Cfg.act, List.length_set]
    rcases List.mem_append.mp hen with hen | hen
    · exact ih en hen
    · rw [List.mem_singleton] at hen
      subst hen
      exact (List.getElem?_eq_some_iff.mp hi).1

theorem mem_performed_iff {i : ℕ} {ev : Event E R} :
    ev ∈ performed i h ↔ ∃ en ∈ h, en.tid = i ∧ en.event = ev := by
  rw [performed, List.mem_filterMap]
  constructor
  · rintro ⟨en, hen, heq⟩
    split_ifs at heq with htid
    exact ⟨en, hen, htid, Option.some.inj heq⟩
  · rintro ⟨en, hen, htid, rfl⟩
    exact ⟨en, hen, if_pos htid⟩

theorem performed_eq_nil {i : ℕ} (hi : ∀ en ∈ h, en.tid ≠ i) : performed i h = [] := by
  rw [performed, List.filterMap_eq_nil_iff]
  intro en hen
  rw [if_neg (hi en hen)]

/-- **What a thread has performed is an execution of the program it started with**, whatever
the other threads did in between. -/
theorem Run.exec (hr : Run sys ok s₀ h c) {i : ℕ} {t : Thread L E R α}
    (ht : c.threads[i]? = some t) : Exec (sys.body t.call) (performed i h) t.prog := by
  induction hr generalizing t with
  | init => simp at ht
  | @start h c l hr _ _ ih =>
    rcases Cfg.thread_start ht with ht | ⟨hge, rfl⟩
    · exact ih ht
    · rw [performed_eq_nil fun en hen => Nat.ne_of_lt (Nat.lt_of_lt_of_le (hr.tid_lt en hen) hge)]
      exact .nil _
  | @act h c j l e k r s' _ hj _ _ ih =>
    rw [performed_append]
    rcases Cfg.thread_act ht with ⟨rfl, rfl⟩ | ⟨hij, ht⟩
    · rw [performed_singleton_self]
      exact (ih hj).snoc r
    · rw [performed_singleton_of_ne fun he => hij he.symm, List.append_nil]
      exact ih ht

/-- The effects in a history are among those that the programs can perform. -/
theorem Run.uses {P : L → E → Prop} (hP : ∀ l, (sys.body l).Uses (P l)) (hr : Run sys ok s₀ h c) :
    ∀ en ∈ h, ∃ l, c.call en.tid = some l ∧ P l en.event.1 := by
  intro en hen
  have ht := List.getElem?_eq_getElem (hr.tid_lt en hen)
  refine ⟨_, by rw [Cfg.call, ht]; rfl, ((hP _).exec (hr.exec ht)).1 en.event ?_⟩
  exact mem_performed_iff.mpr ⟨en, hen, rfl, rfl⟩

/-- The calls that have started are those that `ok` lets start. -/
theorem Run.started {Q : L → Prop} (hok : ∀ c l, ok c (.start l) → Q l) (hr : Run sys ok s₀ h c) {i : ℕ}
    {l : L} (hl : c.call i = some l) : Q l := by
  induction hr with
  | init => simp [Cfg.call] at hl
  | @start h c l' hr _ hstart ih =>
    obtain ⟨t, ht, rfl⟩ := Option.map_eq_some_iff.mp hl
    rcases Cfg.thread_start ht with ht | ⟨-, rfl⟩
    · exact ih (Option.map_eq_some_iff.mpr ⟨t, ht, rfl⟩)
    · exact hok c l' hstart
  | @act h c j l' e k r s' _ hj _ _ ih =>
    rw [Cfg.call_act hj] at hl
    exact ih hl

/-- What every call finds when it starts, and no effect undoes, holds of it ever after. -/
theorem Run.started_keeps {Q : L → S → Prop}
    (hstart : ∀ h c l, Run sys ok s₀ h c → sys.starts l c.shared → Q l c.shared)
    (hkeep : ∀ l e s r s', sys.sem e s r s' → Q l s → Q l s') (hr : Run sys ok s₀ h c) {i : ℕ} {l : L}
    (hl : c.call i = some l) : Q l c.shared := by
  induction hr with
  | init => simp [Cfg.call] at hl
  | @start h c l' hr hstarts _ ih =>
    obtain ⟨t, ht, rfl⟩ := Option.map_eq_some_iff.mp hl
    rcases Cfg.thread_start ht with ht | ⟨-, rfl⟩
    · exact ih (Option.map_eq_some_iff.mpr ⟨t, ht, rfl⟩)
    · exact hstart h c l' hr hstarts
  | @act h c j l' e k r s' _ hj hs _ ih =>
    rw [Cfg.call_act hj] at hl
    exact hkeep l e _ _ _ hs (ih hl)

/-! ### The shared state -/

theorem Run.linked (hr : Run sys ok s₀ h c) : Linked sys.sem s₀ h c.shared := by
  induction hr with
  | init => exact .nil
  | start _ _ _ _ ih => exact ih
  | act _ _ hs _ ih => exact .snoc ih rfl hs

variable {sem : (e : E) → S → R e → S → Prop} {s : S}

/-- What every effect keeps, the shared state satisfies throughout. -/
theorem Linked.invariant {I : S → Prop} (hI : ∀ e s r s', sem e s r s' → I s → I s') (h₀ : I s₀)
    (hl : Linked sem s₀ h s) : I s := by
  induction hl with
  | nil => exact h₀
  | snoc _ hpre hs ih => exact hI _ _ _ _ hs ih

theorem linked_snoc_iff {en : Entry S E R} :
    Linked sem s₀ (h ++ [en]) s ↔
      Linked sem s₀ h en.pre ∧ sem en.event.1 en.pre en.event.2 en.post ∧ s = en.post := by
  constructor
  · intro hl
    generalize hh : h ++ [en] = h' at hl
    cases hl with
    | nil => simp at hh
    | snoc hl hpre hs =>
      obtain ⟨rfl, hen⟩ := List.append_inj' hh rfl
      rw [List.singleton_inj] at hen
      subst hen hpre
      exact ⟨hl, hs, rfl⟩
  · rintro ⟨hl, hs, rfl⟩
    exact .snoc hl rfl hs

/-- The part of a history before an effect leads to the state that the effect found. -/
theorem Linked.before {h₁ h₂ : List (Entry S E R)} {en : Entry S E R}
    (hl : Linked sem s₀ (h₁ ++ en :: h₂) s) :
    Linked sem s₀ h₁ en.pre ∧ sem en.event.1 en.pre en.event.2 en.post := by
  induction h₂ using List.reverseRecOn generalizing s with
  | nil =>
    obtain ⟨hl, hs, -⟩ := linked_snoc_iff.mp hl
    exact ⟨hl, hs⟩
  | append_singleton h₂ en' ih =>
    rw [← List.cons_append, ← List.append_assoc] at hl
    exact ih (linked_snoc_iff.mp hl).1

end GatewayBridge.Process
