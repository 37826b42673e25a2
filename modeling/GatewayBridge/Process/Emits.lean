import GatewayBridge.Process.Pool
import GatewayBridge.Process.Account

/-!
# What a program emits

Of the effects of a program some are of interest, each with its answer: `out` picks them. A program
that has emitted `l` goes on in such a way that an assertion `I` holds of all it has emitted, at
every moment, and `Q` at its end: `Emits out I Q p l`. The rules are those of a program logic, over the
structure of a program.

A thread of a system emits what its program can (`Run.emits`), whatever the others do. The elements that
all the threads emit, each with its thread, are `emitted`; those of one thread are its own
(`ofKey_emitted`). What is put into a channel is what was taken from it and what is still
in it (`Linked.channel`).
-/

namespace GatewayBridge.Process

universe u v w x y z

namespace Prog

variable {E : Type u} {R : E → Type v} {α β : Type w} {γ : Type z}

/-- After `l`, whatever `p` emits satisfies `I` with it, and `Q` at the end. -/
def Emits (out : Event E R → Option γ) (I : List γ → Prop) (Q : α → List γ → Prop) :
    Prog E R α → List γ → Prop
  | ret a, l => I l ∧ Q a l
  | eff e k, l => I l ∧ ∀ r, (k r).Emits out I Q (l ++ (out ⟨e, r⟩).toList)

variable {out : Event E R → Option γ} {I : List γ → Prop} {Q Q' : α → List γ → Prop} {p q : Prog E R α}
  {l : List γ} {tr : List (Event E R)}

theorem Emits.inv (h : p.Emits out I Q l) : I l := by
  cases p with
  | ret a => exact h.1
  | eff e k => exact h.1

theorem Emits.exec (hx : Exec p tr q) (h : p.Emits out I Q l) :
    q.Emits out I Q (l ++ tr.filterMap out) := by
  induction hx generalizing l with
  | nil p =>
    rw [List.filterMap_nil, List.append_nil]
    exact h
  | @cons e k r tr q _ ih =>
    have hcons : (⟨e, r⟩ :: tr).filterMap out = (out ⟨e, r⟩).toList ++ tr.filterMap out := by
      cases ho : out ⟨e, r⟩ <;> simp [ho]
    rw [hcons, ← List.append_assoc]
    exact ih (h.2 r)

theorem Emits.mono (h : p.Emits out I Q l) (hQ : ∀ a l', Q a l' → Q' a l') : p.Emits out I Q' l := by
  induction p generalizing l with
  | ret a => exact ⟨h.1, hQ a l h.2⟩
  | eff e k ih => exact ⟨h.1, fun r => ih r (h.2 r)⟩

/-- **Sequencing.** The second program emits after the first. -/
theorem Emits.bind {Q' : β → List γ → Prop} {f : α → Prog E R β} (h : p.Emits out I Q l)
    (hf : ∀ a l', I l' → Q a l' → (f a).Emits out I Q' l') : (p >>= f).Emits out I Q' l := by
  induction p generalizing l with
  | ret a => exact hf a l h.1 h.2
  | eff e k ih => exact ⟨h.1, fun r => ih r (h.2 r)⟩

theorem emits_eff_none {e : E} {k : R e → Prog E R α} (hl : I l) (hout : ∀ r, out ⟨e, r⟩ = none)
    (hk : ∀ r, (k r).Emits out I Q l) : (eff e k).Emits out I Q l := by
  refine ⟨hl, fun r => ?_⟩
  rw [hout r, Option.toList_none, List.append_nil]
  exact hk r

/-- A program with no effect of interest emits nothing. -/
theorem Uses.emits {P : E → Prop} (hp : p.Uses P) (hout : ∀ e, P e → ∀ r, out ⟨e, r⟩ = none) (hl : I l) :
    p.Emits out I (fun _ l' => l' = l) l := by
  induction p with
  | ret a => exact ⟨hl, rfl⟩
  | eff e k ih => exact emits_eff_none hl (hout e hp.1) fun r => ih r (hp.2 r)

theorem Uses.and {P P' : E → Prop} (hp : p.Uses P) (hp' : p.Uses P') : p.Uses fun e => P e ∧ P' e := by
  induction p with
  | ret a => trivial
  | eff e k ih => exact ⟨⟨hp.1, hp'.1⟩, fun r => ih r (hp.2 r) (hp'.2 r)⟩

section Handle

variable {E' : Type u} {R' : E' → Type v} {R : E → Type w} {out : Event E R → Option γ} {p : Prog E R α}

/-- In place of each effect, a program that emits as the effect does. -/
theorem Emits.handle {out' : Event E' R' → Option γ} {f : (e : E) → Prog E' R' (R e)}
    (hf : ∀ e l, I l → (∀ r, I (l ++ (out ⟨e, r⟩).toList)) →
      (f e).Emits out' I (fun r l' => l' = l ++ (out ⟨e, r⟩).toList) l)
    (h : p.Emits out I Q l) : (p.handle f).Emits out' I Q l := by
  induction p generalizing l with
  | ret a => exact h
  | eff e k ih =>
    refine (hf e l h.1 fun r => (h.2 r).inv).bind fun r l' _ hl' => ?_
    exact ih r (hl' ▸ h.2 r)

end Handle

end Prog

/-- **Sequencing**, of programs that can fail. -/
theorem emits_go_bind {ε α β : Type v} {E : Type u} {R : E → Type v} {γ : Type z} {out : Event E R → Option γ}
    {I : List γ → Prop} {Q : Except (Go.Fault ε) α → List γ → Prop}
    {Q' : Except (Go.Fault ε) β → List γ → Prop} {y : GoProg ε E R α} {f : α → GoProg ε E R β} {l : List γ}
    (hy : y.run.Emits out I Q l) (hok : ∀ a l', I l' → Q (.ok a) l' → (f a).run.Emits out I Q' l')
    (herror : ∀ e l', Q (.error e) l' → Q' (.error e) l') : (y >>= f).run.Emits out I Q' l := by
  rw [ExceptT.run_bind]
  refine hy.bind fun a l' hl' hQ => ?_
  cases a with
  | ok a => exact hok a l' hl' hQ
  | error e => exact ⟨hl', herror e l' hQ⟩

/-! ### In a run -/

section Run

variable {S : Type x} {L : Type y} {E : Type u} {R : E → Type v} {α : Type w} {β : Type z}
  {sys : System S L E R α} {ok : Cfg S L E R α → Move L E → Prop} {s₀ s : S} {h h' : List (Entry S E R)}
  {c : Cfg S L E R α} {i : ℕ} {out : Event E R → Option β}

/-- What was emitted, each element with its thread. -/
def emitted (out : Event E R → Option β) (h : List (Entry S E R)) : List (ℕ × β) :=
  h.filterMap fun en => (out en.event).map (Prod.mk en.tid)

theorem emitted_append : emitted out (h ++ h') = emitted out h ++ emitted out h' := List.filterMap_append

theorem emitted_singleton (en : Entry S E R) :
    (emitted out [en]).map Prod.snd = (out en.event).toList := by
  rw [emitted, List.filterMap_cons, List.filterMap_nil]
  cases out en.event <;> rfl

/-- What a thread emitted is what its effects emit. -/
theorem ofKey_emitted (out : Event E R → Option β) (i : ℕ) (h : List (Entry S E R)) :
    ofKey i (emitted out h) = (performed i h).filterMap out := by
  rw [ofKey, emitted, performed, List.filterMap_filterMap, List.filterMap_filterMap]
  refine List.filterMap_congr fun en _ => ?_
  cases ho : out en.event with
  | none => by_cases htid : en.tid = i <;> simp [htid, ho]
  | some b => by_cases htid : en.tid = i <;> simp [htid, ho]

theorem mem_emitted_iff {b : β} : (i, b) ∈ emitted out h ↔ ∃ en ∈ h, en.tid = i ∧ out en.event = some b := by
  rw [emitted, List.mem_filterMap]
  constructor
  · rintro ⟨en, hen, heq⟩
    obtain ⟨b', hb', heq⟩ := Option.map_eq_some_iff.mp heq
    cases heq
    exact ⟨en, hen, rfl, hb'⟩
  · rintro ⟨en, hen, rfl, hb⟩
    exact ⟨en, hen, by rw [hb]; rfl⟩

/-- **A thread emits what its program can**, whatever the others do. -/
theorem Run.emits {I : List β → Prop} {Q : α → List β → Prop} {t : Thread L E R α}
    (hr : Run sys ok s₀ h c) (ht : c.threads[i]? = some t) (hbody : (sys.body t.call).Emits out I Q []) :
    I (ofKey i (emitted out h)) := by
  rw [ofKey_emitted]
  exact (hbody.exec (hr.exec ht)).inv

/-- **A channel.** Where every effect puts into the channel what it emits by `put`, and takes from it
what it emits by `take`, what was put in is what was taken and what is left. -/
theorem Linked.channel {sem : (e : E) → S → R e → S → Prop} {put take : Event E R → Option β}
    (content : S → List β) (hl : Linked sem s₀ h s)
    (hstep : ∀ e s r s', sem e s r s' →
      content s ++ (put ⟨e, r⟩).toList = (take ⟨e, r⟩).toList ++ content s') :
    content s₀ ++ (emitted put h).map Prod.snd = (emitted take h).map Prod.snd ++ content s := by
  induction hl with
  | nil => simp [emitted]
  | @snoc h s en _ hpre hs ih =>
    rw [emitted_append, emitted_append, List.map_append, List.map_append, ← List.append_assoc, ih,
      emitted_singleton, emitted_singleton, List.append_assoc, List.append_assoc]
    exact congrArg _ (hstep _ _ _ _ hs)

end Run

end GatewayBridge.Process
