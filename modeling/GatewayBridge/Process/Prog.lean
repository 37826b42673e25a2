import GatewayBridge.Go.Basic
import Mathlib.Data.List.Basic

/-!
# Programs with effects

A program performs effects one after the other and ends with a value. What an
effect does is not part of the program: the program only says which effect it
performs next, given how the earlier ones were answered. So one program can be
run alone, from a given state, or interleaved with others (`Process.Pool`), and
a fact about the effects it can perform holds of both.

* `Prog E R α` — performs effects `e : E`, each answered by an `R e`, and ends
  with an `α`.
* `Exec p tr q` — `p` performs the effects of `tr`, with the answers of `tr`, and
  `q` is left to do.
* `Runs sem p s tr a s'` — `p` runs alone from state `s` to its end, where `sem`
  says how an effect is answered and what it does to the state.
* `Uses P p` — every effect `p` can perform satisfies `P`, whatever the answers.
* `handle f p` — `p`, with a program in place of each effect.
-/

namespace GatewayBridge.Process

open GatewayBridge.Go

universe u v w x

/-- A program that performs effects `e : E`, each answered by an `R e`, and ends with an `α`. -/
inductive Prog (E : Type u) (R : E → Type v) (α : Type w) : Type (max u v w) where
  /-- Nothing left to do. -/
  | ret (a : α)
  /-- Perform `e`, and go on with its answer. -/
  | eff (e : E) (k : R e → Prog E R α)

/-- An effect, with the answer it got. -/
abbrev Event (E : Type u) (R : E → Type v) := (e : E) × R e

namespace Prog

variable {E : Type u} {R : E → Type v} {α β : Type w}

/-- `p`, then `f` of its value. -/
def bind : Prog E R α → (α → Prog E R β) → Prog E R β
  | ret a, f => f a
  | eff e k, f => eff e fun r => (k r).bind f

instance : Monad (Prog E R) where
  pure := ret
  bind := bind

@[simp] theorem pure_eq (a : α) : (pure a : Prog E R α) = ret a := rfl

@[simp] theorem ret_bind (a : α) (f : α → Prog E R β) : (ret a >>= f) = f a := rfl

@[simp] theorem eff_bind (e : E) (k : R e → Prog E R α) (f : α → Prog E R β) :
    (eff e k >>= f) = eff e fun r => k r >>= f := rfl

@[simp] theorem bind_ret (a : α) (f : α → Prog E R β) : (ret a).bind f = f a := rfl

theorem bind_ret_right (p : Prog E R α) : (p >>= ret) = p := by
  induction p with
  | ret a => rfl
  | eff e k ih => exact congrArg (eff e) (funext ih)

theorem bind_assoc {γ : Type w} (p : Prog E R α) (f : α → Prog E R β) (g : β → Prog E R γ) :
    (p >>= f) >>= g = p >>= fun a => f a >>= g := by
  induction p with
  | ret a => rfl
  | eff e k ih => exact congrArg (eff e) (funext ih)

/-- Perform `e`, for its answer. -/
def ask (e : E) : Prog E R (R e) := eff e ret

@[simp] theorem ask_bind (e : E) {β : Type v} (f : R e → Prog E R β) : (ask e >>= f) = eff e f := rfl

/-! ### Performing effects -/

/-- `p` performs the effects of `tr`, answered as `tr` says, and `q` is left to do. -/
inductive Exec : Prog E R α → List (Event E R) → Prog E R α → Prop
  /-- Nothing performed. -/
  | nil (p : Prog E R α) : Exec p [] p
  /-- The next effect, then the rest. -/
  | cons {e : E} {k : R e → Prog E R α} {r : R e} {tr : List (Event E R)} {q : Prog E R α} :
      Exec (k r) tr q → Exec (eff e k) (⟨e, r⟩ :: tr) q

theorem exec_ret_iff {a : α} {tr : List (Event E R)} {q : Prog E R α} :
    Exec (ret a) tr q ↔ tr = [] ∧ q = ret a := by
  constructor
  · rintro ⟨⟩
    exact ⟨rfl, rfl⟩
  · rintro ⟨rfl, rfl⟩
    exact .nil _

theorem exec_eff_iff {e : E} {k : R e → Prog E R α} {tr : List (Event E R)} {q : Prog E R α} :
    Exec (eff e k) tr q ↔
      (tr = [] ∧ q = eff e k) ∨ ∃ r tr', tr = ⟨e, r⟩ :: tr' ∧ Exec (k r) tr' q := by
  constructor
  · rintro (_ | h)
    · exact .inl ⟨rfl, rfl⟩
    · exact .inr ⟨_, _, rfl, h⟩
  · rintro (⟨rfl, rfl⟩ | ⟨r, tr', rfl, h⟩)
    · exact .nil _
    · exact .cons h

theorem Exec.snoc {p : Prog E R α} {tr : List (Event E R)} {e : E} {k : R e → Prog E R α}
    (h : Exec p tr (eff e k)) (r : R e) : Exec p (tr ++ [⟨e, r⟩]) (k r) := by
  generalize hq : eff e k = q at h
  induction h with
  | nil p =>
    subst hq
    exact .cons (.nil _)
  | cons _ ih => exact .cons (ih hq)

/-- A program that goes on with `f` and has ended performed its own effects, then those of `f`. -/
theorem Exec.bind_ret {p : Prog E R α} {f : α → Prog E R β} {tr : List (Event E R)} {b : β}
    (h : Exec (p >>= f) tr (ret b)) :
    ∃ a tr₁ tr₂, Exec p tr₁ (ret a) ∧ Exec (f a) tr₂ (ret b) ∧ tr = tr₁ ++ tr₂ := by
  induction p generalizing tr with
  | ret a => exact ⟨a, [], tr, .nil _, h, rfl⟩
  | eff e k ih =>
    rw [eff_bind, exec_eff_iff] at h
    obtain ⟨-, hq⟩ | ⟨r, tr', rfl, h⟩ := h
    · cases hq
    · obtain ⟨a, tr₁, tr₂, h₁, h₂, rfl⟩ := ih r h
      exact ⟨a, _, tr₂, .cons h₁, h₂, rfl⟩

/-- A program that has ended performed its first effect. -/
theorem Exec.eff_ret {e : E} {k : R e → Prog E R α} {tr : List (Event E R)} {a : α}
    (h : Exec (eff e k) tr (ret a)) : ∃ r tr', tr = ⟨e, r⟩ :: tr' ∧ Exec (k r) tr' (ret a) := by
  obtain ⟨-, hq⟩ | h := exec_eff_iff.mp h
  · cases hq
  · exact h

/-! ### The effects a program can perform -/

/-- Every effect `p` can perform satisfies `P`, whatever the answers. -/
def Uses (P : E → Prop) : Prog E R α → Prop
  | ret _ => True
  | eff e k => P e ∧ ∀ r, (k r).Uses P

variable {P : E → Prop}

@[simp] theorem uses_ret (a : α) : (ret a : Prog E R α).Uses P := trivial

@[simp] theorem uses_eff {e : E} {k : R e → Prog E R α} :
    (eff e k).Uses P ↔ P e ∧ ∀ r, (k r).Uses P := Iff.rfl

theorem Uses.bind {p : Prog E R α} {f : α → Prog E R β} (hp : p.Uses P)
    (hf : ∀ a, (f a).Uses P) : (p >>= f).Uses P := by
  induction p with
  | ret a => exact hf a
  | eff e k ih => exact ⟨hp.1, fun r => ih r (hp.2 r)⟩

theorem Uses.mono {Q : E → Prop} (h : ∀ e, P e → Q e) {p : Prog E R α} (hp : p.Uses P) : p.Uses Q := by
  induction p with
  | ret a => trivial
  | eff e k ih => exact ⟨h e hp.1, fun r => ih r (hp.2 r)⟩

theorem uses_of_forall (h : ∀ e, P e) (p : Prog E R α) : p.Uses P := by
  induction p with
  | ret a => trivial
  | eff e k ih => exact ⟨h e, ih⟩

theorem Uses.exec {p q : Prog E R α} {tr : List (Event E R)} (h : Exec p tr q) (hp : p.Uses P) :
    (∀ ev ∈ tr, P ev.1) ∧ q.Uses P := by
  induction h with
  | nil p => exact ⟨by simp, hp⟩
  | cons _ ih =>
    obtain ⟨htr, hq⟩ := ih (hp.2 _)
    exact ⟨List.forall_mem_cons.mpr ⟨hp.1, htr⟩, hq⟩

/-! ### Programs in place of effects -/

section Handle

variable {R : E → Type w} {E' : Type u} {R' : E' → Type v}

/-- `p`, with the program `f e` in place of each effect `e`. -/
def handle (f : (e : E) → Prog E' R' (R e)) : Prog E R α → Prog E' R' α
  | ret a => ret a
  | eff e k => f e >>= fun r => (k r).handle f

@[simp] theorem handle_eff (f : (e : E) → Prog E' R' (R e)) (e : E) (k : R e → Prog E R α) :
    (eff e k).handle f = f e >>= fun r => (k r).handle f := rfl

theorem handle_bind (f : (e : E) → Prog E' R' (R e)) (p : Prog E R α) (g : α → Prog E R β) :
    (p >>= g).handle f = p.handle f >>= fun a => (g a).handle f := by
  induction p with
  | ret a => rfl
  | eff e k ih =>
    rw [eff_bind, handle_eff, handle_eff, bind_assoc]
    exact congrArg _ (funext ih)

theorem Uses.handle {P : E → Prop} {P' : E' → Prop} {f : (e : E) → Prog E' R' (R e)} {p : Prog E R α}
    (hp : p.Uses P) (hf : ∀ e, P e → (f e).Uses P') : (p.handle f).Uses P' := by
  induction p with
  | ret a => trivial
  | eff e k ih => exact (hf e hp.1).bind fun r => ih r (hp.2 r)

end Handle

/-! ### Running alone -/

variable {S : Type x}

/-- `p` runs alone from `s`, performing `tr`, to its end with value `a` in state `s'`. -/
inductive Runs (sem : (e : E) → S → R e → S → Prop) :
    Prog E R α → S → List (Event E R) → α → S → Prop
  /-- Nothing left to do. -/
  | ret {a : α} {s : S} : Runs sem (.ret a) s [] a s
  /-- The next effect, then the rest. -/
  | eff {e : E} {k : R e → Prog E R α} {s s' s'' : S} {r : R e} {tr : List (Event E R)} {a : α} :
      sem e s r s' → Runs sem (k r) s' tr a s'' → Runs sem (.eff e k) s (⟨e, r⟩ :: tr) a s''

variable {sem : (e : E) → S → R e → S → Prop}

theorem runs_ret_iff {a b : α} {s s' : S} {tr : List (Event E R)} :
    Runs sem (ret a) s tr b s' ↔ tr = [] ∧ b = a ∧ s' = s := by
  constructor
  · rintro ⟨⟩
    exact ⟨rfl, rfl, rfl⟩
  · rintro ⟨rfl, rfl, rfl⟩
    exact .ret

theorem runs_eff_iff {e : E} {k : R e → Prog E R α} {a : α} {s s'' : S} {tr : List (Event E R)} :
    Runs sem (eff e k) s tr a s'' ↔
      ∃ r s' tr', sem e s r s' ∧ tr = ⟨e, r⟩ :: tr' ∧ Runs sem (k r) s' tr' a s'' := by
  constructor
  · rintro (_ | ⟨h, hk⟩)
    exact ⟨_, _, _, h, rfl, hk⟩
  · rintro ⟨r, s', tr', h, rfl, hk⟩
    exact .eff h hk

/-- A program that goes on with `f` runs to its end, and `f` from there. -/
theorem runs_bind_iff {p : Prog E R α} {f : α → Prog E R β} {b : β} {s s'' : S}
    {tr : List (Event E R)} :
    Runs sem (p >>= f) s tr b s'' ↔
      ∃ a s' tr₁ tr₂, Runs sem p s tr₁ a s' ∧ Runs sem (f a) s' tr₂ b s'' ∧ tr = tr₁ ++ tr₂ := by
  induction p generalizing s tr with
  | ret a =>
    constructor
    · intro h
      exact ⟨a, s, [], tr, .ret, h, rfl⟩
    · rintro ⟨a', s', tr₁, tr₂, h₁, h₂, rfl⟩
      obtain ⟨rfl, rfl, rfl⟩ := runs_ret_iff.mp h₁
      exact h₂
  | eff e k ih =>
    rw [eff_bind, runs_eff_iff]
    constructor
    · rintro ⟨r, s₁, tr', he, rfl, h⟩
      obtain ⟨a, s', tr₁, tr₂, h₁, h₂, rfl⟩ := (ih r).mp h
      exact ⟨a, s', _, tr₂, .eff he h₁, h₂, rfl⟩
    · rintro ⟨a, s', tr₁, tr₂, h₁, h₂, rfl⟩
      obtain ⟨r, s₁, tr', he, rfl, hk⟩ := runs_eff_iff.mp h₁
      exact ⟨r, s₁, _, he, rfl, (ih r).mpr ⟨a, s', tr', tr₂, hk, h₂, rfl⟩⟩

/-- What every effect keeps, a program keeps. -/
theorem Runs.invariant {I : S → Prop} (hI : ∀ e s r s', sem e s r s' → I s → I s') {p : Prog E R α}
    {s s' : S} {tr : List (Event E R)} {a : α} (h : Runs sem p s tr a s') (hs : I s) : I s' := by
  induction h with
  | ret => exact hs
  | eff he _ ih => exact ih (hI _ _ _ _ he hs)

/-- What every effect satisfies, with its answer, those of a run do. -/
theorem Runs.forall_mem {Q : Event E R → Prop} (hQ : ∀ e s r s', sem e s r s' → Q ⟨e, r⟩) {p : Prog E R α}
    {s s' : S} {tr : List (Event E R)} {a : α} (h : Runs sem p s tr a s') : ∀ ev ∈ tr, Q ev := by
  induction h with
  | ret => exact fun ev hev => by cases hev
  | eff he _ ih => exact List.forall_mem_cons.mpr ⟨hQ _ _ _ _ he, ih⟩

/-- Where every effect it can perform has an answer, a program runs to its end. -/
theorem exists_runs (hsem : ∀ e, P e → ∀ s, ∃ r s', sem e s r s') {p : Prog E R α} (hp : p.Uses P)
    (s : S) : ∃ tr a s', Runs sem p s tr a s' := by
  induction p generalizing s with
  | ret a => exact ⟨[], a, s, .ret⟩
  | eff e k ih =>
    obtain ⟨r, s', he⟩ := hsem e hp.1 s
    obtain ⟨tr, a, s'', hk⟩ := ih r (hp.2 r) s'
    exact ⟨_, a, s'', .eff he hk⟩

end Prog

/-! ### Programs that can fail -/

/-- A program that can return an error or panic. -/
abbrev GoProg (ε : Type w) (E : Type u) (R : E → Type v) := ExceptT (Fault ε) (Prog E R)

section GoProg

variable {ε : Type v} {α β : Type v} {E : Type u} {R : E → Type v}

/-- Perform `e`, for its answer. -/
def perform (e : E) : GoProg ε E R (R e) := ExceptT.mk (.eff e fun r => .ret (.ok r))

/-- A computation without effects, as a program. -/
def lift (x : Except (Fault ε) α) : GoProg ε E R α := ExceptT.mk (.ret x)

@[simp] theorem run_perform_bind (e : E) (f : R e → GoProg ε E R β) :
    (perform e >>= f).run = .eff e fun r => (f r).run := rfl

@[simp] theorem run_perform (e : E) :
    (perform e : GoProg ε E R (R e)).run = .eff e fun r => .ret (.ok r) := rfl

@[simp] theorem run_lift (x : Except (Fault ε) α) : (lift x : GoProg ε E R α).run = .ret x := rfl

@[simp] theorem run_lift_ok_bind (a : α) (f : α → GoProg ε E R β) :
    (lift (.ok a) >>= f).run = (f a).run := rfl

@[simp] theorem run_lift_error_bind (e : Fault ε) (f : α → GoProg ε E R β) :
    (lift (.error e) >>= f).run = .ret (.error e) := rfl

@[simp] theorem run_lift_fail_bind (e : ε) (f : α → GoProg ε E R β) :
    (lift (fail e) >>= f).run = .ret (fail e) := rfl

/-! ### The effects of programs that can fail -/

variable {P : E → Prop}

@[simp] theorem uses_lift (y : Except (Fault ε) α) : (lift y : GoProg ε E R α).run.Uses P := trivial

@[simp] theorem uses_perform {e : E} : (perform e : GoProg ε E R (R e)).run.Uses P ↔ P e := by
  rw [run_perform, Prog.uses_eff]
  exact and_iff_left fun _ => trivial

theorem uses_go_bind {y : GoProg ε E R α} {f : α → GoProg ε E R β} (hy : y.run.Uses P)
    (hf : ∀ a, (f a).run.Uses P) : (y >>= f).run.Uses P := by
  rw [ExceptT.run_bind]
  refine hy.bind fun a => ?_
  cases a with
  | ok a => exact hf a
  | error e => trivial

/-! ### Running programs that can fail -/

variable {S : Type x} {sem : (e : E) → S → R e → S → Prop} {s s' : S} {tr : List (Event E R)}

theorem runs_lift_iff {y : Except (Fault ε) α} {r : Except (Fault ε) α} :
    Prog.Runs sem (lift y : GoProg ε E R α).run s tr r s' ↔ tr = [] ∧ r = y ∧ s' = s :=
  Prog.runs_ret_iff

theorem runs_perform_iff {e : E} {r : Except (Fault ε) (R e)} :
    Prog.Runs sem (perform e : GoProg ε E R (R e)).run s tr r s' ↔
      ∃ a, sem e s a s' ∧ r = .ok a ∧ tr = [⟨e, a⟩] := by
  rw [run_perform, Prog.runs_eff_iff]
  constructor
  · rintro ⟨a, s₁, tr', he, rfl, h⟩
    obtain ⟨rfl, rfl, rfl⟩ := Prog.runs_ret_iff.mp h
    exact ⟨a, he, rfl, rfl⟩
  · rintro ⟨a, he, rfl, rfl⟩
    exact ⟨a, s', [], he, rfl, .ret⟩

/-- **Sequencing.** `x >>= f` fails where `x` fails, or goes on with `f` of the value of `x`. -/
theorem runs_go_bind_iff {y : GoProg ε E R α} {f : α → GoProg ε E R β} {r : Except (Fault ε) β} :
    Prog.Runs sem (y >>= f).run s tr r s' ↔
      (∃ a s₁ tr₁ tr₂, Prog.Runs sem y.run s tr₁ (.ok a) s₁ ∧ Prog.Runs sem (f a).run s₁ tr₂ r s' ∧
        tr = tr₁ ++ tr₂) ∨
      ∃ e, Prog.Runs sem y.run s tr (.error e) s' ∧ r = .error e := by
  rw [ExceptT.run_bind, Prog.runs_bind_iff]
  constructor
  · rintro ⟨a, s₁, tr₁, tr₂, h₁, h₂, rfl⟩
    cases a with
    | ok a => exact .inl ⟨a, s₁, tr₁, tr₂, h₁, h₂, rfl⟩
    | error e =>
      obtain ⟨rfl, rfl, rfl⟩ := Prog.runs_ret_iff.mp h₂
      exact .inr ⟨e, by rwa [List.append_nil], rfl⟩
  · rintro (⟨a, s₁, tr₁, tr₂, h₁, h₂, rfl⟩ | ⟨e, h, rfl⟩)
    · exact ⟨.ok a, s₁, tr₁, tr₂, h₁, h₂, rfl⟩
    · exact ⟨.error e, s', tr, [], h, .ret, (List.append_nil _).symm⟩

end GoProg

end GatewayBridge.Process
