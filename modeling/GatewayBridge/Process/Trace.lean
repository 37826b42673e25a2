import Mathlib.Data.List.Basic

/-!
# Traces

A component that runs for ever is not a program with an end but a relation `step s l s'`: from
`s` it can do `l`, which leaves it in `s'`. `Trace step s tr s'` says that it did the
steps of `tr`, one after the other, from `s` to `s'`.

What holds of the steps done and of the state reached is proved by one induction
(`Trace.invariant`): it holds at the start, and every step keeps it.
-/

namespace GatewayBridge.Process

universe u v

variable {S : Type u} {L : Type v}

/-- From `s` the steps of `tr`, one after the other, lead to the last state. -/
inductive Trace (step : S → L → S → Prop) (s : S) : List L → S → Prop
  /-- No step. -/
  | nil : Trace step s [] s
  /-- One more step. -/
  | snoc {tr : List L} {s₁ s₂ : S} {l : L} : Trace step s tr s₁ → step s₁ l s₂ → Trace step s (tr ++ [l]) s₂

variable {step : S → L → S → Prop} {s s₁ s₂ : S} {tr tr₁ tr₂ : List L} {l : L}

theorem Trace.single (h : step s l s₁) : Trace step s [l] s₁ := Trace.nil.snoc h

theorem Trace.append (h₁ : Trace step s tr₁ s₁) (h₂ : Trace step s₁ tr₂ s₂) :
    Trace step s (tr₁ ++ tr₂) s₂ := by
  induction h₂ with
  | nil =>
    rw [List.append_nil]
    exact h₁
  | snoc _ hs ih =>
    rw [← List.append_assoc]
    exact ih.snoc hs

theorem Trace.cons (h : step s l s₁) (ht : Trace step s₁ tr s₂) : Trace step s (l :: tr) s₂ :=
  (Trace.single h).append ht

/-- **What every step keeps holds of every trace**: of the steps done and of the state reached. -/
theorem Trace.invariant {I : List L → S → Prop} (h₀ : I [] s)
    (hI : ∀ tr s₁ l s₂, I tr s₁ → step s₁ l s₂ → I (tr ++ [l]) s₂) (h : Trace step s tr s₁) : I tr s₁ := by
  induction h with
  | nil => exact h₀
  | snoc _ hs ih => exact hI _ _ _ _ ih hs

/-- What every step keeps holds of the state that a trace reaches. -/
theorem Trace.invariant_state {I : S → Prop} (h₀ : I s) (hI : ∀ s₁ l s₂, I s₁ → step s₁ l s₂ → I s₂)
    (h : Trace step s tr s₁) : I s₁ :=
  h.invariant (I := fun _ s => I s) h₀ fun _ _ _ _ => hI _ _ _

end GatewayBridge.Process
