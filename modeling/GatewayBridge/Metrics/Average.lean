import Mathlib.Analysis.Convex.Basic

/-!
# Exponentially weighted averages

A running average of a sequence of values: the first value, and from then on a step from the
average so far towards each new value, by a fraction `α` of the way. The average of
values in a convex set is in the set (`average_mem`), since every step goes from a point of
the set towards a point of the set. Bounds from below and from above, strict or not, are
the cases of a half-line.
-/

namespace GatewayBridge.Metrics

section

variable {𝕜 E : Type*} [Ring 𝕜] [AddCommGroup E] [Module 𝕜 E] (α : 𝕜)

/-- The average so far, moved towards one more value. -/
def smooth (r x : E) : E := r + α • (x - r)

/-- The average of a sequence of values; of none it is `0`. -/
def average : List E → E
  | [] => 0
  | x :: xs => xs.foldl (smooth α) x

theorem average_append_singleton {xs : List E} (hne : xs ≠ []) (x : E) :
    average α (xs ++ [x]) = smooth α (average α xs) x := by
  cases xs with
  | nil => exact absurd rfl hne
  | cons y ys => rw [List.cons_append, average, List.foldl_append, average, List.foldl_cons, List.foldl_nil]

end

section

variable {𝕜 E : Type*} [Field 𝕜] [LinearOrder 𝕜] [IsStrictOrderedRing 𝕜] [AddCommGroup E] [Module 𝕜 E]
  {α : 𝕜} {s : Set E}

/-- **The average of values in a convex set is in the set.** -/
theorem average_mem (hs : Convex 𝕜 s) (hα : α ∈ Set.Icc 0 1) {xs : List E} (hne : xs ≠ [])
    (h : ∀ x ∈ xs, x ∈ s) : average α xs ∈ s := by
  induction xs using List.reverseRecOn with
  | nil => exact absurd rfl hne
  | append_singleton xs x ih =>
    have hx : x ∈ s := h x (List.mem_append_right _ (List.mem_singleton_self x))
    rcases eq_or_ne xs [] with rfl | hxs
    · exact hx
    · rw [average_append_singleton α hxs]
      exact hs.add_smul_sub_mem (ih hxs fun y hy => h y (List.mem_append_left _ hy)) hx hα

end

end GatewayBridge.Metrics
