import Mathlib.Tactic.Common

/-!
# The traces of a system that answers

A system answers each of its inputs: `step : σ → α → β × σ`. What can be seen of a run is
its *trace*, the inputs with their answers (`Transition.trace`).

A *specification* says which answers are in order: `spec : τ → α → β → τ → Prop`, on states
of its own. It *admits* a trace (`Transition.Admits`) if some run of it would have given these
answers. A system refines a specification if there is a relation between their states that
every step keeps; then the specification admits all of its traces
(`Transition.admits_trace`), and what holds of admitted traces holds of the system.

A trace is cut where its states are (`Transition.admits_append`), and whatever is lost between
two of them is lost in one of the steps (`Transition.Admits.exists_of_not`).
-/

namespace Transition

variable {σ τ α β : Type*}

section

variable (step : σ → α → β × σ)

/-- The inputs of a run, with their answers. -/
def trace : σ → List α → List (α × β)
  | _, [] => []
  | s, a :: as => (a, (step s a).1) :: trace (step s a).2 as

/-- The state after a run. -/
def final : σ → List α → σ
  | s, [] => s
  | s, a :: as => final (step s a).2 as

end

/-- **A specification admits a trace** from one of its states to another. -/
inductive Admits (spec : τ → α → β → τ → Prop) : τ → List (α × β) → τ → Prop
  | nil (t : τ) : Admits spec t [] t
  | cons {t t' u : τ} {a : α} {b : β} {l : List (α × β)} (h : spec t a b t')
      (hl : Admits spec t' l u) : Admits spec t ((a, b) :: l) u

variable {spec : τ → α → β → τ → Prop} {step : σ → α → β × σ} {t u : τ}

/-- **Refinement**: a relation that is kept by every step relates the ends of every run, and
the trace between them is admitted. -/
theorem admits_trace {R : σ → τ → Prop}
    (hstep : ∀ s t a, R s t → ∃ t', spec t a (step s a).1 t' ∧ R (step s a).2 t') {s : σ}
    (h₀ : R s t) (as : List α) :
    ∃ t', Admits spec t (trace step s as) t' ∧ R (final step s as) t' := by
  induction as generalizing s t with
  | nil => exact ⟨t, .nil t, h₀⟩
  | cons a as ih =>
    obtain ⟨t', hspec, hR⟩ := hstep s t a h₀
    obtain ⟨u, hl, hfinal⟩ := ih hR
    exact ⟨u, .cons hspec hl, hfinal⟩

/-- **A trace in two parts.** -/
theorem admits_append {l l' : List (α × β)} :
    Admits spec t (l ++ l') u ↔ ∃ t', Admits spec t l t' ∧ Admits spec t' l' u := by
  constructor
  · intro h
    induction l generalizing t with
    | nil => exact ⟨t, .nil t, h⟩
    | cons e l ih =>
      cases h with
      | cons hspec hl =>
        obtain ⟨t', hl, hl'⟩ := ih hl
        exact ⟨t', .cons hspec hl, hl'⟩
  · rintro ⟨t', hl, hl'⟩
    induction hl with
    | nil => exact hl'
    | cons hspec _ ih => exact .cons hspec (ih hl')

namespace Admits

variable {l : List (α × β)}

/-- **The invariant rule.** -/
theorem invariant {P : τ → Prop} (h : Admits spec t l u)
    (hstep : ∀ t a b t', P t → spec t a b t' → P t') (ht : P t) : P u := by
  induction h with
  | nil => exact ht
  | cons hspec _ ih => exact ih (hstep _ _ _ _ ht hspec)

/-- **What is lost is lost in a step** of the trace. -/
theorem exists_of_not {P : τ → Prop} (h : Admits spec t l u) (ht : P t) (hu : ¬P u) :
    ∃ e ∈ l, ∃ t₁ t₂, P t₁ ∧ spec t₁ e.1 e.2 t₂ ∧ ¬P t₂ := by
  induction h with
  | nil => exact absurd ht hu
  | @cons t₁ t₂ _ a b l hspec _ ih =>
    by_cases hP : P t₂
    · obtain ⟨e, he, hlost⟩ := ih hP hu
      exact ⟨e, List.mem_cons_of_mem _ he, hlost⟩
    · exact ⟨(a, b), List.mem_cons_self, t₁, t₂, ht, hspec, hP⟩

end Admits

end Transition
