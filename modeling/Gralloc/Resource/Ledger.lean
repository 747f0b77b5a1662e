import Mathlib.Algebra.Order.Group.Multiset
import Mathlib.Control.Monad.Writer

/-!
# Resources that are acquired and released

A program that acquires resources and releases them, such as a descriptor that is opened and closed,
leaves a log. What the log makes of the resources that were held before it is
`Resource.after`: nothing, if something is released that is not held.

A log *turns* some resources into others (`Resource.Turns`) if it does so whatever else is held.
With the other resources as a frame, logs are put together like programs in a logic of separate
resources: one after the other (`Resource.Turns.append`), and beside what they do not touch
(`Resource.Turns.frame`).

A program that writes such a log is a `Resource.Action`. Its specification
(`Resource.Triple`) names what it takes and, for each of its results, what it gives back; there is
a rule for each way to put programs together. What it returns is its `Resource.value`, in which the
log is forgotten.
-/

namespace Resource

/-- What happens to a resource. -/
inductive Event (α : Type*) where
  | acquire (a : α)
  | release (a : α)
  deriving DecidableEq, Repr

section

variable {α : Type*} [DecidableEq α]

/-- What is held after a log, if it releases nothing that is not held. -/
def after : List (Event α) → Multiset α → Option (Multiset α)
  | [], held => some held
  | .acquire a :: l, held => after l (a ::ₘ held)
  | .release a :: l, held => if a ∈ held then after l (held.erase a) else none

/-- One log after another. -/
theorem after_append (l l' : List (Event α)) (held : Multiset α) :
    after (l ++ l') held = (after l held).bind (after l') := by
  induction l generalizing held with
  | nil => rfl
  | cons x l ih =>
    rcases x with a | a
    · exact ih _
    · simp only [List.cons_append, after]
      split_ifs
      · exact ih _
      · rfl

/-- **A log turns some resources into others**, and leaves the rest. -/
def Turns (l : List (Event α)) (taken given : Multiset α) : Prop :=
  ∀ rest, after l (taken + rest) = some (given + rest)

namespace Turns

variable {l l' : List (Event α)} {s t u : Multiset α}

theorem nil (s : Multiset α) : Turns [] s s := fun _ => rfl

theorem acquire (a : α) : Turns [.acquire a] 0 {a} := by
  intro rest
  rw [after, after, zero_add, Multiset.singleton_add]

theorem release (a : α) : Turns [.release a] {a} 0 := by
  intro rest
  rw [after, Multiset.singleton_add, if_pos (Multiset.mem_cons_self a rest),
    Multiset.erase_cons_head, after, zero_add]

/-- **Logs follow each other.** -/
theorem append (h : Turns l s t) (h' : Turns l' t u) : Turns (l ++ l') s u := by
  intro rest
  rw [after_append, h rest]
  exact h' rest

/-- **What is not touched is kept.** -/
theorem frame (h : Turns l s t) (kept : Multiset α) : Turns l (s + kept) (t + kept) := by
  intro rest
  rw [add_assoc, add_assoc]
  exact h (kept + rest)

/-- The frame on the other side. -/
theorem frame_left (h : Turns l s t) (kept : Multiset α) : Turns l (kept + s) (kept + t) := by
  rw [add_comm kept s, add_comm kept t]
  exact h.frame kept

/-- A log beside another: what it gives is added. -/
theorem add (h : Turns l 0 s) (h' : Turns l' 0 t) : Turns (l ++ l') 0 (s + t) := by
  refine h.append ?_
  have hframe := h'.frame_left s
  rwa [add_zero] at hframe

/-- Resources are released in any order. -/
theorem releaseAll (resources : List α) :
    Turns (resources.map .release) (resources : Multiset α) 0 := by
  induction resources with
  | nil => exact nil 0
  | cons a resources ih =>
    rw [← Multiset.cons_coe, ← Multiset.singleton_add]
    have hhead := (release a).frame (resources : Multiset α)
    rw [zero_add] at hhead
    exact hhead.append ih

/-- Resources are acquired in any order. -/
theorem acquireAll (resources : List α) :
    Turns (resources.map .acquire) 0 (resources : Multiset α) := by
  induction resources with
  | nil => exact nil 0
  | cons a resources ih =>
    rw [← Multiset.cons_coe, ← Multiset.singleton_add]
    exact (acquire a).add ih

end Turns

end

/-! ### Programs -/

/-- A program that keeps a log of resources, and may stop. -/
abbrev Action (α ε β : Type) : Type := WriterT (List (Event α)) (Except ε) β

variable {α ε β γ : Type}

/-- A resource is acquired. -/
def acquire (a : α) : Action α ε Unit := WriterT.mk (.ok ((), [.acquire a]))

/-- A resource is released. -/
def release (a : α) : Action α ε Unit := WriterT.mk (.ok ((), [.release a]))

/-- Some resources are acquired, in order. -/
def acquireAll (resources : List α) : Action α ε Unit :=
  WriterT.mk (.ok ((), resources.map .acquire))

/-- Some resources are released, in order. -/
def releaseAll (resources : List α) : Action α ε Unit :=
  WriterT.mk (.ok ((), resources.map .release))

/-- What a program returns. -/
def value (x : Action α ε β) : Except ε β := x.run.map Prod.fst

section

variable {x : Action α ε β} {k : β → Action α ε γ}

@[simp] theorem value_pure (b : β) : value (pure b : Action α ε β) = .ok b := rfl

@[simp] theorem value_acquire (a : α) : value (acquire a : Action α ε Unit) = .ok () := rfl

@[simp] theorem value_liftM (y : Except ε β) : value (liftM y : Action α ε β) = y := by
  rcases y with e | b <;> rfl

/-- The log of a program that goes on. -/
theorem run_bind_ok {b : β} {l : List (Event α)} (h : x.run = .ok (b, l)) :
    (x >>= k).run = (k b).run.map fun r => (r.1, l ++ r.2) := by
  rw [WriterT.run_bind, h]
  rfl

theorem run_bind_error {e : ε} (h : x.run = .error e) : (x >>= k).run = .error e := by
  rw [WriterT.run_bind, h]
  rfl

@[simp] theorem value_bind (x : Action α ε β) (k : β → Action α ε γ) :
    value (x >>= k) = value x >>= fun b => value (k b) := by
  unfold value
  rcases hx : x.run with e | ⟨b, l⟩
  · rw [run_bind_error hx]
    rfl
  · rw [run_bind_ok hx]
    change _ = (k b).run.map Prod.fst
    rcases (k b).run with e | r <;> rfl

/-- A result has a log. -/
theorem value_eq_ok {b : β} : value x = .ok b ↔ ∃ l, x.run = .ok (b, l) := by
  unfold value
  rcases x.run with e | ⟨c, l⟩
  · exact iff_of_false (by rintro ⟨⟩) (by rintro ⟨l, ⟨⟩⟩)
  · constructor
    · rintro ⟨⟩
      exact ⟨l, rfl⟩
    · rintro ⟨l, ⟨⟩⟩
      rfl

end

/-! ### Specifications -/

section

variable [DecidableEq α]

/-- **What a program does with resources**: it takes some, and gives others with its result. -/
def Triple (taken : Multiset α) (x : Action α ε β) (given : β → Multiset α) : Prop :=
  ∀ b l, x.run = .ok (b, l) → Turns l taken (given b)

namespace Triple

variable {x : Action α ε β} {k : β → Action α ε γ} {taken : Multiset α} {given : β → Multiset α}

theorem pure (given : β → Multiset α) (b : β) :
    Triple (given b) (Pure.pure b : Action α ε β) given := by
  rintro _ _ ⟨⟩
  exact .nil _

/-- A program without resources. -/
theorem lift (taken : Multiset α) (y : Except ε β) :
    Triple taken (liftM y : Action α ε β) fun _ => taken := by
  rcases y with e | b
  · rintro _ _ ⟨⟩
  · rintro _ _ ⟨⟩
    exact .nil _

theorem acquire (a : α) (kept : Multiset α) :
    Triple kept (Resource.acquire a : Action α ε Unit) fun _ => {a} + kept := by
  rintro _ _ ⟨⟩
  have h := (Turns.acquire a).frame kept
  rwa [zero_add] at h

theorem release (a : α) (kept : Multiset α) :
    Triple ({a} + kept) (Resource.release a : Action α ε Unit) fun _ => kept := by
  rintro _ _ ⟨⟩
  have h := (Turns.release a).frame kept
  rwa [zero_add] at h

theorem acquireAll (resources : List α) (kept : Multiset α) :
    Triple kept (Resource.acquireAll resources : Action α ε Unit) fun _ => resources + kept := by
  rintro _ _ ⟨⟩
  have h := (Turns.acquireAll resources).frame kept
  rwa [zero_add] at h

theorem releaseAll (resources : List α) (kept : Multiset α) :
    Triple ((resources : Multiset α) + kept)
      (Resource.releaseAll resources : Action α ε Unit) fun _ => kept := by
  rintro _ _ ⟨⟩
  have h := (Turns.releaseAll resources).frame kept
  rwa [zero_add] at h

/-- **One program after another.** -/
theorem bind {last : γ → Multiset α} (h : Triple taken x given)
    (hk : ∀ b, value x = .ok b → Triple (given b) (k b) last) : Triple taken (x >>= k) last := by
  intro c l hrun
  rcases hx : x.run with e | ⟨b, l₁⟩
  · rw [run_bind_error hx] at hrun
    cases hrun
  · rw [run_bind_ok hx] at hrun
    rcases hb : (k b).run with e | ⟨c', l₂⟩
    · rw [hb] at hrun
      cases hrun
    · rw [hb] at hrun
      cases hrun
      exact (h b l₁ hx).append (hk b (value_eq_ok.mpr ⟨l₁, hx⟩) c' l₂ hb)

/-- The same resources, in another form. -/
theorem congr {taken' : Multiset α} {given' : β → Multiset α} (h : Triple taken x given)
    (htaken : taken = taken') (hgiven : ∀ b, given b = given' b) : Triple taken' x given' := by
  intro b l hrun
  rw [← htaken, ← hgiven]
  exact h b l hrun

/-- **What is not touched is kept.** -/
theorem frame (h : Triple taken x given) (kept : Multiset α) :
    Triple (taken + kept) x fun b => given b + kept :=
  fun b l hrun => (h b l hrun).frame kept

end Triple

end

end Resource
