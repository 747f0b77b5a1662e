import Mathlib.Tactic.Common

/-!
# Attempts in an order

Something is asked for in several ways, one after the other, until an attempt is granted. The
reply to an attempt may depend on how many came before it. `Resource.firstGranted` is the attempt
that was granted, with what it gave; what it says of all the replies is
`Resource.firstGranted_eq_some_iff`, and that attempts follow each other,
`Resource.firstGranted_append`.

Where the reply depends on the attempt alone, any reply may be the first one, in some order
(`Resource.exists_perm_findSome?`).
-/

namespace Resource

variable {α β : Type*} (reply : ℕ → α → Option β)

/-- **The first attempt that is granted**, where `k` is the number of the first one. -/
def firstGranted : ℕ → List α → Option (α × β)
  | _, [] => none
  | k, a :: as =>
    match reply k a with
    | some b => some (a, b)
    | none => firstGranted (k + 1) as

variable {reply} {k : ℕ} {a : α} {b : β} {as as' : List α}

theorem firstGranted_cons_of_some (h : reply k a = some b) :
    firstGranted reply k (a :: as) = some (a, b) := by
  rw [firstGranted, h]

theorem firstGranted_cons_of_none (h : reply k a = none) :
    firstGranted reply k (a :: as) = firstGranted reply (k + 1) as := by
  rw [firstGranted, h]

/-- **Attempts after others**: their numbers follow. -/
theorem firstGranted_append :
    firstGranted reply k (as ++ as') =
      (firstGranted reply k as).or (firstGranted reply (k + as.length) as') := by
  induction as generalizing k with
  | nil => rfl
  | cons a as ih =>
    rw [List.cons_append]
    cases h : reply k a with
    | some b => rw [firstGranted_cons_of_some h, firstGranted_cons_of_some h, Option.some_or]
    | none =>
      rw [firstGranted_cons_of_none h, firstGranted_cons_of_none h, ih, List.length_cons,
        Nat.add_assoc, Nat.add_comm 1]

/-- **An attempt is granted** when all before it were refused. -/
theorem firstGranted_eq_some_iff :
    firstGranted reply k as = some (a, b) ↔
      ∃ i, as[i]? = some a ∧ reply (k + i) a = some b ∧
        ∀ j < i, ∀ a', as[j]? = some a' → reply (k + j) a' = none := by
  induction as generalizing k with
  | nil =>
    refine iff_of_false (Option.some_ne_none _).symm ?_
    rintro ⟨i, h, -⟩
    cases h
  | cons a₀ as ih =>
    cases h₀ : reply k a₀ with
    | some b₀ =>
      rw [firstGranted_cons_of_some h₀, Option.some_inj, Prod.mk.injEq]
      constructor
      · rintro ⟨rfl, rfl⟩
        exact ⟨0, rfl, h₀, fun j hj => absurd hj (Nat.not_lt_zero j)⟩
      · rintro ⟨i, hi, hb, hbefore⟩
        -- a later attempt would come after one that was granted
        cases i with
        | zero =>
          cases hi
          exact ⟨rfl, Option.some_inj.mp (h₀.symm.trans hb)⟩
        | succ i =>
          have hnone := hbefore 0 (Nat.succ_pos i) a₀ rfl
          rw [Nat.add_zero, h₀] at hnone
          cases hnone
    | none =>
      rw [firstGranted_cons_of_none h₀, ih]
      constructor
      · rintro ⟨i, hi, hb, hbefore⟩
        refine ⟨i + 1, hi, ?_, fun j hj a' ha' => ?_⟩
        · rwa [Nat.add_comm i, ← Nat.add_assoc]
        · cases j with
          | zero =>
            cases ha'
            exact h₀
          | succ j =>
            have hnone := hbefore j (by omega) a' ha'
            rwa [Nat.add_assoc, Nat.add_comm 1] at hnone
      · rintro ⟨i, hi, hb, hbefore⟩
        cases i with
        | zero =>
          cases hi
          rw [Nat.add_zero, h₀] at hb
          cases hb
        | succ i =>
          refine ⟨i, hi, ?_, fun j hj a' ha' => ?_⟩
          · rwa [Nat.add_comm i, ← Nat.add_assoc] at hb
          · have hnone := hbefore (j + 1) (by omega) a' ha'
            rwa [Nat.add_comm j, ← Nat.add_assoc] at hnone

/-! ### In any order -/

section

variable {f : α → Option β} {x : β} {l : List α}

/-- **Any reply may be the first**, in some order. -/
theorem exists_perm_findSome? (ha : a ∈ l) (hx : f a = some x) :
    ∃ l' : List α, l'.Perm l ∧ l'.findSome? f = some x := by
  obtain ⟨s, t, rfl⟩ := List.append_of_mem ha
  refine ⟨a :: (s ++ t), List.perm_middle.symm, ?_⟩
  rw [List.findSome?_cons, hx]

end

end Resource
