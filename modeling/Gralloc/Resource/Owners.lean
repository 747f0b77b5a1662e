import Mathlib.Data.Set.Insert
import Mathlib.Logic.Function.Basic

/-!
# Resources and their owners

A table holds owners, each under a key, and `own b` lists the resources of an owner `b`. The
resources that are held are *owned* (`Resource.Owned`) if each of them is listed once, by one of
the owners, and the owners list no others: then nothing leaks, and the end of an owner takes
nothing away from another.

An owner can be added, removed with its resources, or changed, as long as it takes nothing that
is held by another (`Resource.Owned.replace`).
-/

namespace Resource

variable {κ α β : Type*}

/-- The resources of the owner under a key, if there is one. -/
def ownedAt (own : β → List α) (table : κ → Option β) (k : κ) : List α := (table k).elim [] own

/-- **What is held is owned**: once, by one of the owners. -/
structure Owned (own : β → List α) (table : κ → Option β) (held : Set α) : Prop where
  nodup : ∀ k, (ownedAt own table k).Nodup
  eq_of_mem : ∀ k k' a, a ∈ ownedAt own table k → a ∈ ownedAt own table k' → k = k'
  mem_held_iff : ∀ a, a ∈ held ↔ ∃ k, a ∈ ownedAt own table k

section

variable {own : β → List α} {table : κ → Option β} {held : Set α} {k : κ} {b : β}

theorem ownedAt_of_some (h : table k = some b) : ownedAt own table k = own b := by
  rw [ownedAt, h, Option.elim_some]

theorem ownedAt_of_none (h : table k = none) : ownedAt own table k = [] := by
  rw [ownedAt, h, Option.elim_none]

/-- No resources without owners. -/
theorem Owned.eq_empty (h : Owned own table held) (hnone : ∀ k, table k = none) : held = ∅ := by
  refine Set.eq_empty_of_forall_notMem fun a ha => ?_
  obtain ⟨k, hk⟩ := (h.mem_held_iff a).mp ha
  rw [ownedAt_of_none (hnone k)] at hk
  exact List.not_mem_nil hk

theorem Owned.empty (own : β → List α) : Owned own (fun _ : κ => none) ∅ where
  nodup _ := List.nodup_nil
  eq_of_mem _ _ _ ha _ := absurd ha List.not_mem_nil
  mem_held_iff a := by
    refine iff_of_false (Set.notMem_empty a) ?_
    rintro ⟨k, hk⟩
    exact List.not_mem_nil hk

theorem Owned.mem_held (h : Owned own table held) {a : α} (ha : a ∈ ownedAt own table k) :
    a ∈ held :=
  (h.mem_held_iff a).mpr ⟨k, ha⟩

variable [DecidableEq κ]

theorem ownedAt_update_self (o : Option β) :
    ownedAt own (Function.update table k o) k = o.elim [] own := by
  rw [ownedAt, Function.update_self]

theorem ownedAt_update_of_ne {k' : κ} (h : k' ≠ k) (o : Option β) :
    ownedAt own (Function.update table k o) k' = ownedAt own table k' := by
  rw [ownedAt, Function.update_of_ne h, ownedAt]

/-- **The table is changed at one key**, and with it what is held: what the new owner has was
held by the old one, or by none. -/
theorem Owned.replace (h : Owned own table held) (k : κ) {o : Option β} {held' : Set α}
    (hnodup : (o.elim [] own).Nodup)
    (hnew : ∀ a ∈ o.elim [] own, a ∈ ownedAt own table k ∨ a ∉ held)
    (hheld : ∀ a, a ∈ held' ↔ a ∈ o.elim [] own ∨ a ∈ held ∧ a ∉ ownedAt own table k) :
    Owned own (Function.update table k o) held' := by
  have hother {k' : κ} {a : α} (hne : k' ≠ k) (ha : a ∈ ownedAt own table k') :
      a ∉ o.elim [] own := by
    intro hmem
    rcases hnew a hmem with hk | hn
    · exact hne (h.eq_of_mem k' k a ha hk)
    · exact hn (h.mem_held ha)
  refine ⟨fun k' => ?_, fun k₁ k₂ a h₁ h₂ => ?_, fun a => (hheld a).trans ?_⟩
  · rcases eq_or_ne k' k with heq | hne
    · rwa [heq, ownedAt_update_self]
    · rw [ownedAt_update_of_ne hne]
      exact h.nodup k'
  · rcases eq_or_ne k₁ k with heq₁ | hne₁ <;> rcases eq_or_ne k₂ k with heq₂ | hne₂
    · rw [heq₁, heq₂]
    · rw [heq₁, ownedAt_update_self] at h₁
      rw [ownedAt_update_of_ne hne₂] at h₂
      exact absurd h₁ (hother hne₂ h₂)
    · rw [ownedAt_update_of_ne hne₁] at h₁
      rw [heq₂, ownedAt_update_self] at h₂
      exact absurd h₂ (hother hne₁ h₁)
    · rw [ownedAt_update_of_ne hne₁] at h₁
      rw [ownedAt_update_of_ne hne₂] at h₂
      exact h.eq_of_mem k₁ k₂ a h₁ h₂
  · constructor
    · rintro (ha | ⟨ha, hk⟩)
      · exact ⟨k, by rwa [ownedAt_update_self]⟩
      · obtain ⟨k', hk'⟩ := (h.mem_held_iff a).mp ha
        have hne : k' ≠ k := fun heq => hk (heq ▸ hk')
        exact ⟨k', by rwa [ownedAt_update_of_ne hne]⟩
    · rintro ⟨k', ha⟩
      rcases eq_or_ne k' k with heq | hne
      · rw [heq, ownedAt_update_self] at ha
        exact Or.inl ha
      · rw [ownedAt_update_of_ne hne] at ha
        exact Or.inr ⟨h.mem_held ha, fun hk => hne (h.eq_of_mem k' k a ha hk)⟩

end

end Resource
