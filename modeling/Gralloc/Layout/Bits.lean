import Mathlib

/-!
# Numbers in a memory

A memory is a row of bits, and a number is kept in a part of it, lowest bit first
(`Layout.Bits.load`, `Layout.Bits.store`). What is stored is what is loaded, cut to the size of the
part (`Layout.Bits.load_store`), and a store has no effect on parts that do not meet its own
(`Layout.Bits.load_store_of_disjoint`).
-/

namespace Layout

/-- A memory, bit by bit. -/
abbrev Bits : Type := ℤ → Bool

namespace Bits

variable {m m' : Bits} {start size start' size' : ℤ} {v : ℕ}

/-- **The number in a part** of a memory. -/
def load (m : Bits) (start size : ℤ) : ℕ := Nat.ofBits fun k : Fin size.toNat => m (start + k)

/-- **A number is put** in a part of a memory; bits for which there is no room are lost. -/
def store (m : Bits) (start size : ℤ) (v : ℕ) : Bits := fun b =>
  if start ≤ b ∧ b < start + size then v.testBit (b - start).toNat else m b

theorem store_of_mem {b : ℤ} (hb : b ∈ Set.Ico start (start + size)) :
    store m start size v b = v.testBit (b - start).toNat := if_pos hb

theorem store_of_notMem {b : ℤ} (hb : b ∉ Set.Ico start (start + size)) :
    store m start size v b = m b := if_neg hb

/-- The bits of a part. -/
theorem add_mem_part (k : Fin size.toNat) : start + k ∈ Set.Ico start (start + size) :=
  ⟨by omega, by omega⟩

/-- A load looks at its own part only. -/
theorem load_congr (h : Set.EqOn m m' (Set.Ico start (start + size))) :
    load m start size = load m' start size := by
  rw [load, load]
  congr 1
  funext k
  exact h (add_mem_part k)

/-- **What was stored is loaded**, as far as there is room for it. -/
theorem load_store : load (store m start size v) start size = v % 2 ^ size.toNat := by
  rw [load, ← Nat.ofBits_testBit]
  congr 1
  funext k
  have hk : start + k - start = k := by omega
  rw [store_of_mem (add_mem_part k), hk, Int.toNat_natCast]

/-- **A store somewhere else** changes nothing. -/
theorem load_store_of_disjoint
    (h : Disjoint (Set.Ico start (start + size)) (Set.Ico start' (start' + size'))) :
    load (store m start' size' v) start size = load m start size :=
  load_congr fun _ hb => store_of_notMem (Set.disjoint_left.mp h hb)

end Bits

end Layout
