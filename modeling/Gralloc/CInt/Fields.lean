import Mathlib.Tactic

/-!
# Words made of fields

A program that packs several values into one word gives each of them a mask. A value *fits* a
mask if it has no bit outside (`CInt.FitsIn`). Values that fit masks which do not meet are packed
by a union, and each is read back under its own mask (`CInt.FitsIn.or_and`), whatever the others
are.
-/

namespace CInt

variable {w : ℕ} {x y m n : BitVec w}

/-- The word has no bit outside a mask. -/
def FitsIn (x m : BitVec w) : Prop := x &&& m = x

instance : Decidable (FitsIn x m) := inferInstanceAs (Decidable (_ = _))

theorem fitsIn_zero (m : BitVec w) : FitsIn 0#w m := BitVec.zero_and

theorem fitsIn_and (x m : BitVec w) : FitsIn (x &&& m) m := by
  rw [FitsIn, BitVec.and_assoc, BitVec.and_self]

/-- The test that a program makes. -/
theorem fitsIn_iff_and_not : FitsIn x m ↔ x &&& ~~~m = 0#w := by
  constructor
  · intro h
    rw [← h]
    ext i hi
    simp only [BitVec.getElem_and, BitVec.getElem_not, BitVec.getElem_zero]
    cases m[i] <;> simp
  · intro h
    ext i hi
    have hbit : (x &&& ~~~m)[i] = (0#w)[i] := by rw [h]
    simp only [BitVec.getElem_and, BitVec.getElem_not, BitVec.getElem_zero] at hbit ⊢
    revert hbit
    cases x[i] <;> cases m[i] <;> simp

namespace FitsIn

theorem or (hx : FitsIn x m) (hy : FitsIn y m) : FitsIn (x ||| y) m := by
  rw [FitsIn, BitVec.and_or_distrib_right, hx, hy]

/-- Nothing is left of a value under a mask that does not meet its own. -/
theorem and_eq_zero (hx : FitsIn x m) (h : m &&& n = 0#w) : x &&& n = 0#w := by
  rw [← hx, BitVec.and_assoc, h, BitVec.and_zero]

/-- **Reading a field** of a word, next to anything that leaves its mask free. -/
theorem or_and (hx : FitsIn x m) (hy : y &&& m = 0#w) : (x ||| y) &&& m = x := by
  rw [BitVec.and_or_distrib_right, hx, hy, BitVec.or_zero]

end FitsIn

end CInt
