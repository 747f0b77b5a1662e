import Mathlib.Tactic

/-!
# Sums and differences of signed words

Signed words wrap around. What a program can learn from a wrapped result, by tests for a sign
alone, is whether the result is the one over the integers: of two words that are not negative,
a sum that is not negative is exact (`CInt.toInt_add_of_nonneg`), and a difference is always
(`CInt.toInt_sub_of_nonneg`).

So the interval that starts at a word and has a length can be checked against a bound with
wrapping arithmetic (`CInt.checksLength_iff`), and so can the one between two words
(`CInt.checksEnd_iff`).
-/

namespace CInt

section

variable {n : ℕ} {x y : BitVec n}

/-- Twice a word stays below the number of words. -/
theorem two_mul_toInt_lt_cast (x : BitVec n) : 2 * x.toInt < ((2 ^ n : ℕ) : ℤ) := by
  push_cast
  exact BitVec.two_mul_toInt_lt

/-- A sum that kept its sign is exact. -/
theorem toInt_add_of_nonneg (hx : 0 ≤ x.toInt) (hy : 0 ≤ y.toInt) (h : 0 ≤ (x + y).toInt) :
    (x + y).toInt = x.toInt + y.toInt := by
  have hx' := two_mul_toInt_lt_cast x
  have hy' := two_mul_toInt_lt_cast y
  rw [BitVec.toInt_add] at h ⊢
  refine Int.bmod_eq_of_le_mul_two (by omega) ?_
  -- a sum that is too large has wrapped to a negative one
  by_contra hlarge
  rw [← Int.sub_bmod_right, Int.bmod_eq_of_le_mul_two (by omega) (by omega)] at h
  omega

/-- A difference cannot be too large. -/
theorem toInt_sub_of_nonneg (hx : 0 ≤ x.toInt) (hy : 0 ≤ y.toInt) :
    (y - x).toInt = y.toInt - x.toInt := by
  have hx' := two_mul_toInt_lt_cast x
  have hy' := two_mul_toInt_lt_cast y
  rw [BitVec.toInt_sub]
  exact Int.bmod_eq_of_le_mul_two (by omega) (by omega)

variable {start length : BitVec n} {bound : ℤ}

/-- **An interval with a length**, checked by the signs and by the wrapped end. -/
theorem checksLength_iff (hb : 2 * bound < ((2 ^ n : ℕ) : ℤ)) :
    (0 ≤ start.toInt ∧ 0 ≤ length.toInt ∧ 0 ≤ (start + length).toInt ∧
        (start + length).toInt ≤ bound) ↔
      0 ≤ start.toInt ∧ 0 ≤ length.toInt ∧ start.toInt + length.toInt ≤ bound := by
  refine and_congr_right fun hs => and_congr_right fun hl => ⟨?_, fun hle => ?_⟩
  · rintro ⟨hend, hle⟩
    rwa [← toInt_add_of_nonneg hs hl hend]
  · have hexact : (start + length).toInt = start.toInt + length.toInt := by
      rw [BitVec.toInt_add]
      exact Int.bmod_eq_of_le_mul_two (by omega) (by omega)
    rw [hexact]
    exact ⟨add_nonneg hs hl, hle⟩

/-- **An interval between two words**, checked by its wrapped length, to which the start was
added again. A negative end is one that the checks see. -/
theorem checksEnd_iff {stop : BitVec n} :
    (0 ≤ start.toInt ∧ 0 ≤ (stop - start).toInt ∧ 0 ≤ (start + (stop - start)).toInt ∧
        (start + (stop - start)).toInt ≤ bound) ↔
      0 ≤ start.toInt ∧ 0 ≤ stop.toInt - start.toInt ∧ stop.toInt ≤ bound := by
  rw [BitVec.add_comm, BitVec.sub_add_cancel]
  refine and_congr_right fun hs => ⟨?_, ?_⟩
  · rintro ⟨hlen, hstop, hle⟩
    exact ⟨by rwa [← toInt_sub_of_nonneg hs hstop], hle⟩
  · rintro ⟨hlen, hle⟩
    have hstop : 0 ≤ stop.toInt := by omega
    exact ⟨by rwa [toInt_sub_of_nonneg hs hstop], hstop, hle⟩

end

end CInt
