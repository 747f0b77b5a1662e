import Mathlib.Algebra.Order.Floor.Div
import Mathlib.Data.Nat.GCD.Basic
import Gralloc.CInt.Run

/-!
# Rounding up to a multiple

`((value + base - 1) / base) * base` is how a C program rounds a size up to an
alignment. Over unbounded integers it is `CInt.alignUp`, the least multiple of `base`
at or above `value`, and everything a layout proof wants of it is the Galois
connection of the ceiling division (`CInt.alignUp_le_of_dvd`, `CInt.le_alignUp`,
`CInt.dvd_alignUp`).

Over machine integers the expression is three operations, the sum, the quotient and
the product, and the sum is the one that wraps first. `CInt.Arith.alignU32`,
`CInt.Arith.alignI32` and `CInt.Arith.alignU64` are the three of them at the three
widths, in any reading; the specifications below say that the unbounded reading is
`CInt.alignUp`, and that the checked one returns exactly when the sum fits – which,
for a base that divides the modulus, it does as soon as the rounded value fits
(`CInt.add_lt_of_alignUp_lt`).
-/

namespace CInt

/-! ### The exact rounding -/

/-- The least multiple of `b` at or above `v`. -/
def alignUp (v b : ℕ) : ℕ := v ⌈/⌉ b * b

section AlignUp

variable {v w b c m : ℕ}

theorem alignUp_eq (v b : ℕ) : alignUp v b = (v + b - 1) / b * b := rfl

theorem le_alignUp (h : 0 < b) : v ≤ alignUp v b := by
  rw [alignUp, mul_comm]
  exact le_smul_ceilDiv h

theorem le_alignUp_ite (c : Prop) [Decidable c] (h : 0 < b) :
    v ≤ if c then alignUp v b else v := by
  split_ifs
  · exact le_alignUp h
  · exact le_rfl

theorem dvd_alignUp (v b : ℕ) : b ∣ alignUp v b := Dvd.intro_left _ rfl

/-- A common divisor of the base divides the rounded value. -/
theorem dvd_alignUp_of_dvd (h : c ∣ b) (v : ℕ) : c ∣ alignUp v b := h.trans (dvd_alignUp v b)

/-- The rounded value is the *least* multiple. -/
theorem alignUp_le_of_dvd (h : 0 < b) (hm : b ∣ m) (hv : v ≤ m) : alignUp v b ≤ m := by
  obtain ⟨k, rfl⟩ := hm
  rw [alignUp, mul_comm b k]
  exact Nat.mul_le_mul_right _ ((ceilDiv_le_iff_le_mul h).mpr hv)

theorem alignUp_of_dvd (h : 0 < b) (hv : b ∣ v) : alignUp v b = v :=
  le_antisymm (alignUp_le_of_dvd h hv le_rfl) (le_alignUp h)

theorem alignUp_mono (h : 0 < b) (hv : v ≤ w) : alignUp v b ≤ alignUp w b :=
  alignUp_le_of_dvd h (dvd_alignUp w b) (hv.trans (le_alignUp h))

@[simp] theorem alignUp_one (v : ℕ) : alignUp v 1 = v := alignUp_of_dvd one_pos (one_dvd v)

@[simp] theorem zero_alignUp (b : ℕ) : alignUp 0 b = 0 := by simp [alignUp]

theorem alignUp_pos (h : 0 < b) (hv : 0 < v) : 0 < alignUp v b := hv.trans_le (le_alignUp h)

/-- The rounding adds less than one base. -/
theorem alignUp_lt_add (h : 0 < b) : alignUp v b < v + b := by
  have := Nat.div_mul_le_self (v + b - 1) b
  rw [alignUp_eq]
  omega

/-- **Where the base divides the modulus, only the result has to fit.** The sum
`v + b - 1` stays below `m` as soon as the rounded value does. -/
theorem add_lt_of_alignUp_lt (h : 0 < b) (hb : b ∣ m) (hv : alignUp v b < m) :
    v + b - 1 < m := by
  obtain ⟨k, rfl⟩ := hb
  obtain ⟨q, hq⟩ := dvd_alignUp v b
  have hle : v ≤ b * q := hq ▸ le_alignUp h
  have hqk : q + 1 ≤ k := Nat.lt_of_mul_lt_mul_left (hq ▸ hv)
  have := Nat.mul_le_mul_left b hqk
  rw [Nat.mul_add, Nat.mul_one] at this
  omega

/-! ### Whole and started blocks -/

theorem div_le_ceilDiv (h : 0 < b) (v : ℕ) : v / b ≤ v ⌈/⌉ b :=
  Nat.div_le_of_le_mul ((ceilDiv_le_iff_le_mul h).mp le_rfl)

theorem ceilDiv_of_dvd (h : 0 < b) (hv : b ∣ v) : v ⌈/⌉ b = v / b :=
  le_antisymm ((ceilDiv_le_iff_le_mul h).mpr (Nat.mul_div_cancel' hv).ge) (div_le_ceilDiv h v)

theorem div_lt_ceilDiv (h : 0 < b) (hv : ¬b ∣ v) : v / b < v ⌈/⌉ b := by
  rw [lt_iff_not_ge, ceilDiv_le_iff_le_mul h]
  intro hle
  exact hv ⟨v / b, le_antisymm hle (Nat.mul_div_le v b)⟩

theorem ceilDiv_pos_iff (h : 0 < b) : 0 < v ⌈/⌉ b ↔ 0 < v := by
  rw [← not_le, ceilDiv_le_iff_le_mul h, mul_zero, not_le]

/-- Blocks are counted alike in any unit. -/
theorem mul_ceilDiv_mul_left (hc : 0 < c) (hb : 0 < b) (v : ℕ) : c * v ⌈/⌉ (c * b) = v ⌈/⌉ b := by
  refine eq_of_forall_ge_iff fun n => ?_
  rw [ceilDiv_le_iff_le_mul (Nat.mul_pos hc hb), ceilDiv_le_iff_le_mul hb, Nat.mul_assoc,
    Nat.mul_le_mul_left_iff hc]

/-- **A block of `m` and a block of `b`**: `k` of the first are whole numbers of the second
exactly when `k` is a multiple of what `b` does not share with `m`. -/
theorem dvd_mul_iff_div_gcd_dvd (hb : 0 < b) (m k : ℕ) : b ∣ m * k ↔ b / b.gcd m ∣ k := by
  rw [Nat.div_dvd_iff_dvd_mul (Nat.gcd_dvd_left b m) (Nat.gcd_pos_of_pos_left m hb),
    Nat.dvd_gcd_mul_iff_dvd_mul]

/-- **A rectangle is covered by its whole blocks** exactly when it has no other ones: it is
empty, or both sides are multiples of the block's. -/
theorem ceilDiv_mul_le_div_mul_iff {x : ℕ} (hb : 0 < b) (hc : 0 < c) :
    v ⌈/⌉ b * (x ⌈/⌉ c) ≤ v / b * (x / c) ↔ v = 0 ∨ x = 0 ∨ b ∣ v ∧ c ∣ x := by
  constructor
  · intro hle
    by_contra! hne
    obtain ⟨hv, hx, hd⟩ := hne
    have hv' := (ceilDiv_pos_iff hb).mpr (Nat.pos_of_ne_zero hv)
    have hx' := (ceilDiv_pos_iff hc).mpr (Nat.pos_of_ne_zero hx)
    by_cases hbv : b ∣ v
    · exact absurd hle (Nat.mul_lt_mul_of_le_of_lt (div_le_ceilDiv hb v)
        (div_lt_ceilDiv hc (hd hbv)) hv').not_ge
    · exact absurd hle (Nat.mul_lt_mul_of_lt_of_le (div_lt_ceilDiv hb hbv)
        (div_le_ceilDiv hc x) hx').not_ge
  · rintro (rfl | rfl | ⟨hv, hx⟩)
    · simp
    · simp
    · rw [ceilDiv_of_dvd hb hv, ceilDiv_of_dvd hc hx]

end AlignUp

/-! ### The three widths -/

/-- The rounding in `uint32_t`. -/
def Arith.alignU32 (A : Arith) (v : ℤ) (b : ℕ) : Run ℕ := do
  let n ← A.u32 (v + b - 1)
  let q ← udiv n b
  A.u32 (q * b : ℕ)

/-- The rounding in `int`. -/
def Arith.alignI32 (A : Arith) (v b : ℤ) : Run ℤ := do
  let n ← A.i32 (v + b - 1)
  let q ← sdiv n b
  A.i32 (q * b)

/-- The rounding in `uint64_t`. -/
def Arith.alignU64 (A : Arith) (v : ℤ) (b : ℕ) : Run ℕ := do
  let n ← A.u64 (v + b - 1)
  let q ← udiv n b
  A.u64 (q * b : ℕ)

section Approx

variable {A B : Arith}

theorem Arith.Approx.alignU32 (h : A.Approx B) (v : ℤ) (b : ℕ) :
    CInt.Approx (A.alignU32 v b) (B.alignU32 v b) :=
  (h.u32 _).bind fun _ => (Approx.refl _).bind fun _ => h.u32 _

theorem Arith.Approx.alignI32 (h : A.Approx B) (v b : ℤ) :
    CInt.Approx (A.alignI32 v b) (B.alignI32 v b) :=
  (h.i32 _).bind fun _ => (Approx.refl _).bind fun _ => h.i32 _

theorem Arith.Approx.alignU64 (h : A.Approx B) (v : ℤ) (b : ℕ) :
    CInt.Approx (A.alignU64 v b) (B.alignU64 v b) :=
  (h.u64 _).bind fun _ => (Approx.refl _).bind fun _ => h.u64 _

end Approx

/-! ### What the machine returns -/

section Wrapping

/-- **The machine's rounding in `uint32_t`** is a multiple of the base, of the reduced
sum. -/
theorem wrapping_alignU32 (v : ℤ) {b : ℕ} (h : 0 < b) :
    wrapping.alignU32 v b = .ok (((v + b - 1) % 2 ^ 32).toNat / b * b) := by
  have hle := Nat.div_mul_le_self ((v + b - 1) % 2 ^ 32).toNat b
  have hlt := Int.emod_lt_of_pos (v + b - 1) (show (0 : ℤ) < 2 ^ 32 by decide)
  have hu : wrapping.u32 (v + b - 1) = .ok ((v + b - 1) % 2 ^ 32).toNat := rfl
  simp only [Arith.alignU32, hu, ok_bind, udiv_of_pos h, wrapping_u32]
  rw [Nat.mod_eq_of_lt (by omega)]

theorem avoids_wrapping_alignU32 (f : Fault) (v : ℤ) {b : ℕ} (h : 0 < b) :
    Avoids f (wrapping.alignU32 v b) :=
  avoids_of_eq_ok (wrapping_alignU32 v h)

theorem avoids_wrapping_alignU64 (f : Fault) (v : ℤ) {b : ℕ} (h : 0 < b) :
    Avoids f (wrapping.alignU64 v b) :=
  (avoids_wrapping_u64 f _).bind fun _ _ => (avoids_udiv_of_pos h f _).bind fun _ _ =>
    avoids_wrapping_u64 f _

theorem avoids_wrapping_alignI32 (f : Fault) (v : ℤ) {b : ℤ} (h : b ≠ 0) :
    Avoids f (wrapping.alignI32 v b) :=
  (avoids_wrapping_i32 f _).bind fun _ _ => (avoids_sdiv_of_ne h f _).bind fun _ _ =>
    avoids_wrapping_i32 f _

end Wrapping

/-! ### What the checked reading returns -/

section Checked

variable {v b m : ℕ}

private theorem sum_cast (h : 0 < b) (v : ℕ) : (v : ℤ) + b - 1 = (v + b - 1 : ℕ) := by omega

/-- **The checked rounding in `uint32_t`**: the exact one, wherever the sum fits. -/
theorem checked_alignU32_eq_ok (h : 0 < b) :
    checked.alignU32 v b = .ok m ↔ m = alignUp v b ∧ v + b - 1 < 2 ^ 32 := by
  have hle := Nat.div_mul_le_self (v + b - 1) b
  simp only [Arith.alignU32, sum_cast h, bind_eq_ok, checked_u32_eq_ok, udiv_eq_ok, Nat.cast_inj]
  constructor
  · rintro ⟨_, ⟨rfl, hn⟩, _, ⟨-, rfl⟩, rfl, -⟩
    exact ⟨rfl, hn⟩
  · rintro ⟨rfl, hn⟩
    exact ⟨_, ⟨rfl, hn⟩, _, ⟨h, rfl⟩, rfl, hle.trans_lt hn⟩

theorem checked_alignU64_eq_ok (h : 0 < b) :
    checked.alignU64 v b = .ok m ↔ m = alignUp v b ∧ v + b - 1 < 2 ^ 64 := by
  have hle := Nat.div_mul_le_self (v + b - 1) b
  simp only [Arith.alignU64, sum_cast h, bind_eq_ok, checked_u64_eq_ok, udiv_eq_ok, Nat.cast_inj]
  constructor
  · rintro ⟨_, ⟨rfl, hn⟩, _, ⟨-, rfl⟩, rfl, -⟩
    exact ⟨rfl, hn⟩
  · rintro ⟨rfl, hn⟩
    exact ⟨_, ⟨rfl, hn⟩, _, ⟨h, rfl⟩, rfl, hle.trans_lt hn⟩

theorem checked_alignI32_eq_ok {z : ℤ} (h : 0 < b) :
    checked.alignI32 v b = .ok z ↔ z = alignUp v b ∧ v + b - 1 < 2 ^ 31 := by
  have hle := Nat.div_mul_le_self (v + b - 1) b
  have hb : (b : ℤ) ≠ 0 := by omega
  simp only [Arith.alignI32, sum_cast h, bind_eq_ok, checked_i32_eq_ok, sdiv_eq_ok, alignUp_eq]
  constructor
  · rintro ⟨_, ⟨rfl, -, hn⟩, _, ⟨-, rfl⟩, rfl, -⟩
    exact ⟨by push_cast; rfl, by omega⟩
  · rintro ⟨rfl, hn⟩
    refine ⟨_, ⟨rfl, by omega, by omega⟩, _, ⟨hb, rfl⟩, ?_⟩
    rw [← Int.ofNat_tdiv]
    exact ⟨by push_cast; rfl, by omega, by omega⟩

/-! ### As exact runs -/

theorem Exactly.alignU32 (v : ℕ) (h : 0 < b) :
    Exactly (v + b - 1 < 2 ^ 32) True (checked.alignU32 v b) (alignUp v b) :=
  .of_eq_ok_iff fun _ => checked_alignU32_eq_ok h

theorem Exactly.alignU64 (v : ℕ) (h : 0 < b) :
    Exactly (v + b - 1 < 2 ^ 64) True (checked.alignU64 v b) (alignUp v b) :=
  .of_eq_ok_iff fun _ => checked_alignU64_eq_ok h

theorem Exactly.alignI32 (v : ℕ) (h : 0 < b) :
    Exactly (v + b - 1 < 2 ^ 31) True (checked.alignI32 v b) (alignUp v b : ℤ) :=
  .of_eq_ok_iff fun _ => checked_alignI32_eq_ok h

/-- A rounding to a divisor of the modulus only has to fit itself. -/
theorem Exactly.alignU64_of_dvd (v : ℕ) (h : 0 < b) (hd : b ∣ 2 ^ 64) :
    Exactly (alignUp v b < 2 ^ 64) True (checked.alignU64 v b) (alignUp v b) :=
  (Exactly.alignU64 v h).congr
    ⟨add_lt_of_alignUp_lt h hd, fun hlt => (Nat.div_mul_le_self _ _).trans_lt hlt⟩
    (fun _ => Iff.rfl) fun _ _ => rfl

theorem Exactly.alignI32_of_dvd (v : ℕ) (h : 0 < b) (hd : b ∣ 2 ^ 31) :
    Exactly (alignUp v b < 2 ^ 31) True (checked.alignI32 v b) (alignUp v b : ℕ) :=
  (Exactly.alignI32 v h).congr
    ⟨add_lt_of_alignUp_lt h hd, fun hlt => (Nat.div_mul_le_self _ _).trans_lt hlt⟩
    (fun _ => Iff.rfl) fun _ _ => rfl

/-- A rounding under a condition, of a value that fits. -/
theorem Exactly.alignI32_stepIf (c : Prop) [Decidable c] (h : 0 < b) (hd : b ∣ 2 ^ 31)
    (hv : v < 2 ^ 31) :
    Exactly ((if c then alignUp v b else v) < 2 ^ 31) True (CInt.stepIf c (checked.alignI32 v b) v)
      (if c then alignUp v b else v : ℕ) := by
  refine (Exactly.stepIfNat v fun _ => .alignI32_of_dvd v h hd).congr ?_ ?_ ?_
  · split_ifs with hc
    · simp only [hc, true_imp_iff]
    · simp only [hc, false_imp_iff, hv]
  · simp
  · exact fun _ _ => rfl

end Checked

end CInt
