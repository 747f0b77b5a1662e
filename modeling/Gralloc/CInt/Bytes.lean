import Mathlib.Data.List.TakeWhile
import Mathlib.Tactic

/-!
# Words as bytes

A C program that copies a word into an array of bytes, on a machine that keeps the lowest
byte first, writes `CInt.leBytes`; copying the bytes into a word again reads
`CInt.ofLeBytes`. Read after write is the remainder at the width that was written
(`CInt.ofLeBytes_leBytes`), so that a word which fits is what it was; write after read gives
the bytes again (`CInt.leBytes_ofLeBytes`). So do the words of an array, one after the other
(`CInt.ofLeWords_flatMap`).

A string in such an array ends before the first zero (`CInt.cString`).
-/

namespace CInt

/-! ### Words -/

/-- The low `n` bytes of a number, the lowest first. -/
def leBytes : ℕ → ℕ → List (BitVec 8)
  | 0, _ => []
  | n + 1, x => BitVec.ofNat 8 x :: leBytes n (x / 256)

/-- The number that some bytes write, the lowest first. -/
def ofLeBytes : List (BitVec 8) → ℕ
  | [] => 0
  | b :: bs => b.toNat + 256 * ofLeBytes bs

@[simp] theorem length_leBytes (n x : ℕ) : (leBytes n x).length = n := by
  induction n generalizing x with
  | zero => rfl
  | succ n ih => rw [leBytes, List.length_cons, ih]

/-- **Reading after writing**, by induction on the width. -/
theorem ofLeBytes_leBytes (n x : ℕ) : ofLeBytes (leBytes n x) = x % 256 ^ n := by
  induction n generalizing x with
  | zero => rw [pow_zero, Nat.mod_one]; rfl
  | succ n ih =>
    have hb : (BitVec.ofNat 8 x).toNat = x % 256 := BitVec.toNat_ofNat x 8
    rw [leBytes, ofLeBytes, ih, hb, pow_succ', Nat.mod_mul]

/-- A word that fits is read as it was. -/
theorem ofLeBytes_leBytes_of_lt {n x : ℕ} (h : x < 256 ^ n) : ofLeBytes (leBytes n x) = x := by
  rw [ofLeBytes_leBytes, Nat.mod_eq_of_lt h]

theorem ofLeBytes_lt (bs : List (BitVec 8)) : ofLeBytes bs < 256 ^ bs.length := by
  induction bs with
  | nil => exact Nat.one_pos
  | cons b bs ih =>
    have hb := b.isLt
    rw [ofLeBytes, List.length_cons, pow_succ]
    omega

/-- **Writing after reading**, by induction on the bytes. -/
theorem leBytes_ofLeBytes {n : ℕ} {bs : List (BitVec 8)} (h : bs.length = n) :
    leBytes n (ofLeBytes bs) = bs := by
  subst h
  induction bs with
  | nil => rfl
  | cons b bs ih =>
    have hb := b.isLt
    have hlow : BitVec.ofNat 8 (b.toNat + 256 * ofLeBytes bs) = b := by
      apply BitVec.eq_of_toNat_eq
      rw [BitVec.toNat_ofNat]
      omega
    have hhigh : (b.toNat + 256 * ofLeBytes bs) / 256 = ofLeBytes bs := by omega
    rw [List.length_cons, ofLeBytes, leBytes, hlow, hhigh, ih]

/-- The first `n` numbers that some bytes write, in `w` bytes each. -/
def ofLeWords (w : ℕ) : ℕ → List (BitVec 8) → List ℕ
  | 0, _ => []
  | n + 1, bs => ofLeBytes (bs.take w) :: ofLeWords w n (bs.drop w)

/-- **Reading words after writing them**, by induction on the words; what lies behind them is
not read. -/
theorem ofLeWords_flatMap {w : ℕ} {xs : List ℕ} (h : ∀ x ∈ xs, x < 256 ^ w)
    (rest : List (BitVec 8)) :
    ofLeWords w xs.length (xs.flatMap (leBytes w) ++ rest) = xs := by
  induction xs with
  | nil => rfl
  | cons x xs ih =>
    have hx := h x List.mem_cons_self
    rw [List.flatMap_cons, List.append_assoc, List.length_cons, ofLeWords,
      List.take_left' (length_leBytes w x), List.drop_left' (length_leBytes w x),
      ofLeBytes_leBytes_of_lt hx, ih fun y hy => h y (List.mem_cons_of_mem x hy)]

theorem length_flatMap_leBytes (w : ℕ) (xs : List ℕ) :
    (xs.flatMap (leBytes w)).length = w * xs.length := by
  induction xs with
  | nil => rfl
  | cons x xs ih =>
    rw [List.flatMap_cons, List.length_append, length_leBytes, ih, List.length_cons, Nat.mul_succ,
      Nat.add_comm]

/-! ### Strings -/

/-- The characters before the first zero. -/
def cString (s : List (BitVec 8)) : List (BitVec 8) := s.takeWhile (· != 0#8)

section

variable {s t : List (BitVec 8)} {n : ℕ}

theorem ne_zero_of_mem_cString {b : BitVec 8} (h : b ∈ cString s) : b ≠ 0#8 :=
  bne_iff_ne.mp (List.mem_takeWhile_imp (p := (· != 0#8)) h)

/-- A string without zeros is all of it. -/
theorem cString_of_not_mem (h : 0#8 ∉ s) : cString s = s :=
  List.takeWhile_eq_self_iff.mpr fun _ hb => bne_iff_ne.mpr (ne_of_mem_of_not_mem hb h)

/-- What follows a zero is not part of the string. -/
theorem cString_append_zero (h : 0#8 ∉ s) (t : List (BitVec 8)) :
    cString (s ++ 0#8 :: t) = s := by
  have hpos : ∀ b ∈ s, (b != 0#8) = true := fun _ hb => bne_iff_ne.mpr (ne_of_mem_of_not_mem hb h)
  rw [cString, List.takeWhile_append_of_pos hpos, List.takeWhile_cons_of_neg (by decide),
    List.append_nil]

/-- Whoever looks for the zero finds it within the string exactly when there is one. -/
theorem length_cString_append_lt_iff :
    (cString (s ++ t)).length < s.length ↔ 0#8 ∈ s := by
  constructor
  · intro h
    by_contra hno
    have hpos : ∀ b ∈ s, (b != 0#8) = true := fun _ hb =>
      bne_iff_ne.mpr (ne_of_mem_of_not_mem hb hno)
    rw [cString, List.takeWhile_append_of_pos hpos, List.length_append] at h
    omega
  · intro h
    obtain ⟨u, v, rfl, hu⟩ := List.eq_append_cons_of_mem h
    rw [List.append_assoc, List.cons_append, cString_append_zero hu, List.length_append,
      List.length_cons]
    omega

/-- What lies behind an ended string is not part of it. -/
theorem cString_append_of_mem (h : 0#8 ∈ s) (t : List (BitVec 8)) :
    cString (s ++ t) = cString s := by
  obtain ⟨u, v, rfl, hu⟩ := List.eq_append_cons_of_mem h
  rw [List.append_assoc, List.cons_append, cString_append_zero hu, cString_append_zero hu]

/-- `strncpy`: at most `n` characters of a string, and zeros up to `n`. -/
def strncpy (n : ℕ) (s : List (BitVec 8)) : List (BitVec 8) :=
  (cString s).take n ++ List.replicate (n - (cString s).length) 0#8

@[simp] theorem length_strncpy (n : ℕ) (s : List (BitVec 8)) : (strncpy n s).length = n := by
  rw [strncpy, List.length_append, List.length_take, List.length_replicate]
  omega

/-- **A string that was copied and ended** is the one it was, cut off at `n`. -/
theorem cString_strncpy_append (n : ℕ) (s t : List (BitVec 8)) :
    cString (strncpy n s ++ 0#8 :: t) = (cString s).take n := by
  have hne : 0#8 ∉ (cString s).take n := fun h =>
    ne_zero_of_mem_cString (List.mem_of_mem_take h) rfl
  have hzero : ∃ u, List.replicate (n - (cString s).length) 0#8 ++ 0#8 :: t = 0#8 :: u := by
    cases n - (cString s).length with
    | zero => exact ⟨t, rfl⟩
    | succ k => exact ⟨List.replicate k 0#8 ++ 0#8 :: t, rfl⟩
  obtain ⟨u, hu⟩ := hzero
  rw [strncpy, List.append_assoc, hu, cString_append_zero hne]

/-- Nothing is lost exactly when the string is short and has no zero in it. -/
theorem take_cString_eq_self_iff : (cString s).take n = s ↔ s.length ≤ n ∧ 0#8 ∉ s := by
  constructor
  · intro h
    have hlen : s.length ≤ n := by
      rw [← h]
      exact List.length_take_le _ _
    refine ⟨hlen, fun hs => ?_⟩
    rw [← h] at hs
    exact ne_zero_of_mem_cString (List.mem_of_mem_take hs) rfl
  · rintro ⟨hlen, h⟩
    rw [cString_of_not_mem h, List.take_of_length_le hlen]

end

end CInt
