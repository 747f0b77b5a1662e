import Mathlib.Tactic

/-!
# C integer arithmetic, as a parameter

A C function over fixed-width integers is one text with several readings: the
machine's, where every operation is reduced to the width of its type; the one its
author had in mind, where integers are unbounded; and the checked one, which stops
at the first operation whose result leaves its type. This file makes the reading a
parameter, `CInt.Arith`, so that a function is transcribed once and the three
readings are three instances of the same definition:

* `CInt.wrapping` – two's complement reduction at every operation;
* `CInt.unbounded` – no reduction at all;
* `CInt.checked` – the exact value where it fits, `CInt.Fault.overflow` where it does
  not.

A computation is a `CInt.Run`: it returns, or it stops at a failed assertion, at a
division by zero or – in the checked reading only – at an overflow. Assertions are taken
as compiled in (`CInt.assert`); a build that defines `NDEBUG` has none.

The one theorem that connects the readings is that the checked one is *below* the
two others in the flat order whose bottom is the overflow (`CInt.Approx`): a function
built from the operations of this file by `bind` inherits
`CInt.checked_approx_wrapping` and `CInt.checked_approx_unbounded` step by step, so a
run that never overflows is at once the machine's run and the exact one.
-/

namespace CInt

/-- What can stop a computation over C integers. -/
inductive Fault where
  /-- An `assert` whose condition is false. -/
  | assertion
  /-- A division or a remainder by zero. -/
  | divByZero
  /-- A result outside the range of its type, reported by the checked reading only. -/
  | overflow
  deriving DecidableEq, Repr

/-- A computation over C integers: a value, or the fault that stopped it. -/
abbrev Run (α : Type) : Type := Except Fault α

/-! ### Stepping through a run -/

section Bind

variable {α β : Type}

/-- A run that returns went through its first step. -/
theorem bind_eq_ok {x : Run α} {k : α → Run β} {b : β} :
    x >>= k = .ok b ↔ ∃ a, x = .ok a ∧ k a = .ok b := by
  cases x with
  | error f => exact ⟨fun h => (nomatch h), fun ⟨_, h, _⟩ => (nomatch h)⟩
  | ok a => exact ⟨fun h => ⟨a, rfl, h⟩, fun ⟨_, h, hk⟩ => by cases h; exact hk⟩

@[simp] theorem ok_bind (a : α) (k : α → Run β) : (Except.ok a : Run α) >>= k = k a := rfl

@[simp] theorem error_bind (f : Fault) (k : α → Run β) :
    (Except.error f : Run α) >>= k = .error f := rfl

theorem map_bind {γ : Type} (x : Run α) (k : α → Run β) (g : β → γ) :
    (x >>= k).map g = x >>= fun a => (k a).map g := by
  cases x <;> rfl

theorem map_eq_ok {x : Run α} {g : α → β} {b : β} :
    x.map g = .ok b ↔ ∃ a, x = .ok a ∧ g a = b := by
  cases x <;> simp [Except.map]

/-- Two runs whose first steps and whose rests agree. -/
theorem bind_congr_run {x y : Run α} {k l : α → Run β} (h : x = y) (hk : ∀ a, k a = l a) :
    x >>= k = y >>= l := by
  rw [h, funext hk]

/-- A run that stops, stopped in its first step or in the rest. -/
theorem bind_eq_error {x : Run α} {k : α → Run β} {f : Fault} :
    x >>= k = .error f ↔ x = .error f ∨ ∃ a, x = .ok a ∧ k a = .error f := by
  cases x with
  | error g =>
    constructor
    · intro h
      cases h
      exact Or.inl rfl
    · rintro (h | ⟨a, h, -⟩)
      · cases h
        rfl
      · exact nomatch h
  | ok a =>
    refine ⟨fun h => Or.inr ⟨a, rfl, h⟩, ?_⟩
    rintro (h | ⟨b, h, hk⟩)
    · exact nomatch h
    · cases h
      exact hk

/-- **A run that does not stop at `f`**, the form in which “never divides by zero” or
“never overflows” is stated and composed. -/
def Avoids (f : Fault) (x : Run α) : Prop := x ≠ .error f

theorem avoids_ok (f : Fault) (a : α) : Avoids f (.ok a : Run α) := fun h => nomatch h

theorem avoids_of_eq_ok {f : Fault} {x : Run α} {a : α} (h : x = .ok a) : Avoids f x :=
  h ▸ avoids_ok f a

/-- **The composition rule**: a run avoids a fault when its first step does, and so
does the rest on every value the first step can return. -/
theorem Avoids.bind {f : Fault} {x : Run α} {k : α → Run β} (hx : Avoids f x)
    (hk : ∀ a, x = .ok a → Avoids f (k a)) : Avoids f (x >>= k) := by
  intro h
  rcases bind_eq_error.mp h with h | ⟨a, ha, h⟩
  · exact hx h
  · exact hk a ha h

/-- The rest of a run that avoids a fault avoids it. -/
theorem Avoids.of_bind {f : Fault} {x : Run α} {k : α → Run β} (h : Avoids f (x >>= k)) {a : α}
    (ha : x = .ok a) : Avoids f (k a) := by
  rw [ha] at h
  exact h

/-- The first step of a run that avoids a fault avoids it. -/
theorem Avoids.fst {f : Fault} {x : Run α} {k : α → Run β} (h : Avoids f (x >>= k)) :
    Avoids f x := by
  rintro rfl
  exact h rfl

/-- A run that avoids every fault returns. -/
theorem exists_ok_of_avoids {x : Run α} (h : ∀ f, Avoids f x) : ∃ a, x = .ok a := by
  cases x with
  | error f => exact absurd rfl (h f)
  | ok a => exact ⟨a, rfl⟩

end Bind

/-! ### Division and assertion -/

/-- Unsigned division. -/
def udiv (a b : ℕ) : Run ℕ := if b = 0 then .error .divByZero else .ok (a / b)

/-- Unsigned remainder. -/
def umod (a b : ℕ) : Run ℕ := if b = 0 then .error .divByZero else .ok (a % b)

/-- Signed division, truncating towards zero. -/
def sdiv (a b : ℤ) : Run ℤ := if b = 0 then .error .divByZero else .ok (a.tdiv b)

/-- An assertion that is compiled in. -/
def assert (p : Prop) [Decidable p] : Run Unit := if p then .ok () else .error .assertion

/-- A step taken under a condition; otherwise the value `a` stands. -/
def stepIf {α : Type} (c : Prop) [Decidable c] (x : Run α) (a : α) : Run α :=
  if c then x else .ok a

theorem stepIf_of {α : Type} {c : Prop} [Decidable c] (h : c) (x : Run α) (a : α) :
    stepIf c x a = x := if_pos h

theorem stepIf_of_not {α : Type} {c : Prop} [Decidable c] (h : ¬c) (x : Run α) (a : α) :
    stepIf c x a = .ok a := if_neg h

theorem udiv_of_pos {a b : ℕ} (h : 0 < b) : udiv a b = .ok (a / b) := if_neg h.ne'

theorem umod_of_pos {a b : ℕ} (h : 0 < b) : umod a b = .ok (a % b) := if_neg h.ne'

@[simp] theorem umod_zero (a : ℕ) : umod a 0 = .error .divByZero := rfl

theorem assert_of {p : Prop} [Decidable p] (h : p) : assert p = .ok () := if_pos h

theorem assert_of_not {p : Prop} [Decidable p] (h : ¬p) : assert p = .error .assertion := if_neg h

theorem assert_eq_ok {p : Prop} [Decidable p] {u : Unit} : assert p = .ok u ↔ p := by
  unfold assert
  split_ifs with h
  · exact ⟨fun _ => h, fun _ => rfl⟩
  · exact ⟨fun hc => (nomatch hc), fun hp => absurd hp h⟩

/-- A guarded value is returned where the guard lets it through. -/
theorem ite_error_eq_ok {α : Type} {c : Prop} [Decidable c] {f : Fault} {a b : α} :
    (if c then .error f else .ok a : Run α) = .ok b ↔ ¬c ∧ a = b := by
  split_ifs with h
  · exact ⟨fun hb => (nomatch hb), fun hb => absurd h hb.1⟩
  · exact ⟨fun hb => ⟨h, Except.ok.inj hb⟩, fun hb => congrArg _ hb.2⟩

theorem udiv_eq_ok {a b q : ℕ} : udiv a b = .ok q ↔ 0 < b ∧ a / b = q := by
  rw [Nat.pos_iff_ne_zero]
  exact ite_error_eq_ok

theorem umod_eq_ok {a b r : ℕ} : umod a b = .ok r ↔ 0 < b ∧ a % b = r := by
  rw [Nat.pos_iff_ne_zero]
  exact ite_error_eq_ok

theorem sdiv_eq_ok {a b q : ℤ} : sdiv a b = .ok q ↔ b ≠ 0 ∧ a.tdiv b = q := ite_error_eq_ok

/-- A guard stops at its own fault only. -/
theorem avoids_ite_error {α : Type} {f g : Fault} (hf : f ≠ g) (c : Prop) [Decidable c] (a : α) :
    Avoids f (if c then .error g else .ok a : Run α) := by
  split_ifs
  · exact fun h => hf (Except.error.inj h).symm
  · exact avoids_ok f a

theorem avoids_udiv {f : Fault} (hf : f ≠ .divByZero) (a b : ℕ) : Avoids f (udiv a b) :=
  avoids_ite_error hf _ _

theorem avoids_umod {f : Fault} (hf : f ≠ .divByZero) (a b : ℕ) : Avoids f (umod a b) :=
  avoids_ite_error hf _ _

theorem avoids_assert {f : Fault} (hf : f ≠ .assertion) (p : Prop) [Decidable p] :
    Avoids f (assert p) := by
  unfold assert
  split_ifs
  · exact avoids_ok f _
  · exact fun h => hf (Except.error.inj h).symm

theorem Avoids.ite {α : Type} {f : Fault} {p : Prop} [Decidable p] {x y : Run α}
    (hx : p → Avoids f x) (hy : ¬p → Avoids f y) : Avoids f (if p then x else y) := by
  split_ifs with hp
  · exact hx hp
  · exact hy hp

theorem Avoids.stepIf {α : Type} {f : Fault} {p : Prop} [Decidable p] {x : Run α} (a : α)
    (hx : p → Avoids f x) : Avoids f (stepIf p x a) :=
  .ite hx fun _ => avoids_ok f a

theorem avoids_udiv_of_pos {b : ℕ} (h : 0 < b) (f : Fault) (a : ℕ) : Avoids f (udiv a b) :=
  avoids_of_eq_ok (udiv_of_pos h)

theorem avoids_umod_of_pos {b : ℕ} (h : 0 < b) (f : Fault) (a : ℕ) : Avoids f (umod a b) :=
  avoids_of_eq_ok (umod_of_pos h)

theorem avoids_sdiv_of_ne {b : ℤ} (h : b ≠ 0) (f : Fault) (a : ℤ) : Avoids f (sdiv a b) :=
  avoids_of_eq_ok (if_neg h)

/-! ### The readings -/

/-- A reading of C integer arithmetic: what becomes of an exact result that is stored
in a `uint32_t`, an `int` or a 64-bit unsigned type. -/
structure Arith where
  /-- Storing in a `uint32_t`. -/
  u32 : ℤ → Run ℕ
  /-- Storing in an `int`. -/
  i32 : ℤ → Run ℤ
  /-- Storing in a `uint64_t` or a `size_t`. -/
  u64 : ℤ → Run ℕ

/-- **The machine's reading**: two's complement reduction. -/
def wrapping : Arith where
  u32 x := .ok (x % 2 ^ 32).toNat
  i32 x := .ok (Int.bmod x (2 ^ 32))
  u64 x := .ok (x % 2 ^ 64).toNat

/-- **The exact reading**: integers are unbounded. -/
def unbounded : Arith where
  u32 x := .ok x.toNat
  i32 x := .ok x
  u64 x := .ok x.toNat

/-- **The checked reading**: exact, and stopped at the first result that does not fit
its type. -/
def checked : Arith where
  u32 x := if 0 ≤ x ∧ x < 2 ^ 32 then .ok x.toNat else .error .overflow
  i32 x := if -2 ^ 31 ≤ x ∧ x < 2 ^ 31 then .ok x else .error .overflow
  u64 x := if 0 ≤ x ∧ x < 2 ^ 64 then .ok x.toNat else .error .overflow

section Readings

@[simp] theorem wrapping_u32 (n : ℕ) : wrapping.u32 n = .ok (n % 2 ^ 32) := by
  simp only [wrapping]
  congr 1

/-- The machine never stops at a store. -/
theorem avoids_wrapping_u32 (f : Fault) (x : ℤ) : Avoids f (wrapping.u32 x) := avoids_ok f _

theorem avoids_wrapping_i32 (f : Fault) (x : ℤ) : Avoids f (wrapping.i32 x) := avoids_ok f _

theorem avoids_wrapping_u64 (f : Fault) (x : ℤ) : Avoids f (wrapping.u64 x) := avoids_ok f _

theorem checked_u32_eq_ok {x : ℤ} {m : ℕ} : checked.u32 x = .ok m ↔ x = m ∧ m < 2 ^ 32 := by
  simp only [checked]
  split_ifs with h
  · constructor
    · intro hm
      cases hm
      omega
    · rintro ⟨rfl, -⟩
      rw [Int.toNat_natCast]
  · exact ⟨fun hc => (nomatch hc), fun ⟨hx, hm⟩ => absurd ⟨by omega, by omega⟩ h⟩

theorem checked_u64_eq_ok {x : ℤ} {m : ℕ} : checked.u64 x = .ok m ↔ x = m ∧ m < 2 ^ 64 := by
  simp only [checked]
  split_ifs with h
  · constructor
    · intro hm
      cases hm
      omega
    · rintro ⟨rfl, -⟩
      rw [Int.toNat_natCast]
  · exact ⟨fun hc => (nomatch hc), fun ⟨hx, hm⟩ => absurd ⟨by omega, by omega⟩ h⟩

theorem checked_i32_eq_ok {x y : ℤ} :
    checked.i32 x = .ok y ↔ x = y ∧ -2 ^ 31 ≤ x ∧ x < 2 ^ 31 := by
  simp only [checked]
  split_ifs with h
  · exact ⟨fun hy => ⟨Except.ok.inj hy, h⟩, fun ⟨hy, _⟩ => congrArg _ hy⟩
  · exact ⟨fun hc => (nomatch hc), fun ⟨_, hx⟩ => absurd hx h⟩

end Readings

/-! ### The checked reading approximates the others -/

section Approx

variable {α β : Type}

/-- **The flat order whose bottom is the overflow**: `x` overflows, or it is `y`. -/
def Approx (x y : Run α) : Prop := x = .error .overflow ∨ x = y

theorem Approx.refl (x : Run α) : Approx x x := Or.inr rfl

/-- Where the smaller run does not overflow, the two are one. -/
theorem Approx.eq {x y : Run α} (h : Approx x y) (hx : Avoids .overflow x) : x = y :=
  h.resolve_left hx

/-- A value of the smaller run is a value of the larger. -/
theorem Approx.eq_ok {x y : Run α} (h : Approx x y) {a : α} (hx : x = .ok a) : y = .ok a :=
  (h.eq (avoids_of_eq_ok hx)).symm.trans hx

/-- **The composition rule** for the order. -/
theorem Approx.bind {x y : Run α} {k l : α → Run β} (h : Approx x y)
    (hk : ∀ a, Approx (k a) (l a)) : Approx (x >>= k) (y >>= l) := by
  rcases h with rfl | rfl
  · exact Or.inl rfl
  · cases x with
    | error f => exact Or.inr rfl
    | ok a => exact hk a

theorem Approx.ite {p : Prop} [Decidable p] {x x' y y' : Run α} (hx : Approx x x')
    (hy : Approx y y') : Approx (if p then x else y) (if p then x' else y') := by
  split_ifs
  · exact hx
  · exact hy

theorem Approx.stepIf {p : Prop} [Decidable p] {x y : Run α} (h : Approx x y) (a : α) :
    Approx (stepIf p x a) (stepIf p y a) :=
  h.ite (.refl _)

/-- A value that is returned where it fits approximates every run that returns it there. -/
theorem Approx.ite_overflow {c : Prop} [Decidable c] {x y : Run α} (h : c → x = y) :
    Approx (if c then x else .error .overflow) y := by
  split_ifs with hc
  · exact Or.inr (h hc)
  · exact Or.inl rfl

/-- One reading is below another when each of its operations is. -/
structure Arith.Approx (A B : Arith) : Prop where
  u32 : ∀ x, CInt.Approx (A.u32 x) (B.u32 x)
  i32 : ∀ x, CInt.Approx (A.i32 x) (B.i32 x)
  u64 : ∀ x, CInt.Approx (A.u64 x) (B.u64 x)

/-- The checked reading is below the exact one: it only adds stops. -/
theorem checked_approx_unbounded : checked.Approx unbounded where
  u32 _ := .ite_overflow fun _ => rfl
  i32 _ := .ite_overflow fun _ => rfl
  u64 _ := .ite_overflow fun _ => rfl

/-- The checked reading is below the machine's: a result that fits is its own
reduction. -/
theorem checked_approx_wrapping : checked.Approx wrapping where
  u32 x := .ite_overflow fun h => by
    simp only [wrapping, Int.emod_eq_of_lt h.1 h.2]
  i32 x := .ite_overflow fun h => by
    have hx : x.bmod (2 ^ 32) = x := Int.bmod_eq_of_le_mul_two (by omega) (by omega)
    simp only [wrapping, hx]
  u64 x := .ite_overflow fun h => by
    simp only [wrapping, Int.emod_eq_of_lt h.1 h.2]

end Approx

/-! ### Exact runs -/

/-- **A run that computes an exact value within bounds.** Under the bounds `B` the run
`x` does not overflow, and if moreover its assertions `P` hold it returns `r`; it returns
in no other case, and nothing else.

A checked computation is specified by its closed form `r`, by the bounds under which no
step of it overflows and by the assertions it makes, all three stated over exact
values. -/
structure Exactly {α : Type} (B P : Prop) (x : Run α) (r : α) : Prop where
  of_ok : ∀ a, x = .ok a → a = r ∧ B ∧ P
  ok : B → P → x = .ok r
  avoids : B → Avoids .overflow x

namespace Exactly

section

variable {α β : Type} {B B' C P P' Q : Prop} {x y : Run α} {k : α → Run β} {r r' : α} {s : β}

/-- Runs without assertions are specified by what they return. -/
theorem of_eq_ok_iff (h : ∀ a, x = .ok a ↔ a = r ∧ B) : Exactly B True x r where
  of_ok a ha := by
    obtain ⟨har, hB⟩ := (h a).mp ha
    exact ⟨har, hB, trivial⟩
  ok hB _ := (h r).mpr ⟨rfl, hB⟩
  avoids hB := avoids_of_eq_ok ((h r).mpr ⟨rfl, hB⟩)

/-- **The composition rule**: the rest is specified at the exact value of the first
step. -/
theorem bind (hx : Exactly B P x r) (hk : B → P → Exactly C Q (k r) s) :
    Exactly (B ∧ C) (P ∧ Q) (x >>= k) s where
  of_ok b hb := by
    obtain ⟨a, ha, hka⟩ := bind_eq_ok.mp hb
    obtain ⟨rfl, hB, hP⟩ := hx.of_ok a ha
    obtain ⟨rfl, hC, hQ⟩ := (hk hB hP).of_ok b hka
    exact ⟨rfl, ⟨hB, hC⟩, hP, hQ⟩
  ok hBC hPQ := by
    rw [hx.ok hBC.1 hPQ.1]
    exact (hk hBC.1 hPQ.1).ok hBC.2 hPQ.2
  avoids hBC := by
    refine (hx.avoids hBC.1).bind fun a ha => ?_
    obtain ⟨rfl, -, hP⟩ := hx.of_ok a ha
    exact (hk hBC.1 hP).avoids hBC.2

/-- Bounds, assertions and value may be stated in another form. -/
theorem congr (h : Exactly B P x r) (hB : B' ↔ B) (hP : B → (P' ↔ P)) (hr : B → P → r' = r) :
    Exactly B' P' x r' where
  of_ok a ha := by
    obtain ⟨rfl, hb, hp⟩ := h.of_ok a ha
    exact ⟨(hr hb hp).symm, hB.mpr hb, (hP hb).mpr hp⟩
  ok hb' hp' := by
    have hb := hB.mp hb'
    have hp := (hP hb).mp hp'
    rw [hr hb hp]
    exact h.ok hb hp
  avoids hb' := h.avoids (hB.mp hb')

/-- A branch is specified where it is taken. -/
theorem ite {c : Prop} [Decidable c] (hx : c → Exactly B P x r) (hy : ¬c → Exactly B P y r) :
    Exactly B P (if c then x else y) r := by
  split_ifs with hc
  · exact hx hc
  · exact hy hc

end

section

variable {α : Type}

theorem pure (r : α) : Exactly True True (.ok r) r where
  of_ok _ ha := ⟨(Except.ok.inj ha).symm, trivial, trivial⟩
  ok _ _ := rfl
  avoids _ := avoids_ok _ r

/-- A step under a condition is held to its bounds and assertions under the same
condition. -/
theorem stepIf {c B P : Prop} [Decidable c] {x : Run α} {r : α} (a : α)
    (h : c → Exactly B P x r) :
    Exactly (c → B) (c → P) (stepIf c x a) (if c then r else a) := by
  by_cases hc : c
  · rw [stepIf_of hc, if_pos hc]
    exact (h hc).congr (by simp [hc]) (by simp [hc]) fun _ _ => rfl
  · rw [stepIf_of_not hc, if_neg hc]
    exact (pure a).congr (by simp [hc]) (by simp [hc]) fun _ _ => rfl

/-- A step under a condition, between natural numbers stored in an `int`. -/
theorem stepIfNat {c B P : Prop} [Decidable c] {x : Run ℤ} {r : ℕ} (a : ℕ)
    (h : c → Exactly B P x (r : ℤ)) :
    Exactly (c → B) (c → P) (CInt.stepIf c x a) (if c then r else a : ℕ) :=
  (stepIf (a : ℤ) h).congr Iff.rfl (fun _ => Iff.rfl) fun _ _ => apply_ite _ _ _ _

theorem udiv (a b : ℕ) : Exactly True (0 < b) (udiv a b) (a / b) where
  of_ok q hq := ⟨(udiv_eq_ok.mp hq).2.symm, trivial, (udiv_eq_ok.mp hq).1⟩
  ok _ h := udiv_of_pos h
  avoids _ := avoids_udiv (by decide) a b

theorem umod (a b : ℕ) : Exactly True (0 < b) (umod a b) (a % b) where
  of_ok q hq := ⟨(umod_eq_ok.mp hq).2.symm, trivial, (umod_eq_ok.mp hq).1⟩
  ok _ h := umod_of_pos h
  avoids _ := avoids_umod (by decide) a b

theorem assert (p : Prop) [Decidable p] : Exactly True p (assert p) () where
  of_ok _ hu := ⟨rfl, trivial, assert_eq_ok.mp hu⟩
  ok _ h := assert_of h
  avoids _ := avoids_assert (by decide) p

theorem u32 (n : ℕ) : Exactly (n < 2 ^ 32) True (checked.u32 n) n := by
  refine of_eq_ok_iff fun m => ?_
  rw [checked_u32_eq_ok]
  omega

theorem u64 (n : ℕ) : Exactly (n < 2 ^ 64) True (checked.u64 n) n := by
  refine of_eq_ok_iff fun m => ?_
  rw [checked_u64_eq_ok]
  omega

theorem i32 (n : ℕ) : Exactly (n < 2 ^ 31) True (checked.i32 n) (n : ℤ) := by
  refine of_eq_ok_iff fun m => ?_
  rw [checked_i32_eq_ok]
  omega

end

end Exactly

end CInt
