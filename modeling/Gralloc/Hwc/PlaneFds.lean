import Gralloc.CInt.Bytes
import Gralloc.Hidl.Callbacks

/-!
# The descriptors of the planes, as bytes

A composer asks the mapper for the descriptors of the planes of a buffer and gets bytes: a number
of 64 bits, and that many numbers of 64 bits behind it. Two encoders write them so
(`Gralloc.Hwc.encodeArmPlaneFdsHidl`, `Gralloc.Hwc.encodeArmPlaneFdsStablec`), and one decoder
reads them (`Gralloc.Hwc.decodePlaneFds`). What was encoded is read as it was; but the bytes
come from another process, and may be any.

The number of bytes that should follow is calculated in 64 bits, which is the width of `size_t` in a
process of 64 bits (the build makes others, too). From 2^61 on it wraps, so that
a few bytes may look like enough; then the decoder asks for a vector that cannot be, and does
not return. What it does return goes into an array of a few elements
(`Gralloc.Hwc.getFds`), one after the other as long as they can be descriptors; nobody looks at
the size of the array. `Gralloc.Hwc.wireFormat_iff` puts these together.
-/

namespace Gralloc

namespace Hwc

open CInt

/-! ### Reading -/

/-- A vector of the interface, whose size is a word. -/
structure HidlVec where
  bytes : List (BitVec 8)
  size_lt : bytes.length < 2 ^ 32

/-- How a decoder fails: with a status, or in a vector that is asked for too many elements. -/
inductive DecodeError where
  | badValue
  | lengthError
  deriving DecidableEq, Repr

/-- As many numbers of 64 bits as a vector may have. -/
def vectorMaxSize : ℕ := 2 ^ 61 - 1

namespace HidlVec

variable (v : HidlVec)

/-- The number in front. -/
def count : ℤ := (BitVec.ofNat 64 (ofLeBytes (v.bytes.take 8))).toInt

/-- The numbers behind it. -/
def values (n : ℕ) : List (BitVec 64) := (ofLeWords 8 n (v.bytes.drop 8)).map (BitVec.ofNat 64)

end HidlVec

/-- **The decoder.** -/
def decodePlaneFds (input : HidlVec) : Except DecodeError (List (BitVec 64)) :=
  let inputSize := input.bytes.length
  if inputSize < 8 then .error .badValue
  else
    let size := input.count
    if size < 0 then .error .badValue
    else
      -- a product of 64 bits
      let fdsSize := size.toNat * 8 % 2 ^ 64
      if inputSize - 8 < fdsSize then .error .badValue
      else if vectorMaxSize < size.toNat then .error .lengthError
      else .ok (input.values size.toNat)

/-- A descriptor is positive and fits a word. -/
def validFd (fd : BitVec 64) : Bool := decide (0 < fd.toInt) && decide (fd.toInt ≤ 2 ^ 32 - 1)

/-- A write into the array of the record. -/
structure PrimeFd where
  index : ℕ
  value : BitVec 32
  deriving DecidableEq, Repr

/-- Descriptors are written one by one, up to the first that is none. -/
def storeFds : ℕ → List (BitVec 64) → Except DecodeError Unit × List PrimeFd
  | _, [] => (.ok (), [])
  | i, fd :: fds =>
    if validFd fd then
      let r := storeFds (i + 1) fds
      (r.1, ⟨i, fd.setWidth 32⟩ :: r.2)
    else (.error .badValue, [])

/-- **The descriptors of a buffer**, from what the mapper answered: a status, and what is
written. -/
def getFds (error : Hidl.Error) (metadata : HidlVec) :
    Except DecodeError Unit × List PrimeFd :=
  if error ≠ .none then (.error .badValue, [])
  else
    match decodePlaneFds metadata with
    | .error e => (.error e, [])
    | .ok fds => if fds.isEmpty then (.error .badValue, []) else storeFds 0 fds

/-! ### Writing -/

section

variable (fds : List (BitVec 64))

/-- The bytes of some descriptors. -/
def planeFdBytes : List (BitVec 8) :=
  leBytes 8 fds.length ++ fds.flatMap fun fd => leBytes 8 fd.toNat

/-- **The encoder of the HIDL mapper**, whose vectors do not grow beyond a word. -/
def encodeArmPlaneFdsHidl : Option HidlVec :=
  if h : (planeFdBytes fds).length < 2 ^ 32 then some ⟨planeFdBytes fds, h⟩ else none

/-- The memory that the new mapper needs. -/
def requiredSize : ℕ := (fds.length + 1) * 8 % 2 ^ 64

/-- **The encoder of the new mapper**: the size that it needs, and the memory, which it writes
if there is enough. -/
def encodeArmPlaneFdsStablec (out : List (BitVec 8)) : ℤ × List (BitVec 8) :=
  if out.length < requiredSize fds then (toInt (requiredSize fds), out)
  else (toInt (requiredSize fds), planeFdBytes fds ++ out.drop (planeFdBytes fds).length)

variable {fds}

theorem length_planeFdBytes : (planeFdBytes fds).length = 8 * (fds.length + 1) := by
  have hmap : (fds.flatMap fun fd => leBytes 8 fd.toNat) =
      (fds.map BitVec.toNat).flatMap (leBytes 8) := (List.flatMap_map BitVec.toNat _ fds).symm
  rw [planeFdBytes, List.length_append, length_leBytes, hmap, length_flatMap_leBytes,
    List.length_map]
  omega

/-- The bytes are those that the mapper has for the type. -/
theorem getEncodeFunction_planeFds (gralloc4 : Hidl.Gralloc4) {w : HidlVec}
    (h : encodeArmPlaneFdsHidl fds = some w) :
    Hidl.getEncodeFunction gralloc4 (.arm .planeFds) (.int64s fds) = .ok w.bytes := by
  rw [encodeArmPlaneFdsHidl] at h
  split_ifs at h
  cases h
  rfl

end

/-! ### What the bytes say -/

namespace HidlVec

variable (v : HidlVec)

/-- **There are `n` numbers**, as the one in front says, without any wrap. -/
def Holds (n : ℕ) : Prop := v.count = n ∧ 8 * (n + 1) ≤ v.bytes.length

/-- **The size wraps**: the number in front is at least 2^61, and its remainder makes do with
the bytes that there are. -/
def Wraps : Prop :=
  ∃ n : ℕ, v.count = n ∧ 2 ^ 61 ≤ n ∧ 8 * (n % 2 ^ 61 + 1) ≤ v.bytes.length

variable {v}

theorem Holds.unique {m n : ℕ} (hm : v.Holds m) (hn : v.Holds n) : m = n :=
  Int.natCast_inj.mp (hm.1.symm.trans hn.1)

end HidlVec

section

variable {v : HidlVec} {fds : List (BitVec 64)}

/-- **What a decoder can do** with some bytes. -/
theorem decodePlaneFds_cases (v : HidlVec) :
    (∃ n, v.Holds n ∧ decodePlaneFds v = .ok (v.values n)) ∨
      (¬∃ n, v.Holds n) ∧ v.Wraps ∧ decodePlaneFds v = .error .lengthError ∨
      (¬∃ n, v.Holds n) ∧ ¬v.Wraps ∧ decodePlaneFds v = .error .badValue := by
  have hlt := v.size_lt
  rw [decodePlaneFds]
  dsimp only
  split_ifs with hshort hneg hfew hmany
  · refine Or.inr (Or.inr ⟨?_, ?_, rfl⟩)
    · rintro ⟨n, -, hn⟩
      omega
    · rintro ⟨n, -, -, hn⟩
      omega
  · refine Or.inr (Or.inr ⟨?_, ?_, rfl⟩)
    · rintro ⟨n, hn, -⟩
      omega
    · rintro ⟨n, hn, -⟩
      omega
  · refine Or.inr (Or.inr ⟨?_, ?_, rfl⟩)
    · rintro ⟨n, hn, hle⟩
      omega
    · rintro ⟨n, hn, -, hle⟩
      omega
  · -- the product has wrapped, or there would be more bytes than a vector has
    have hcount : v.count = v.count.toNat := (Int.toNat_of_nonneg (not_lt.mp hneg)).symm
    rw [vectorMaxSize] at hmany
    refine Or.inr (Or.inl ⟨?_, ⟨v.count.toNat, hcount, by omega, by omega⟩, rfl⟩)
    rintro ⟨n, hn, hle⟩
    omega
  · have hcount : v.count = v.count.toNat := (Int.toNat_of_nonneg (not_lt.mp hneg)).symm
    rw [vectorMaxSize] at hmany
    exact Or.inl ⟨v.count.toNat, ⟨hcount, by omega⟩, rfl⟩

/-- What is decoded is what the bytes say. -/
theorem decodePlaneFds_eq_ok_iff :
    decodePlaneFds v = .ok fds ↔ ∃ n, v.Holds n ∧ fds = v.values n := by
  rcases decodePlaneFds_cases v with ⟨n, hn, hd⟩ | ⟨hno, -, hd⟩ | ⟨hno, -, hd⟩
  · rw [hd, Except.ok.injEq]
    constructor
    · rintro rfl
      exact ⟨n, hn, rfl⟩
    · rintro ⟨m, hm, rfl⟩
      rw [hm.unique hn]
  · rw [hd]
    refine iff_of_false (fun h => by cases h) ?_
    rintro ⟨n, hn, -⟩
    exact hno ⟨n, hn⟩
  · rw [hd]
    refine iff_of_false (fun h => by cases h) ?_
    rintro ⟨n, hn, -⟩
    exact hno ⟨n, hn⟩

/-- The decoder does not return exactly when the size wraps. -/
theorem decodePlaneFds_eq_lengthError_iff :
    decodePlaneFds v = .error .lengthError ↔ v.Wraps := by
  rcases decodePlaneFds_cases v with ⟨n, hn, hd⟩ | ⟨-, hw, hd⟩ | ⟨-, hw, hd⟩
  · refine iff_of_false (fun h => by rw [hd] at h; cases h) ?_
    rintro ⟨m, hm, hle, -⟩
    have hlt := v.size_lt
    have hmn : m = n := Int.natCast_inj.mp (hm.symm.trans hn.1)
    have hbytes := hn.2
    omega
  · exact iff_of_true hd hw
  · exact iff_of_false (fun h => by rw [hd] at h; cases h) hw

/-- **What was encoded is decoded**, whatever lies behind it. -/
theorem decodePlaneFds_of_prefix (h : planeFdBytes fds <+: v.bytes) :
    decodePlaneFds v = .ok fds := by
  have hlt := v.size_lt
  have hle := h.length_le
  rw [length_planeFdBytes] at hle
  obtain ⟨rest, hbytes⟩ := h
  rw [planeFdBytes, List.append_assoc] at hbytes
  have hcount : v.count = fds.length := by
    rw [HidlVec.count, ← hbytes, List.take_left' (length_leBytes 8 _),
      ofLeBytes_leBytes_of_lt (by omega), BitVec.toInt_ofNat']
    exact Int.bmod_eq_of_le_mul_two (by omega) (by omega)
  have hvalues : v.values fds.length = fds := by
    have hmap : (fds.flatMap fun fd => leBytes 8 fd.toNat) =
        (fds.map BitVec.toNat).flatMap (leBytes 8) := (List.flatMap_map BitVec.toNat _ fds).symm
    have hfit : ∀ x ∈ fds.map BitVec.toNat, x < 256 ^ 8 := by
      rintro x hx
      obtain ⟨fd, -, rfl⟩ := List.mem_map.mp hx
      exact fd.isLt
    have hwords := ofLeWords_flatMap hfit rest
    rw [List.length_map] at hwords
    rw [HidlVec.values, ← hbytes, List.drop_left' (length_leBytes 8 _), hmap, hwords,
      List.map_map]
    refine (List.map_congr_left fun fd _ => ?_).trans (List.map_id fds)
    exact BitVec.ofNat_toNat _ fd |>.trans (BitVec.setWidth_eq fd)
  exact decodePlaneFds_eq_ok_iff.mpr ⟨fds.length, ⟨hcount, hle⟩, hvalues.symm⟩

/-- **The descriptors are written at the indices from `i` on**, by induction on them, as many as
there are before the first that is none. -/
theorem index_storeFds (i : ℕ) (fds : List (BitVec 64)) :
    (storeFds i fds).2.map PrimeFd.index = List.range' i (fds.takeWhile validFd).length := by
  induction fds generalizing i with
  | nil => rfl
  | cons fd fds ih =>
    rw [storeFds]
    by_cases hfd : validFd fd = true
    · rw [if_pos hfd, List.takeWhile_cons_of_pos hfd, List.map_cons, ih, List.length_cons,
        List.range'_succ]
    · rw [if_neg hfd, List.takeWhile_cons_of_neg hfd]
      rfl

/-- All of them are inside an array that has room for them. -/
theorem storeFds_inside_iff {len : ℕ} :
    (∀ x ∈ (storeFds 0 fds).2, x.index < len) ↔ (fds.takeWhile validFd).length ≤ len := by
  have hindex := index_storeFds 0 fds
  have hmem : (∀ x ∈ (storeFds 0 fds).2, x.index < len) ↔
      ∀ i ∈ List.range' 0 (fds.takeWhile validFd).length, i < len := by
    rw [← hindex, List.forall_mem_map]
  rw [hmem]
  constructor
  · intro h
    by_contra hlt
    exact lt_irrefl len (h len (List.mem_range'_1.mpr (by omega)))
  · intro h i hi
    have := List.mem_range'_1.mp hi
    omega

/-- An answer without an error. -/
theorem getFds_none (h : decodePlaneFds v = .ok fds) :
    (getFds .none v).2 = (storeFds 0 fds).2 := by
  rw [getFds, if_neg (by decide), h]
  cases fds with
  | nil => rfl
  | cons fd fds => rfl

end

/-! ### The format -/

/-- **The format of the descriptors** keeps its word for some bytes, and an array of `len`
elements: they are decoded exactly as they say, and refused otherwise; what the encoders wrote is
read as it was; and the descriptors are written inside the array. -/
structure WireFormat (len : ℕ) (v : HidlVec) : Prop where
  accepts_iff : ∀ fds, decodePlaneFds v = .ok fds ↔ ∃ n, v.Holds n ∧ fds = v.values n
  returns : decodePlaneFds v ≠ .error .lengthError
  hidl : ∀ fds w, encodeArmPlaneFdsHidl fds = some w → decodePlaneFds w = .ok fds
  stablec : ∀ fds out, requiredSize fds ≤ out.length → ∀ w : HidlVec,
    (encodeArmPlaneFdsStablec fds out).2.take (8 * (fds.length + 1)) <+: w.bytes →
      decodePlaneFds w = .ok fds
  inside : (∃ fds, decodePlaneFds v = .ok fds) → ∀ x ∈ (getFds .none v).2, x.index < len

/-- **The descriptors that come before the first that is none** are no more than `len`. -/
def FdsFit (len : ℕ) (v : HidlVec) : Prop :=
  ∀ n, v.Holds n → ((v.values n).takeWhile validFd).length ≤ len

section

variable {len : ℕ} {v : HidlVec}

/-- What the encoders write is read as it was. -/
theorem decodePlaneFds_hidl {fds : List (BitVec 64)} {w : HidlVec}
    (h : encodeArmPlaneFdsHidl fds = some w) : decodePlaneFds w = .ok fds := by
  rw [encodeArmPlaneFdsHidl] at h
  split_ifs at h
  cases h
  exact decodePlaneFds_of_prefix (List.prefix_refl _)

theorem decodePlaneFds_stablec {fds : List (BitVec 64)} {out : List (BitVec 8)}
    (hout : requiredSize fds ≤ out.length) {w : HidlVec}
    (h : (encodeArmPlaneFdsStablec fds out).2.take (8 * (fds.length + 1)) <+: w.bytes) :
    decodePlaneFds w = .ok fds := by
  refine decodePlaneFds_of_prefix ?_
  rw [encodeArmPlaneFdsStablec, if_neg (not_lt.mpr hout), ← length_planeFdBytes,
    List.take_left' rfl] at h
  exact h

/-- Writes stay inside the array exactly when the descriptors fit. -/
theorem inside_iff :
    ((∃ fds, decodePlaneFds v = .ok fds) → ∀ x ∈ (getFds .none v).2, x.index < len) ↔
      FdsFit len v := by
  constructor
  · intro h n hn
    have hd : decodePlaneFds v = .ok (v.values n) :=
      decodePlaneFds_eq_ok_iff.mpr ⟨n, hn, rfl⟩
    have hin := h ⟨_, hd⟩
    rw [getFds_none hd] at hin
    exact storeFds_inside_iff.mp hin
  · rintro h ⟨fds, hd⟩
    obtain ⟨n, hn, rfl⟩ := decodePlaneFds_eq_ok_iff.mp hd
    rw [getFds_none hd]
    exact storeFds_inside_iff.mpr (h n hn)

/-- **When the format keeps its word**: the size does not wrap, and the descriptors fit. -/
theorem wireFormat_iff (len : ℕ) (v : HidlVec) :
    WireFormat len v ↔ ¬v.Wraps ∧ FdsFit len v := by
  rw [← decodePlaneFds_eq_lengthError_iff, ← inside_iff]
  constructor
  · rintro ⟨-, hreturns, -, -, hinside⟩
    exact ⟨hreturns, hinside⟩
  · rintro ⟨hreturns, hinside⟩
    exact ⟨fun _ => decodePlaneFds_eq_ok_iff, hreturns, fun _ _ => decodePlaneFds_hidl,
      fun _ _ hout _ => decodePlaneFds_stablec hout, hinside⟩

end

/-! ### Two strings of bytes -/

/-- 2^61 descriptors are announced, and none follow. -/
def announcing : HidlVec := ⟨leBytes 8 (2 ^ 61), by decide⟩

/-- Five descriptors. -/
def fiveFds : HidlVec := ⟨planeFdBytes (List.replicate 5 3#64), by decide⟩

/-- **Eight bytes stop the composer**, and five descriptors are written into an array of four. -/
theorem not_wireFormat :
    decodePlaneFds announcing = .error .lengthError ∧ ¬WireFormat 4 announcing ∧
      ⟨4, 3#32⟩ ∈ (getFds .none fiveFds).2 ∧ ¬WireFormat 4 fiveFds := by
  have hstop : decodePlaneFds announcing = .error .lengthError := by decide +kernel
  have hd : decodePlaneFds fiveFds = .ok (List.replicate 5 3#64) := by decide +kernel
  have hmem : ⟨4, 3#32⟩ ∈ (getFds .none fiveFds).2 := by decide +kernel
  refine ⟨hstop, fun h => h.returns hstop, hmem, fun h => ?_⟩
  exact lt_irrefl 4 (h.inside ⟨_, hd⟩ _ hmem)

end Hwc

end Gralloc
