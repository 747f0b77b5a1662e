import Gralloc.CInt.Signed
import Gralloc.Hidl.Callbacks

/-!
# The region of a lock

A client names the part of a buffer that it accesses by its origin and its size
(`Gralloc.Hidl.Rect`), or by two corners (`Gralloc.Mapper.ARect`). The first adds the size to
make corners of it, locking subtracts the origin again, and validation adds it once more, each
in an `int`.

None of this loses anything: with a region inside the buffer (`Gralloc.Mapper.Inside`, in
integers that have no bound) validation goes on with the checks that are not about the region,
and every other region is invalid (`Gralloc.Hidl.validateRegion_exact`).
-/

namespace Gralloc

namespace Mapper

/-! ### Inside a buffer -/

/-- **A region inside a buffer**, in integers. -/
structure Inside (hnd : ImportedHandle) (left top width height : ℤ) : Prop where
  left_nonneg : 0 ≤ left
  top_nonneg : 0 ≤ top
  width_nonneg : 0 ≤ width
  height_nonneg : 0 ≤ height
  columns : left + width ≤ hnd.width
  rows : top + height ≤ hnd.height

instance (hnd : ImportedHandle) (left top width height : ℤ) :
    Decidable (Inside hnd left top width height) :=
  decidable_of_iff
    (0 ≤ left ∧ 0 ≤ top ∧ 0 ≤ width ∧ 0 ≤ height ∧ left + width ≤ hnd.width ∧
      top + height ≤ hnd.height)
    ⟨fun ⟨hl, ht, hw, hh, hc, hr⟩ => ⟨hl, ht, hw, hh, hc, hr⟩,
      fun ⟨hl, ht, hw, hh, hc, hr⟩ => ⟨hl, ht, hw, hh, hc, hr⟩⟩

section

variable {hnd : ImportedHandle} {pid : ℤ} {usage : Usage}

/-- The checks of a request that are not about its region. -/
def validateAccess (hnd : ImportedHandle) (pid : ℤ) (usage : Usage) : Except LockError Unit :=
  if !usage.hasCpu || (hnd.allocFormat.getBase != .blob && !usage.has hnd.usage) then
    .error .einval
  else if hnd.importPid ≠ pid then .error .einval
  else if hnd.allocFormat.hasModifiers then .error .unsupported
  else .ok ()

/-- The region is the first thing that is checked. -/
theorem validateLockInputParameters_eq {l t w h : BitVec 32} {p : Prop} [Decidable p]
    (hp : (0 ≤ l.toInt ∧ 0 ≤ w.toInt ∧ 0 ≤ (l + w).toInt ∧ (l + w).toInt ≤ hnd.width) ∧
        (0 ≤ t.toInt ∧ 0 ≤ h.toInt ∧ 0 ≤ (t + h).toInt ∧ (t + h).toInt ≤ hnd.height) ↔ p) :
    validateLockInputParameters hnd pid l t w h usage =
      if p then validateAccess hnd pid usage else .error .einval := by
  unfold validateLockInputParameters
  by_cases hc : p
  · obtain ⟨⟨hl, hw, hlw, hwidth⟩, ht, hh, hth, hheight⟩ := hp.mpr hc
    rw [if_pos hc, if_neg (by omega), if_neg (by omega), if_neg (by omega)]
    rfl
  · rw [if_neg hc]
    split_ifs with h₁ h₂ h₃
    · rfl
    · rfl
    · rfl
    all_goals exact absurd (hp.mp (by omega)) hc

end

end Mapper

namespace Hidl

open CInt Mapper

/-! ### The two ways to name a region -/

/-- The corners of a region. -/
def Rect.corners (r : Rect) : ARect :=
  { left := r.left, top := r.top, right := r.left + r.width, bottom := r.top + r.height }

/-- The validation of a region that is given by corners, as it is locked. -/
def validateRegion (hnd : ImportedHandle) (pid : ℤ) (usage : Usage) (a : ARect) :
    Except LockError Unit :=
  validateLockInputParameters hnd pid a.left a.top (a.right - a.left) (a.bottom - a.top) usage

section

variable {hnd : ImportedHandle}

/-- **A region by its origin and its size.** -/
theorem validateRegion_corners (hw : hnd.width < 2 ^ 31) (hh : hnd.height < 2 ^ 31) (pid : ℤ)
    (usage : Usage) (r : Rect) :
    validateRegion hnd pid usage r.corners =
      if Inside hnd r.left.toInt r.top.toInt r.width.toInt r.height.toInt then
        validateAccess hnd pid usage
      else .error .einval := by
  -- the difference of the corners is the size again, whatever wrapped
  have hwidth : r.left + r.width - r.left = r.width := by
    rw [BitVec.add_comm, BitVec.add_sub_cancel]
  have hheight : r.top + r.height - r.top = r.height := by
    rw [BitVec.add_comm, BitVec.add_sub_cancel]
  simp only [validateRegion, Rect.corners, hwidth, hheight]
  refine validateLockInputParameters_eq ?_
  rw [checksLength_iff (by push_cast; omega), checksLength_iff (by push_cast; omega)]
  constructor
  · rintro ⟨⟨hl, hw, hc⟩, ht, hh, hr⟩
    exact ⟨hl, ht, hw, hh, hc, hr⟩
  · rintro ⟨hl, ht, hw, hh, hc, hr⟩
    exact ⟨⟨hl, hw, hc⟩, ht, hh, hr⟩

/-- **A region by two corners.** -/
theorem validateRegion_eq (pid : ℤ) (usage : Usage) (a : ARect) :
    validateRegion hnd pid usage a =
      if Inside hnd a.left.toInt a.top.toInt (a.right.toInt - a.left.toInt)
          (a.bottom.toInt - a.top.toInt) then
        validateAccess hnd pid usage
      else .error .einval := by
  refine validateLockInputParameters_eq ?_
  rw [checksEnd_iff, checksEnd_iff]
  constructor
  · rintro ⟨⟨hl, hw, hc⟩, ht, hh, hr⟩
    exact ⟨hl, ht, hw, hh, by omega, by omega⟩
  · rintro ⟨hl, ht, hw, hh, hc, hr⟩
    exact ⟨⟨hl, hw, by omega⟩, ht, hh, by omega⟩

/-- An invalid region is an error of locking, unless the lock is one that is let through
unchecked. -/
theorem lockBuffer_of_invalid {k : Mapper.Kernel} {pid : ℤ} {usage : Usage} {a : ARect}
    (hi : isInvalidWriteLock hnd usage = false)
    (h : validateRegion hnd pid usage a = .error .einval) :
    lockBuffer k hnd pid usage a = (.error .badValue, hnd, []) := by
  rw [validateRegion] at h
  rw [lockBuffer, if_neg (by simp [hi]), maliGrallocLock, h]
  rfl

/-- **Locking a region outside the buffer** is a bad value to the client, whose handle stays as
it is. -/
theorem lock_of_not_inside (hw : hnd.width < 2 ^ 31) (hh : hnd.height < 2 ^ 31) {k : Mapper.Kernel}
    {pid : ℤ} {usage : Usage} {r : Rect} (hi : isInvalidWriteLock hnd usage = false)
    (h : ¬Inside hnd r.left.toInt r.top.toInt r.width.toInt r.height.toInt)
    (fence : Option (List ℤ)) :
    GrallocMapper.lock k (some hnd) pid usage r fence = .hidlCb .badValue none := by
  have hv : validateRegion hnd pid usage r.corners = .error .einval := by
    rw [validateRegion_corners hw hh, if_neg h]
  rw [GrallocMapper.lock]
  cases GrallocMapper.getFenceFd fence with
  | none => rfl
  | some fd =>
    have hl := lockBuffer_of_invalid (k := k) hi hv
    rw [Rect.corners] at hl
    simp only [hl]
    rfl

/-- **The checks of a region are exact**, for a buffer whose sizes are `int`s: a region by its
origin and size, or by two corners, passes exactly when it is inside. A region that does not
pass is not locked, by either way in. -/
theorem validateRegion_exact (hw : hnd.width < 2 ^ 31) (hh : hnd.height < 2 ^ 31) (pid : ℤ)
    (usage : Usage) :
    (∀ r : Rect, validateRegion hnd pid usage r.corners =
      if Inside hnd r.left.toInt r.top.toInt r.width.toInt r.height.toInt then
        validateAccess hnd pid usage
      else .error .einval) ∧
    (∀ a : ARect, validateRegion hnd pid usage a =
      if Inside hnd a.left.toInt a.top.toInt (a.right.toInt - a.left.toInt)
          (a.bottom.toInt - a.top.toInt) then
        validateAccess hnd pid usage
      else .error .einval) ∧
    (isInvalidWriteLock hnd usage = false →
      (∀ k (r : Rect) fence,
        ¬Inside hnd r.left.toInt r.top.toInt r.width.toInt r.height.toInt →
          GrallocMapper.lock k (some hnd) pid usage r fence = .hidlCb .badValue none) ∧
      ∀ k (a : ARect),
        ¬Inside hnd a.left.toInt a.top.toInt (a.right.toInt - a.left.toInt)
            (a.bottom.toInt - a.top.toInt) →
          lockBuffer k hnd pid usage a = (.error .badValue, hnd, [])) := by
  refine ⟨validateRegion_corners hw hh pid usage, validateRegion_eq pid usage, fun hi => ⟨?_, ?_⟩⟩
  · intro k r fence h
    exact lock_of_not_inside hw hh hi h fence
  · intro k a h
    exact lockBuffer_of_invalid hi (by rw [validateRegion_eq, if_neg h])

/-- The buffer of the runs: the last pixel, by a rectangle and by corners that reach past it. -/
theorem validateRegion_exact_imported :
    validateRegion Mapper.imported 1 0x30#64 (Rect.corners ⟨15#32, 15#32, 1#32, 1#32⟩) = .ok () ∧
      validateRegion Mapper.imported 1 0x30#64 ⟨15#32, 15#32, 17#32, 16#32⟩ = .error .einval ∧
      GrallocMapper.lock willing (some Mapper.imported) 1 0x30#64
        ⟨2147483647#32, 0#32, 2147483647#32, 1#32⟩ none = .hidlCb .badValue none := by
  obtain ⟨hr, ha, hl⟩ := validateRegion_exact
    (by decide : Mapper.imported.width < 2 ^ 31) (by decide) 1 0x30#64
  refine ⟨?_, ?_, ?_⟩
  · rw [hr, if_pos (by decide)]
    decide
  · rw [ha, if_neg (by decide)]
  · exact (hl (by decide)).1 _ _ _ (by decide)

end

end Hidl

end Gralloc
