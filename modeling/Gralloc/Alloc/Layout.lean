import Gralloc.Alloc.Overflow

/-!
# The planes of an uncompressed buffer

Without AFBC, the bytes of a plane are its rows, or the coding units of AFRC, and a
layout is sound (`Gralloc.LayoutSound`) when the planes follow each other inside one
layer, each of them owns the bytes its own dimensions need, its rows fit in its stride,
it is no smaller than requested, and the handle knows how many planes there are.

Linear buffers always are. The other two layouts are made of blocks, and the code rounds
the planes of a buffer up to whole blocks in a way that is not always the one it sizes
them by: under CPU access it does not round up to blocks at all, and the second
block-linear plane is rounded up on its own but sized by the blocks of the first.
`Gralloc.layoutSound_iff` says what remains: the layout is sound exactly when the
dimensions are whole numbers of blocks (`Gralloc.WholeBlocks`).

The arithmetic is that of the exact layout (`Gralloc.Exact.covered_all_iff`), by one lemma
a layout; the machine's run is the exact one as long as no product overflows.
-/

namespace Gralloc

open CInt

namespace Exact

/-! ### Linear rows -/

section

variable {f : FormatInfo} {t : AllocType} {usage : Usage} {w h : ℕ} {i : ℕ}

theorem rowBytes_le_rowStride (t : AllocType) (usage : Usage) (w i : ℕ) (hf : f.WellFormed) :
    rowBytes f t usage w i ≤ rowStride f t usage w i := by
  unfold rowStride
  split_ifs with hra
  · rw [Nat.le_div_iff_mul_le hf.tileSize_pos]
    exact le_alignUp (Nat.pos_of_ne_zero hra)
  · exact le_rfl

/-- Half a luma row of YV12 holds a chroma row. -/
theorem rowBytes_le_linearStride_yv12 (hf : f.WellFormed) (hm : f ∈ formats)
    (hs : isSharedYv12 f usage = true) (hi₀ : i ≠ 0) (hi : i < f.npln) :
    rowBytes f t usage w i ≤ linearStride f t usage w i := by
  have hra := rowAlign_of_isSharedYv12 (i := 0) hf hs (by decide)
  have hrow := rowBytes_le_rowStride t usage w 0 hf
  have hi₃ := hi.trans_le hf.npln_le
  rw [linearStride, if_pos hs, if_neg hi₀, hra]
  simp only [isSharedYv12, Bool.and_eq_true, beq_iff_eq] at hs
  obtain ⟨⟨hid, -⟩, hcpu⟩ := hs
  obtain ⟨hy, hts, hwcpu, hbpp⟩ := hf.yv12 hid
  obtain ⟨hsub, -, -⟩ := yv12_of_mem_formats f hm hid
  have hbytes (j : ℕ) (hj : j < 3) : rowBytes f t usage w j = width f t usage w j := by
    rw [rowBytes, hbpp]
    interval_cases j <;> exact Nat.mul_div_cancel _ (by decide)
  have halign (j : ℕ) : (finalAlign f t j usage.hasCpu).width = 16 := by
    simp [finalAlign, pixelAlign, hcpu, hwcpu, hts]
  rw [hbytes 0 (by decide), width, halign, baseWidth_zero] at hrow
  rw [hbytes i hi₃, width, halign, baseWidth_of_pos hy (Nat.pos_of_ne_zero hi₀), hsub]
  have hw := le_alignUp (v := alignUp w f.alignW) (show 0 < 16 by decide)
  have hle := le_alignUp (v := rowStride f t usage w 0) (show 0 < 2 * 32 by decide)
  have hdvd := dvd_alignUp (rowStride f t usage w 0) (2 * 32)
  exact alignUp_le_of_dvd (by decide) (by omega) (by omega)

/-- **A linear row fits in its stride.** -/
theorem rowBytes_le_linearStride (t : AllocType) (usage : Usage) (w : ℕ) (hf : f.WellFormed)
    (hm : f ∈ formats) (hi : i < f.npln) :
    rowBytes f t usage w i ≤ linearStride f t usage w i := by
  by_cases hs : isSharedYv12 f usage = true
  · by_cases hi₀ : i = 0
    · subst hi₀
      have hra := rowAlign_of_isSharedYv12 (i := 0) hf hs (by decide)
      rw [linearStride, if_pos hs, if_pos rfl, hra]
      exact (rowBytes_le_rowStride t usage w 0 hf).trans (le_alignUp (by decide))
    · exact rowBytes_le_linearStride_yv12 hf hm hs hi₀ hi
  · rw [linearStride, if_neg hs]
    exact rowBytes_le_rowStride t usage w i hf

end

/-! ### What a plane needs -/

section

variable {f : FormatInfo} {t : AllocType} {usage : Usage} {w h : ℕ} {i : ℕ}

/-- The bytes that the samples of a plane take: its rows, or its coding units. -/
def planeNeed (t : AllocType) (i : ℕ) (p : PlaneInfo) : ℕ :=
  if t.isAfrc then
    p.allocWidth ⌈/⌉ t.afrc.clumpWidth.get i * (p.allocHeight ⌈/⌉ t.afrc.clumpHeight.get i) *
      t.codingUnitBytes i
  else p.byteStride * p.allocHeight

/-- **What a plane is owed**: the bytes of its samples in its body, and rows that fit in
its stride. -/
structure Covered (f : FormatInfo) (t : AllocType) (usage : Usage) (w h i : ℕ) : Prop where
  need : planeNeed t i (plane f t usage w h i) ≤ body f t usage w h i
  stride : t.isAfrc ≠ true → width f t usage w i * f.bpp.get i ≤ stride f t usage w i * 8

/-- Linear planes are covered. -/
theorem covered_of_isLinear (hf : f.WellFormed) (hm : f ∈ formats) (hi : i < f.npln)
    (hl : t.isLinear = true) (hc : Checks f t usage w i) : Covered f t usage w h i := by
  obtain ⟨ha, hr, hb⟩ := AllocType.isLinear_iff.mp hl
  have hle := rowBytes_le_linearStride t usage w hf hm hi
  have hs : Exact.stride f t usage w i = linearStride f t usage w i := by
    simp only [Exact.stride, hr, ha, hb, Bool.false_eq_true, if_false]
  simp only [Checks, hr, ha, hb, Bool.false_eq_true, if_false] at hc
  constructor
  · simp only [planeNeed, body, plane, hr, ha, hb, Bool.false_eq_true, if_false, le_refl]
  · intro _
    rw [hs]
    unfold rowBytes at hle
    omega

/-- **An AFRC plane is covered** exactly when it is made of whole clumps, or empty. -/
theorem covered_afrc_iff (hf : f.WellFormed) (ht : t.WellFormed f) (hr : t.isAfrc = true)
    (hi : i < f.npln) :
    Covered f t usage w h i ↔
      width f t usage w i = 0 ∨ height f t usage h i = 0 ∨
        t.afrc.clumpWidth.get i ∣ width f t usage w i ∧
          t.afrc.clumpHeight.get i ∣ height f t usage h i := by
  obtain ⟨⟨hcw, -⟩, hch, -⟩ := clump_bounds hf ht hr hi
  have hcub := codingUnitBytes_pos ht hr i
  rw [← ceilDiv_mul_le_div_mul_iff (by omega) (by omega), ← Nat.mul_le_mul_right_iff hcub]
  have hbody : body f t usage w h i =
      width f t usage w i / t.afrc.clumpWidth.get i *
        (height f t usage h i / t.afrc.clumpHeight.get i) * t.codingUnitBytes i := by
    simp only [body, AllocType.not_isAfbc_of_isAfrc hr, hr, Bool.false_eq_true, if_true, if_false]
  rw [← hbody]
  constructor
  · rintro ⟨hneed, -⟩
    simpa only [planeNeed, plane, hr, if_true] using hneed
  · intro hneed
    exact ⟨by simpa only [planeNeed, plane, hr, if_true] using hneed, fun h => absurd hr h⟩

/-- A block has whole rows of bytes. -/
theorem bytesPerBlock_eq (hf : f.WellFormed) (hb : f.blockLinear = true) (i : ℕ) :
    bytesPerBlock f i = (blockRect f i).height * ((blockRect f i).width / 8 * f.bpp.get i) := by
  obtain ⟨hw, -⟩ := blockRect_cases hf hb i
  obtain ⟨k, hk⟩ : 8 ∣ (blockRect f i).width := by omega
  rw [bytesPerBlock, hk, Nat.mul_div_cancel_left _ (by decide)]
  refine Nat.div_eq_of_eq_mul_left (by decide) ?_
  ring

/-- A block-linear row is that of its blocks. -/
theorem stride_blockLinear (usage : Usage) (w i : ℕ) (hf : f.WellFormed)
    (hb : f.blockLinear = true) (hl : t.isBlockLinear = true) :
    Exact.stride f t usage w i * 8 =
      (blockRect f i).width * (width f t usage w 0 / 16) * f.bpp.get i := by
  have hr := AllocType.not_isAfrc_of_isBlockLinear hl
  have ha := AllocType.not_isAfbc_of_isBlockLinear hl
  obtain ⟨hw, hh⟩ := blockRect_cases hf hb i
  have hpos : 0 < (blockRect f i).height := by omega
  obtain ⟨k, hk⟩ : 8 ∣ (blockRect f i).width := by omega
  simp only [Exact.stride, bytesPerBlock_eq hf hb, hr, ha, hl, Bool.false_eq_true, if_true,
    if_false]
  generalize width f t usage w 0 / 16 = n
  rw [Nat.mul_left_comm, Nat.mul_div_cancel_left _ hpos, hk,
    Nat.mul_div_cancel_left _ (by decide)]
  ring

/-- **A block-linear plane is covered** exactly when the blocks of the first plane cover
it. -/
theorem covered_blockLinear_iff (hf : f.WellFormed) (hb : f.blockLinear = true)
    (hl : t.isBlockLinear = true) (hi : i < f.npln) (hc : Checks f t usage w i) :
    Covered f t usage w h i ↔
      width f t usage w i ≤ (blockRect f i).width * (width f t usage w 0 / 16) ∧
        height f t usage h i ≤ (blockRect f i).height * (height f t usage h 0 / 16) := by
  have hr := AllocType.not_isAfrc_of_isBlockLinear hl
  have ha := AllocType.not_isAfbc_of_isBlockLinear hl
  have hbpp : 0 < f.bpp.get i := by have := hf.bpp_pos (Or.inr hb) i hi; omega
  have hstride := stride_blockLinear usage w i hf hb hl
  have hn : 0 < width f t usage w 0 / 16 := by
    simp only [Checks, hr, ha, hl, Bool.false_eq_true, if_true, if_false] at hc
    exact hc.2.2
  have hrow : 0 < (blockRect f i).width * (width f t usage w 0 / 16) * f.bpp.get i := by
    have := (blockRect_cases hf hb i).1
    exact Nat.mul_pos (Nat.mul_pos (by omega) hn) hbpp
  have hspos : 0 < Exact.stride f t usage w i := by omega
  have hbody : body f t usage w h i = Exact.stride f t usage w i *
      ((blockRect f i).height * (height f t usage h 0 / 16)) := by
    simp only [body, hr, ha, hl, Bool.false_eq_true, if_true, if_false, Nat.mul_assoc]
  have hneed : planeNeed t i (plane f t usage w h i) =
      Exact.stride f t usage w i * height f t usage h i := by
    simp only [planeNeed, plane, hr, Bool.false_eq_true, if_false]
  constructor
  · -- the stride bounds the columns, the body the rows
    rintro ⟨h₁, h₂⟩
    rw [hneed, hbody] at h₁
    have h₂ := h₂ hr
    rw [hstride] at h₂
    exact ⟨Nat.le_of_mul_le_mul_right h₂ hbpp, Nat.le_of_mul_le_mul_left h₁ hspos⟩
  · rintro ⟨h₁, h₂⟩
    refine ⟨?_, fun _ => ?_⟩
    · rw [hneed, hbody]
      exact Nat.mul_le_mul_left _ h₂
    · rw [hstride]
      exact Nat.mul_le_mul_right _ h₁

/-- What the sides of the first block-linear plane have to be multiples of, for its blocks
to cover the second plane: the CPU does not round planes up to blocks of their own. -/
def blockGranule (f : FormatInfo) (usage : Usage) : Rect :=
  if usage.hasCpu then ⟨16, 16⟩ else ⟨16 * f.hsub, 16 * f.vsub⟩

/-- The blocks of `w` even columns cover the other plane's half. -/
private theorem half_le_blocks_iff {a : ℕ} (ha : 2 ∣ a) :
    alignUp (a / 2) 16 ≤ 8 * (alignUp a 16 / 16) ↔ 32 ∣ alignUp a 16 := by
  rw [alignUp_eq, alignUp_eq]
  omega

/-- **Both block-linear planes are covered** exactly when the sides of the first are
multiples of the granule. -/
theorem covered_blockLinear_all_iff (hf : f.WellFormed) (hm : f ∈ formats)
    (hb : f.blockLinear = true) (hl : t.isBlockLinear = true)
    (hc : ∀ i < f.npln, Checks f t usage w i) :
    (∀ i < f.npln, Covered f t usage w h i) ↔
      (blockGranule f usage).width ∣ width f t usage w 0 ∧
        (blockGranule f usage).height ∣ height f t usage h 0 := by
  have hr := AllocType.not_isAfrc_of_isBlockLinear hl
  have ha := AllocType.not_isAfbc_of_isBlockLinear hl
  obtain ⟨hn, hsub, hwcpu, hts, -⟩ := blockLinear_of_mem_formats f hm hb
  have hy := hf.isYuv_of_blockLinear hb
  obtain ⟨-, hda⟩ := hf.hsub_yuv hy
  obtain ⟨hv, hdb⟩ := hf.vsub_yuv hy
  have hdw : f.hsub ∣ alignUp w f.alignW := dvd_alignUp_of_dvd hda w
  have hdh : f.vsub ∣ alignUp h f.alignH := dvd_alignUp_of_dvd hdb h
  have hall : (∀ i < f.npln, Covered f t usage w h i) ↔
      Covered f t usage w h 0 ∧ Covered f t usage w h 1 := by
    rw [hn]
    exact ⟨fun h => ⟨h 0 (by decide), h 1 (by decide)⟩, fun ⟨h₀, h₁⟩ i hi => by
      interval_cases i
      · exact h₀
      · exact h₁⟩
  rw [hall, covered_blockLinear_iff hf hb hl (by omega) (hc 0 (by omega)),
    covered_blockLinear_iff hf hb hl (by omega) (hc 1 (by omega))]
  have hw₁ := baseWidth_of_pos hy one_pos w
  have hh₁ := baseHeight_of_pos hy one_pos h
  have hrect₀ : blockRect f 0 = ⟨16, 16⟩ := rfl
  have hrect₁ : blockRect f 1 = ⟨8, 16 / f.vsub⟩ := by simp [blockRect, hsub]
  simp only [width, height, baseWidth_zero, baseHeight_zero, hw₁, hh₁, hrect₀, hrect₁,
    blockGranule, hsub] at *
  generalize alignUp w f.alignW = a at *
  generalize alignUp h f.alignH = b at *
  by_cases hcpu : usage.hasCpu = true
  · -- the second plane is half the first, and needs no more than its blocks
    simp only [hcpu, finalAlign_cpu t hwcpu hts, alignUp_one, if_true]
    rcases hv with hv | hv <;> rw [hv] at hdh ⊢ <;> omega
  · -- both planes are rounded up to 16, the second one to more than half the first
    simp only [Bool.not_eq_true] at hcpu
    simp only [hcpu, finalAlign_blockLinear hl hts, Bool.false_eq_true, if_false]
    have hwa := half_le_blocks_iff hdw
    have hd₀ := dvd_alignUp a 16
    have hd₁ := dvd_alignUp b 16
    rcases hv with hv | hv <;> rw [hv] at hdh ⊢
    · rw [Nat.div_one]
      omega
    · have hha := half_le_blocks_iff hdh
      omega

end

/-! ### All planes -/

section

variable {f : FormatInfo} {t : AllocType} {usage : Usage} {w h : ℕ}

/-- **The planes of an uncompressed or AFRC layout are covered** exactly when a
block-linear one is made of whole granules and an AFRC one of whole clumps. -/
theorem covered_all_iff (hf : f.WellFormed) (ht : t.WellFormed f) (hm : f ∈ formats)
    (hb : t.isBlockLinear = true → f.blockLinear = true) (ha : t.isAfbc ≠ true)
    (hc : ∀ i < f.npln, Checks f t usage w i) :
    (∀ i < f.npln, Covered f t usage w h i) ↔
      (t.isBlockLinear = true →
        (blockGranule f usage).width ∣ width f t usage w 0 ∧
          (blockGranule f usage).height ∣ height f t usage h 0) ∧
      (t.isAfrc = true → ∀ i < f.npln,
        width f t usage w i = 0 ∨ height f t usage h i = 0 ∨
          t.afrc.clumpWidth.get i ∣ width f t usage w i ∧
            t.afrc.clumpHeight.get i ∣ height f t usage h i) := by
  by_cases hl : t.isBlockLinear = true
  · have hr := AllocType.not_isAfrc_of_isBlockLinear hl
    rw [covered_blockLinear_all_iff hf hm (hb hl) hl hc]
    simp only [hl, hr, true_imp_iff, Bool.false_eq_true, false_imp_iff, and_true]
  · by_cases hr : t.isAfrc = true
    · simp only [hl, hr, Bool.false_eq_true, false_imp_iff, true_imp_iff, true_and]
      exact forall₂_congr fun i hi => covered_afrc_iff hf ht hr hi
    · simp only [hl, hr, Bool.false_eq_true, false_imp_iff, true_and, iff_true]
      exact fun i hi =>
        covered_of_isLinear hf hm hi (AllocType.isLinear_iff.mpr ⟨ha, hr, hl⟩) (hc i hi)

end

/-! ### Empty planes -/

section

variable {f : FormatInfo} {t : AllocType} {usage : Usage} {w h : ℕ} {i : ℕ}

/-- A covered plane that is not empty has bytes. -/
theorem body_pos (hf : f.WellFormed) (ht : t.WellFormed f) (hi : i < f.npln)
    (hbpp : t.isAfrc ≠ true → 0 < f.bpp.get i) (hc : Covered f t usage w h i)
    (hw : 0 < width f t usage w i) (hh : 0 < height f t usage h i) :
    0 < body f t usage w h i := by
  refine lt_of_lt_of_le ?_ hc.need
  unfold planeNeed plane
  split_ifs with hr
  · -- a started clump is a clump
    obtain ⟨⟨hcw, -⟩, hch, -⟩ := clump_bounds hf ht hr hi
    exact Nat.mul_pos (Nat.mul_pos ((ceilDiv_pos_iff (by omega)).mpr hw)
      ((ceilDiv_pos_iff (by omega)).mpr hh)) (codingUnitBytes_pos ht hr i)
  · have := Nat.mul_pos hw (hbpp hr)
    have := hc.stride hr
    exact Nat.mul_pos (by dsimp only; omega) hh

/-- An empty plane has no bytes. -/
theorem body_eq_zero (ha : t.isAfbc ≠ true) (hl : t.isBlockLinear ≠ true)
    (h₀ : w = 0 ∨ h = 0) : body f t usage w h i = 0 := by
  have hw (j : ℕ) : w = 0 → width f t usage w j = 0 := by
    rintro rfl
    simp [width, baseWidth]
  have hh : h = 0 → height f t usage h i = 0 := by
    rintro rfl
    simp [height, baseHeight]
  have hs : w = 0 → linearStride f t usage w i = 0 := by
    intro h₀
    have hrow (j : ℕ) : rowStride f t usage w j = 0 := by
      simp [rowStride, rowBytes, hw j h₀]
    simp [linearStride, hrow]
  simp only [body, stride, ha, hl, Bool.false_eq_true, if_false]
  rcases h₀ with h₀ | h₀
  · -- no columns
    split_ifs
    · simp [hw i h₀]
    · simp [hs h₀]
  · -- no rows
    split_ifs <;> simp [hh h₀]

end

/-! ### The number of planes -/

section

variable {f : FormatInfo} {t : AllocType} {usage : Usage} {w h : ℕ}

/-- **The third plane of a covered layout starts after the others** unless these are
empty. -/
theorem start_two_ne_zero_iff (hf : f.WellFormed) (ht : t.WellFormed f) (ha : t.isAfbc ≠ true)
    (hl : t.isBlockLinear ≠ true) (hbpp : t.isAfrc ≠ true → 0 < f.bpp.get 0)
    (hc : Covered f t usage w h 0) : start f t usage w h 2 ≠ 0 ↔ 0 < w ∧ 0 < h := by
  constructor
  · intro hne
    by_contra hz
    have h₀ : w = 0 ∨ h = 0 := by omega
    have hshare (i : ℕ) : share f t usage w h i = 0 := by
      simp [share, header, ha, body_eq_zero ha hl h₀]
    exact hne (by simp [start, startFrom, total, hshare])
  · rintro ⟨hw, hh⟩
    have hfa := finalAlign_pos f t 0 usage.hasCpu
    have hbw : 0 < baseWidth f w 0 := by
      rw [baseWidth_zero]
      exact alignUp_pos hf.alignW_pos hw
    have hbh : 0 < baseHeight f h 0 := by
      rw [baseHeight_zero]
      exact alignUp_pos hf.alignH_pos hh
    have hpos := body_pos hf ht hf.npln_pos hbpp hc (alignUp_pos hfa.1 hbw)
      (alignUp_pos hfa.2 hbh)
    have hend := start_add_share_le_total usage w h ht (show 0 < 2 by decide)
    have hstart := total_le_start usage w h ht 2
    unfold share at hend
    omega

end

end Exact

/-! ### Accepted requests -/

/-- The bytes that the code counts for the body of a plane of a finished layout. -/
def bodyBytes (f : FormatInfo) (t : AllocType) (planeInfo : PlaneLayout) (i : ℕ) : Run ℤ :=
  bodySize wrapping f t i planeInfo
    ((planeInfo.get i).allocWidth * (planeInfo.get i).allocHeight / 256)

section

variable (caps : Capabilities) (node : ℕ → Option DecoderPara) (d : BufferDescriptor)
  (c : Choice d.usage d.height)

/-- **A sound layout** of the descriptor `d'` that was derived from `d`. -/
structure LayoutSound (d' : BufferDescriptor) : Prop where
  /-- The planes are laid out in order, disjoint and inside one layer. -/
  ordered : ∃ s, c.layer wrapping (prepared caps node d) noLuma = .ok s ∧
    ∀ i < c.info.npln, ∃ bytes : ℕ, bodyBytes c.info c.allocType d'.planeInfo i = .ok bytes ∧
      (d'.planeInfo.get i).offset + bytes ≤
        if i + 1 < c.info.npln then (d'.planeInfo.get (i + 1)).offset else s.size
  /-- Each plane owns the bytes its samples need. -/
  owned : ∀ i < c.info.npln, ∃ bytes : ℕ,
    bodyBytes c.info c.allocType d'.planeInfo i = .ok bytes ∧
      Exact.planeNeed c.allocType i (d'.planeInfo.get i) ≤ bytes
  /-- A row of a linear or block-linear plane fits in its stride. -/
  stride : c.allocType.isAfrc ≠ true → ∀ i < c.info.npln,
    (d'.planeInfo.get i).allocWidth * c.info.bpp.get i ≤ (d'.planeInfo.get i).byteStride * 8
  /-- Planes are no smaller than requested. -/
  dims : ∀ i < c.info.npln,
    Exact.baseWidth c.info d.width.toNat i ≤ (d'.planeInfo.get i).allocWidth ∧
      Exact.baseHeight c.info d.height.toNat i ≤ (d'.planeInfo.get i).allocHeight
  /-- The planes of the handle are those of the format. -/
  numPlanes : ∀ hnd, makePrivateHandle d' = some hnd → hnd.getNumPlanes = c.info.npln

/-- **When the layout is sound**: the sides of the first plane, in the case of
block-linear, or of every plane, in the case of AFRC, are whole numbers of blocks, and
the offset of the third plane tells two planes from three. -/
structure WholeBlocks : Prop where
  blocks : c.allocType.isBlockLinear = true →
    (Exact.blockGranule c.info d.usage).width ∣ Exact.planeWidth c (prepared caps node d) 0 ∧
      (Exact.blockGranule c.info d.usage).height ∣ Exact.planeHeight c (prepared caps node d) 0
  clumps : c.allocType.isAfrc = true → ∀ i < c.info.npln,
    Exact.planeWidth c (prepared caps node d) i = 0 ∨
      Exact.planeHeight c (prepared caps node d) i = 0 ∨
      c.allocType.afrc.clumpWidth.get i ∣ Exact.planeWidth c (prepared caps node d) i ∧
        c.allocType.afrc.clumpHeight.get i ∣ Exact.planeHeight c (prepared caps node d) i
  twoPlanes : c.info.npln = 2 → d.planeInfo.p2.offset = 0
  threePlanes : c.info.npln = 3 → d.width ≠ 0#32 ∧ d.height ≠ 0#32

end

section

variable {caps : Capabilities} {node : ℕ → Option DecoderPara} {d d' : BufferDescriptor}
  {c : Choice d.usage d.height}

/-- The body of a plane of the exact layer is computed as its closed form. -/
theorem bodyBytes_layer (hB : Exact.Bounds c (prepared caps node d)) {i : ℕ}
    (hi : i < c.info.npln) :
    bodyBytes c.info c.allocType (Exact.layer c (prepared caps node d) 0).planeInfo i =
      .ok (Exact.body c.info c.allocType d.usage (Exact.dims c.format (prepared caps node d)).1
        (Exact.dims c.format (prepared caps node d)).2 i : ℕ) := by
  have hfit := hB.planes i hi
  have hshare : Exact.body c.info c.allocType d.usage _ _ i < 2 ^ 31 :=
    (Nat.le_add_right _ _).trans_lt hfit.share
  have hget := Exact.layer_get c (prepared caps node d) 0 hi
  have hget₀ := Exact.layer_get c (prepared caps node d) 0 c.info_wellFormed.npln_pos
  have key := Exact.exactly_bodySize c.info_wellFormed c.allocType_wellFormed
    c.blockLinear_of_isBlockLinear hi hfit.row (by rw [hget]; rfl) (by rw [hget]; rfl)
    (by rw [hget]; rfl) (by rw [hget₀]; rfl)
  rw [bodyBytes, hget]
  exact (Approx.bodySize checked_approx_wrapping c.info c.allocType i _ _).eq_ok
    (key.ok hshare trivial)

/-- The number of planes is read off the third offset. -/
theorem getNumPlanes_iff (hc : choose caps d = some c)
    (hd : deriveFormatAndSize wrapping caps node d = .ok (.success, d'))
    (hp : d'.planeInfo = (Exact.layer c (prepared caps node d) 0).planeInfo) :
    (∀ hnd, makePrivateHandle d' = some hnd → hnd.getNumPlanes = c.info.npln) ↔
      (c.info.npln = 2 → d.planeInfo.p2.offset = 0) ∧
        (c.info.npln = 3 → Exact.start c.info c.allocType d.usage
          (Exact.dims c.format (prepared caps node d)).1
          (Exact.dims c.format (prepared caps node d)).2 2 ≠ 0) := by
  have hinfo := c.info_eq
  rw [← allocFormat_of_success hc hd] at hinfo
  simp only [makePrivateHandle_eq_some hinfo, forall_eq, PrivateHandle.getNumPlanes, hp,
    decide_eq_true_eq]
  have hpos := c.info_wellFormed.npln_pos
  have hle := c.info_wellFormed.npln_le
  obtain h | h | h : c.info.npln = 1 ∨ c.info.npln = 2 ∨ c.info.npln = 3 := by omega
  · simp [h]
  · -- the third offset is what the descriptor held before
    have h₂ : (Exact.layer c (prepared caps node d) 0).planeInfo.p2 = d.planeInfo.p2 := by
      have hinit : (prepared caps node d).planeInfo = d.planeInfo := prepared_planeInfo
      rw [← hinit]
      exact Exact.stateAt_get_of_le _ _ _ _ _ _ _ (by decide) (by decide) h.le
    simp only [h, h₂]
    simp
  · have h₂ : (Exact.layer c (prepared caps node d) 0).planeInfo.p2.offset =
        Exact.start c.info c.allocType d.usage (Exact.dims c.format (prepared caps node d)).1
          (Exact.dims c.format (prepared caps node d)).2 2 :=
      congrArg PlaneInfo.offset (Exact.layer_get c (prepared caps node d) 0 (by omega : 2 < _))
    simp only [h, h₂]
    simp

/-- A plane ends before the next one starts, or the layer ends. -/
theorem start_add_share_le (c : Choice d.usage d.height) (d' : BufferDescriptor) {i : ℕ}
    (hi : i < c.info.npln) :
    Exact.start c.info c.allocType d.usage (Exact.dims c.format d').1
        (Exact.dims c.format d').2 i +
      Exact.share c.info c.allocType d.usage (Exact.dims c.format d').1
        (Exact.dims c.format d').2 i ≤
      if i + 1 < c.info.npln then ((Exact.layer c d' 0).planeInfo.get (i + 1)).offset
      else (Exact.layer c d' 0).size := by
  split_ifs with hn
  · rw [Exact.layer_get c d' 0 hn]
    exact Exact.total_le_start d.usage _ _ c.allocType_wellFormed (i + 1)
  · rw [Exact.layer_size, show c.info.npln = i + 1 by omega, Exact.total_succ]

/-- The planes are no smaller than requested. -/
theorem base_le_plane (caps : Capabilities) (node : ℕ → Option DecoderPara)
    (c : Choice d.usage d.height) (i : ℕ) :
    Exact.baseWidth c.info d.width.toNat i ≤ Exact.planeWidth c (prepared caps node d) i ∧
      Exact.baseHeight c.info d.height.toNat i ≤ Exact.planeHeight c (prepared caps node d) i := by
  have hf := c.info_wellFormed
  have hfa := Exact.finalAlign_pos c.info c.allocType i d.usage.hasCpu
  obtain ⟨hw, hh⟩ := Exact.le_dims c.format (prepared caps node d)
  rw [prepared_width] at hw
  rw [prepared_height] at hh
  exact ⟨(Nat.div_le_div_right (alignUp_mono hf.alignW_pos hw)).trans (le_alignUp hfa.1),
    (Nat.div_le_div_right (alignUp_mono hf.alignH_pos hh)).trans (le_alignUp hfa.2)⟩

/-- The planes are covered when each owns what it needs, and its rows fit. -/
theorem covered_iff_owned (hB : Exact.Bounds c (prepared caps node d))
    (hp : d'.planeInfo = (Exact.layer c (prepared caps node d) 0).planeInfo) :
    (∀ i < c.info.npln, Exact.Covered c.info c.allocType d.usage
        (Exact.dims c.format (prepared caps node d)).1
        (Exact.dims c.format (prepared caps node d)).2 i) ↔
      (∀ i < c.info.npln, ∃ bytes : ℕ,
        bodyBytes c.info c.allocType d'.planeInfo i = .ok bytes ∧
          Exact.planeNeed c.allocType i (d'.planeInfo.get i) ≤ bytes) ∧
      (c.allocType.isAfrc ≠ true → ∀ i < c.info.npln,
        (d'.planeInfo.get i).allocWidth * c.info.bpp.get i ≤
          (d'.planeInfo.get i).byteStride * 8) := by
  rw [hp]
  constructor
  · intro hc
    refine ⟨fun i hi => ⟨_, bodyBytes_layer hB hi, ?_⟩, fun hr i hi => ?_⟩
    · rw [Exact.layer_get c _ 0 hi]
      exact (hc i hi).need
    · rw [Exact.layer_get c _ 0 hi]
      exact (hc i hi).stride hr
  · rintro ⟨hneed, hstride⟩ i hi
    obtain ⟨bytes, hbytes, hle⟩ := hneed i hi
    rw [bodyBytes_layer hB hi] at hbytes
    rw [Exact.layer_get c _ 0 hi] at hle
    refine ⟨?_, fun hr => ?_⟩
    · have := Except.ok.inj hbytes
      omega
    · have := hstride hr i hi
      rwa [Exact.layer_get c _ 0 hi] at this

/-- The third plane of a covered layout starts after the others unless these are empty. -/
theorem start_two_iff (hna : c.allocType.isAfbc ≠ true) (hn : c.info.npln = 3)
    (h₀ : Exact.Covered c.info c.allocType d.usage (Exact.dims c.format (prepared caps node d)).1
      (Exact.dims c.format (prepared caps node d)).2 0) :
    Exact.start c.info c.allocType d.usage (Exact.dims c.format (prepared caps node d)).1
        (Exact.dims c.format (prepared caps node d)).2 2 ≠ 0 ↔
      d.width ≠ 0#32 ∧ d.height ≠ 0#32 := by
  have hbl : c.allocType.isBlockLinear ≠ true := by
    intro hbl
    have := (blockLinear_of_mem_formats _ c.info_mem (c.blockLinear_of_isBlockLinear hbl)).1
    omega
  obtain ⟨hw, hh⟩ := Exact.dims_pos_iff c.format (prepared caps node d)
    (by rw [← c.isAfbc_eq]; exact hna)
  rw [prepared_width] at hw
  rw [prepared_height] at hh
  rw [Exact.start_two_ne_zero_iff c.info_wellFormed c.allocType_wellFormed hna hbl
    (fun hr => c.bpp_pos hna hr c.info_wellFormed.npln_pos) h₀, hw, hh]

/-- **The layout of an accepted request is sound** exactly when it is made of whole
blocks, as long as no product overflows. -/
theorem layoutSound_iff (hc : choose caps d = some c) (hna : c.allocType.isAfbc ≠ true)
    (hd : deriveFormatAndSize wrapping caps node d = .ok (.success, d'))
    (hB : Exact.Bounds c (prepared caps node d)) :
    LayoutSound caps node d c d' ↔ WholeBlocks caps node d c := by
  obtain ⟨hp, hlayer, hP, -⟩ := layer_eq_exact hc hd hB
  have hnum := getNumPlanes_iff hc hd hp
  have howned := covered_iff_owned hB hp
  have hcov := Exact.covered_all_iff (h := (Exact.dims c.format (prepared caps node d)).2)
    c.info_wellFormed c.allocType_wellFormed c.info_mem c.blockLinear_of_isBlockLinear hna hP
  have hpos := c.info_wellFormed.npln_pos
  constructor
  · -- what is owned gives the blocks, and with them the plane that the count is read off
    intro hs
    have hall := howned.mpr ⟨hs.owned, hs.stride⟩
    obtain ⟨hblocks, hclumps⟩ := hcov.mp hall
    obtain ⟨htwo, hthree⟩ := hnum.mp hs.numPlanes
    exact ⟨hblocks, hclumps, htwo, fun hn =>
      (start_two_iff hna hn (hall 0 hpos)).mp (hthree hn)⟩
  · intro hw
    have hall := hcov.mpr ⟨hw.blocks, hw.clumps⟩
    obtain ⟨hneed, hstride⟩ := howned.mp hall
    refine ⟨⟨_, hlayer, fun i hi => ⟨_, by rw [hp]; exact bodyBytes_layer hB hi, ?_⟩⟩, hneed,
      hstride, fun i hi => ?_, hnum.mpr ⟨hw.twoPlanes, fun hn =>
        (start_two_iff hna hn (hall 0 hpos)).mpr (hw.threePlanes hn)⟩⟩
    · rw [hp, Exact.layer_get c _ 0 hi]
      exact (Nat.add_le_add_left (Nat.le_add_right _ _) _).trans (start_add_share_le c _ hi)
    · rw [hp, Exact.layer_get c _ 0 hi]
      exact base_le_plane caps node c i

end

/-! ### A block-linear buffer of one block -/

/-- 16 × 16 pixels of block-linear NV12 for the GPU. -/
def block : BufferDescriptor := .request 16#32 16#32 0x300#64 0x48100#64 1#32

/-- The descriptor that is derived: the second plane has 16 samples of 16 bits a row, in a
stride of 16 bytes. -/
def blockDerived : BufferDescriptor :=
  { block with
    size := 384
    allocFormat := ⟨.unorm, 0x100#32, 0x40000#32⟩
    pixelStride := 16
    planeInfo := (PlaneLayout.zero.set 0 ⟨0, 16, 16, 16⟩).set 1 ⟨256, 16, 16, 16⟩ }

/-- The format that is chosen for it. -/
def blockChoice : Choice block.usage block.height := (choose .gpuOnly block).get (by decide)

theorem choose_block : choose .gpuOnly block = some blockChoice := (Option.some_get _).symm

/-- The equivalence, at the block. -/
theorem layoutSound_iff_block :
    LayoutSound .gpuOnly noDecoder block blockChoice blockDerived ↔
      WholeBlocks .gpuOnly noDecoder block blockChoice :=
  layoutSound_iff choose_block (by decide) (by decide +kernel) (by decide +kernel)

/-- **The block is accepted without overflow, and its layout is not sound.** -/
theorem not_layoutSound_block :
    deriveFormatAndSize wrapping .gpuOnly noDecoder block = .ok (.success, blockDerived) ∧
      choose .gpuOnly block = some blockChoice ∧
      Exact.Bounds blockChoice (prepared .gpuOnly noDecoder block) ∧
      blockChoice.allocType.isAfbc ≠ true ∧
      ¬LayoutSound .gpuOnly noDecoder block blockChoice blockDerived := by
  refine ⟨by decide +kernel, choose_block, by decide +kernel, by decide, fun h => ?_⟩
  have hrow := h.stride (by decide) 1 (by decide)
  exact absurd hrow (by decide)

end Gralloc
