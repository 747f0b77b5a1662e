import Gralloc.Alloc.Exact

/-!
# The checked computation of a plane is the exact one

Every function of the size computation is specified here, in the checked reading, as a
`CInt.Exactly`: it returns the closed form of `Gralloc.Exact`, under bounds that keep its
products within their types, and on condition of the divisibility assertions it makes.
The bounds are stated on the closed forms and are *exact* – a run that returns satisfied
them – and they are few, because the geometry of formats and allocation types is: no
plane is rounded up by more than 512 pixels (`Gralloc.Exact.finalAlign_le`), so that
dimensions of an `int` never overflow in a `uint32_t` (`Gralloc.Exact.exactly_getPixelWH`),
and the intermediate products of a row are all below the largest of them.

The order is that of the source: geometry, dimensions, strides, bodies and headers.
-/

namespace Gralloc

open CInt

namespace Exact

section

variable {f : FormatInfo} {t : AllocType}

/-! ### Geometry -/

theorem hsub_pos (hf : f.WellFormed) (hy : f.isYuv = true) : 0 < f.hsub := by
  have := (hf.hsub_yuv hy).1
  omega

theorem vsub_pos (hf : f.WellFormed) (hy : f.isYuv = true) : 0 < f.vsub := by
  have := (hf.vsub_yuv hy).1
  omega

theorem pagingTile_pos (ht : t.WellFormed f) (ha : t.isAfrc = true) :
    0 < t.afrc.pagingTileWidth ∧ 0 < t.afrc.pagingTileHeight := by
  have := ht.pagingTile ha
  omega

theorem codingUnitBytes_pos (ht : t.WellFormed f) (ha : t.isAfrc = true) (plane : ℕ) :
    0 < t.codingUnitBytes plane := by
  have := ht.codingUnit ha plane
  omega

/-- A clump has between 4 and 16 pixels a side. -/
theorem clump_bounds (hf : f.WellFormed) (ht : t.WellFormed f) (ha : t.isAfrc = true) {i : ℕ}
    (hi : i < f.npln) :
    (4 ≤ t.afrc.clumpWidth.get i ∧ t.afrc.clumpWidth.get i ≤ 16) ∧
      4 ≤ t.afrc.clumpHeight.get i ∧ t.afrc.clumpHeight.get i ≤ 8 := by
  have hc := ht.clump ha i hi
  have hn := hf.ncmp_pos i hi
  generalize f.ncmp.get i = n at hc hn
  rcases ht.pagingTile ha with ⟨h₁, h₂⟩ | ⟨h₁, h₂⟩ <;> rw [h₁, h₂] at hc <;>
    obtain ⟨hn₁, hn₂⟩ := hn <;> interval_cases n <;>
    (simp only [afrcClump, Option.some.injEq, Prod.mk.injEq] at hc; omega)

/-- The samples of a column of a paging tile divide its 64 coding units. -/
theorem pagingTileSamples_dvd (hf : f.WellFormed) (ht : t.WellFormed f) (ha : t.isAfrc = true)
    {i : ℕ} (hi : i < f.npln) :
    t.afrc.pagingTileHeight * t.afrc.clumpHeight.get i ∣ 64 := by
  have hc := ht.clump ha i hi
  have hn := hf.ncmp_pos i hi
  generalize f.ncmp.get i = n at hc hn
  rcases ht.pagingTile ha with ⟨h₁, h₂⟩ | ⟨h₁, h₂⟩ <;> rw [h₁, h₂] at hc <;> rw [h₂] <;>
    obtain ⟨hn₁, hn₂⟩ := hn <;> interval_cases n <;>
    (simp only [afrcClump, Option.some.injEq, Prod.mk.injEq] at hc; rw [← hc.2] <;> decide)

/-- Paging tiles have samples. -/
theorem pagingTileSamples_pos (hf : f.WellFormed) (ht : t.WellFormed f) (ha : t.isAfrc = true)
    {i : ℕ} (hi : i < f.npln) : 0 < t.afrc.pagingTileHeight * t.afrc.clumpHeight.get i :=
  Nat.pos_of_dvd_of_pos (pagingTileSamples_dvd hf ht ha hi) (by decide)

theorem sbSize_le (t : AllocType) (f : FormatInfo) (plane : ℕ) :
    (getAfbcSbSize t f plane).width ≤ 64 ∧ (getAfbcSbSize t f plane).height ≤ 16 := by
  have h (b : AllocBaseType) :
      (getAfbcSbSizeOfBase b).width ≤ 64 ∧ (getAfbcSbSizeOfBase b).height ≤ 16 := by
    cases b <;> decide
  unfold getAfbcSbSize
  split_ifs
  · exact h _
  · exact h _

theorem finalAlign_pos (f : FormatInfo) (t : AllocType) (plane : ℕ) (cpu : Bool) :
    0 < (finalAlign f t plane cpu).width ∧ 0 < (finalAlign f t plane cpu).height := by
  simp only [finalAlign]
  omega

theorem afbcTile_le (f : FormatInfo) (t : AllocType) (plane : ℕ) :
    (afbcTile f t plane).width ≤ 512 ∧ (afbcTile f t plane).height ≤ 128 := by
  have hsb := sbSize_le t f plane
  simp only [afbcTile]
  split_ifs
  · exact ⟨by dsimp only; omega, by dsimp only; omega⟩
  · exact ⟨by dsimp only; omega, by dsimp only; omega⟩
  · omega

theorem afbcPixelAlign_le (f : FormatInfo) (t : AllocType) (plane : ℕ) :
    (afbcPixelAlign f t plane).width ≤ 512 ∧ (afbcPixelAlign f t plane).height ≤ 128 := by
  have hsb := sbSize_le t f plane
  have htile := afbcTile_le f t plane
  simp only [afbcPixelAlign]
  constructor
  · split_ifs <;> omega
  · split_ifs <;> omega

theorem pixelAlign_le (hf : f.WellFormed) (ht : t.WellFormed f) {i : ℕ} (hi : i < f.npln)
    (cpu : Bool) :
    (pixelAlign f t i cpu).width ≤ 512 ∧ (pixelAlign f t i cpu).height ≤ 512 := by
  unfold pixelAlign
  split_ifs with hcpu ha hr hb
  · have := hf.alignWCpu_le
    exact ⟨by dsimp only; omega, by dsimp only; omega⟩
  · have := afbcPixelAlign_le f t i
    omega
  · obtain ⟨⟨-, hw⟩, -, hh⟩ := clump_bounds hf ht hr hi
    rcases ht.pagingTile hr with ⟨h₁, h₂⟩ | ⟨h₁, h₂⟩ <;> rw [h₁, h₂] <;>
      exact ⟨by dsimp only; omega, by dsimp only; omega⟩
  · decide
  · decide

/-- No plane is rounded up by more than 512 pixels. -/
theorem finalAlign_le (hf : f.WellFormed) (ht : t.WellFormed f) {i : ℕ} (hi : i < f.npln)
    (cpu : Bool) :
    (finalAlign f t i cpu).width ≤ 512 ∧ (finalAlign f t i cpu).height ≤ 512 := by
  have hts := hf.tileSize_le
  have hpa := pixelAlign_le hf ht hi cpu
  simp only [finalAlign]
  omega

/-- The CPU has planes of formats without an alignment of their own left as they are. -/
theorem finalAlign_cpu (t : AllocType) (hw : f.alignWCpu = 1) (hts : f.tileSize = 1) (i : ℕ) :
    finalAlign f t i true = ⟨1, 1⟩ := by
  simp [finalAlign, pixelAlign, hw, hts]

theorem finalAlign_blockLinear (hl : t.isBlockLinear = true) (hts : f.tileSize = 1) (i : ℕ) :
    finalAlign f t i false = ⟨16, 16⟩ := by
  have ha := AllocType.not_isAfbc_of_isBlockLinear hl
  have hr := AllocType.not_isAfrc_of_isBlockLinear hl
  simp [finalAlign, pixelAlign, ha, hr, hl, hts]

theorem finalAlign_linear (hl : t.isLinear = true) (hts : f.tileSize = 1) (i : ℕ) :
    finalAlign f t i false = ⟨1, 1⟩ := by
  obtain ⟨ha, hr, hb⟩ := AllocType.isLinear_iff.mp hl
  simp [finalAlign, pixelAlign, ha, hr, hb, hts]

theorem subsampling_cases (hf : f.WellFormed) (i : ℕ) :
    ((f.subsampling i).width = 1 ∨ (f.subsampling i).width = 2) ∧
      ((f.subsampling i).height = 1 ∨ (f.subsampling i).height = 2) := by
  unfold FormatInfo.subsampling
  split_ifs with h
  · exact ⟨(hf.hsub_yuv h.2).1, (hf.vsub_yuv h.2).1⟩
  · exact ⟨Or.inl rfl, Or.inl rfl⟩

end

/-! ### Dimensions -/

section

variable {f : FormatInfo} {t : AllocType} {usage : Usage} {w h : ℕ} {i : ℕ}

theorem baseWidth_le (hf : f.WellFormed) : baseWidth f w i < w + 4 := by
  have := alignUp_lt_add (v := w) hf.alignW_pos
  have := Nat.div_le_self (alignUp w f.alignW) (f.subsampling i).width
  have := hf.alignW_le
  unfold baseWidth
  omega

theorem baseHeight_le (hf : f.WellFormed) : baseHeight f h i < h + 2 := by
  have := alignUp_lt_add (v := h) hf.alignH_pos
  have := Nat.div_le_self (alignUp h f.alignH) (f.subsampling i).height
  have := hf.alignH_le
  unfold baseHeight
  omega

theorem width_lt (usage : Usage) (w : ℕ) (hf : f.WellFormed) (ht : t.WellFormed f)
    (hi : i < f.npln) : width f t usage w i < w + 516 := by
  have := alignUp_lt_add (v := baseWidth f w i) (finalAlign_pos f t i usage.hasCpu).1
  have := (finalAlign_le hf ht hi usage.hasCpu).1
  have := baseWidth_le (w := w) (i := i) hf
  unfold width
  omega

/-- **The dimensions of a plane** never overflow from those of an `int`. -/
theorem exactly_getPixelWH (hf : f.WellFormed) (ht : t.WellFormed f) (hi : i < f.npln)
    (hw : w < 2 ^ 31) (hh : h < 2 ^ 31) :
    Exactly True True (getPixelWH checked f t i usage.hasCpu w h)
      (width f t usage w i, height f t usage h i) := by
  have hfa := finalAlign_pos f t i usage.hasCpu
  have hfl := finalAlign_le hf ht hi usage.hasCpu
  have hbw := baseWidth_le (w := w) (i := i) hf
  have hbh := baseHeight_le (h := h) (i := i) hf
  have haw := hf.alignW_le
  have hah := hf.alignH_le
  have hsub := subsampling_cases hf i
  refine ((Exactly.alignU32 w hf.alignW_pos).bind fun _ _ =>
    (Exactly.alignU32 h hf.alignH_pos).bind fun _ _ =>
    (Exactly.udiv _ _).bind fun _ _ => (Exactly.udiv _ _).bind fun _ _ =>
    (Exactly.alignU32 (baseWidth f w i) hfa.1).bind fun _ _ =>
    (Exactly.alignU32 (baseHeight f h i) hfa.2).bind fun _ _ =>
    Exactly.pure (width f t usage w i, height f t usage h i)).congr ?_ ?_ ?_
  · -- an `int` is far enough from the end of a `uint32_t` for two roundings
    simp only [true_and, and_true, true_iff]
    omega
  · intro _
    simp only [true_and, and_true, true_iff]
    omega
  · exact fun _ _ => rfl

end

/-! ### Strides -/

section

variable {f : FormatInfo} {t : AllocType} {usage : Usage} {w h : ℕ} {i : ℕ}

theorem exactly_lcm {a b : ℕ} (hab : a * b < 2 ^ 32) :
    Exactly True True (lcm checked a b) (if a ≠ 0 ∧ b ≠ 0 then a.lcm b else max a b) := by
  unfold lcm
  split_ifs with hne
  · refine ((Exactly.u32 (a * b)).bind fun _ _ => Exactly.udiv (a * b) (gcd a b)).congr ?_ ?_ ?_
    · simpa only [and_true, true_iff] using hab
    · have := Nat.gcd_pos_of_pos_left b (Nat.pos_of_ne_zero hne.1)
      simpa only [gcd_eq, true_and, true_iff] using fun _ => this
    · intro _ _
      rw [gcd_eq, Nat.lcm_eq_mul_div]
  · exact Exactly.pure _

theorem exactly_strideAlign (usage : Usage) (hf : f.WellFormed) (hi : i < f.npln) :
    Exactly True (usage.hasCpu = true → f.bpp.get i * f.alignWCpu % 8 = 0)
      (strideAlign checked f usage i) (rowAlign f usage i) := by
  have hbpp : f.bpp.get i * f.alignWCpu ≤ 64 * 16 :=
    Nat.mul_le_mul (hf.bpp_le i (hi.trans_le hf.npln_le)) hf.alignWCpu_le
  have hcpu : cpuAlign f usage i ≤ 128 := by
    unfold cpuAlign
    split_ifs <;> omega
  have hhw : hwAlign f usage ≤ 64 := by
    unfold hwAlign
    split_ifs <;> decide
  have hmul : hwAlign f usage * cpuAlign f usage i < 2 ^ 32 :=
    (Nat.mul_le_mul hhw hcpu).trans_lt (by decide)
  refine ((Exactly.stepIf 0 fun _ => (Exactly.assert (f.bpp.get i * f.alignWCpu % 8 = 0)).bind
    fun _ _ => Exactly.pure (f.bpp.get i * f.alignWCpu / 8)).bind
    fun _ _ => exactly_lcm hmul).congr ?_ ?_ ?_
  · simp
  · simp
  · exact fun _ _ => rfl

/-- **The stride of an AFRC plane.** -/
theorem exactly_afrcByteStride (hf : f.WellFormed) (ht : t.WellFormed f) (ha : t.isAfrc = true)
    (hi : i < f.npln) :
    Exactly (rowProduct f t usage w i < 2 ^ 32) (Checks f t usage w i)
      (afrcByteStride checked t i (width f t usage w i)) (stride f t usage w i) := by
  obtain ⟨⟨hcw, -⟩, -⟩ := clump_bounds hf ht ha hi
  have hcw₀ : 0 < t.afrc.clumpWidth.get i := by omega
  have hptw := (pagingTile_pos ht ha).1
  have hpos := pagingTileSamples_pos hf ht ha hi
  refine .congr (.bind (.udiv _ _) fun _ _ => .bind (.udiv _ _) fun _ _ =>
    .bind (.u32 _) fun _ _ => .bind (.umod _ _) fun _ _ => .bind (.assert _) fun _ _ =>
    .udiv _ _) ?_ ?_ ?_
  · simp [rowProduct, pagingTiles, ha]
  · intro _
    simp only [Checks, rowProduct, pagingTiles, ha, if_true, hpos, hptw, hcw₀, true_and, and_true]
  · intro _ _
    simp only [stride, pagingTiles, ha, if_true]

/-- **The stride of an AFBC plane.** -/
theorem exactly_afbcByteStride (hr : t.isAfrc ≠ true) (ha : t.isAfbc = true) :
    Exactly (rowProduct f t usage w i < 2 ^ 32) (Checks f t usage w i)
      (afbcByteStride checked f i (width f t usage w i)) (stride f t usage w i) := by
  refine .congr (.bind (.u32 _) fun _ _ => .bind (.assert _) fun _ _ => .pure _) ?_ ?_ ?_
  · simp [rowProduct, ha, hr]
  · simp [Checks, rowProduct, ha, hr]
  · simp [stride, ha, hr]

/-- The sides of the samples of a block are powers of two. -/
theorem blockRect_cases (hf : f.WellFormed) (hb : f.blockLinear = true) (i : ℕ) :
    ((blockRect f i).width = 8 ∨ (blockRect f i).width = 16) ∧
      ((blockRect f i).height = 8 ∨ (blockRect f i).height = 16) := by
  have hy := hf.isYuv_of_blockLinear hb
  unfold blockRect
  split_ifs
  · rcases (hf.hsub_yuv hy).1 with h₁ | h₁ <;> rcases (hf.vsub_yuv hy).1 with h₂ | h₂ <;>
      rw [h₁, h₂] <;> decide
  · decide

theorem exactly_blockSamples (hf : f.WellFormed) (hb : f.blockLinear = true) :
    Exactly True True (blockSamples f i) (blockRect f i) := by
  have hy := hf.isYuv_of_blockLinear hb
  have hh := hsub_pos hf hy
  have hv := vsub_pos hf hy
  refine .ite (fun h => ?_) fun h => ?_
  · refine .congr (.bind (.udiv _ _) fun _ _ => .bind (.udiv _ _) fun _ _ => .pure _) ?_ ?_ ?_
    · simp
    · simp [hh, hv]
    · simp [blockRect, h]
  · rw [blockRect, if_neg h]
    exact .pure _

/-- **The stride of a block-linear plane.** -/
theorem exactly_blockLinearByteStride (hf : f.WellFormed) (hb : f.blockLinear = true)
    (hr : t.isAfrc ≠ true) (ha : t.isAfbc ≠ true) (hl : t.isBlockLinear = true) :
    Exactly (rowProduct f t usage w i < 2 ^ 32) (Checks f t usage w i)
      (blockLinearByteStride checked f i (width f t usage w i) (width f t usage w 0))
      (stride f t usage w i) := by
  have hpos : 0 < (blockRect f i).height := by
    rcases (blockRect_cases hf hb i).2 with h | h <;> omega
  refine .congr (.bind (.assert _) fun _ _ => .bind (exactly_blockSamples hf hb) fun _ _ =>
    .bind (.umod _ _) fun _ _ => .bind (.assert _) fun _ _ => .bind (.assert _) fun _ _ =>
    .bind (.u32 _) fun _ _ => .udiv _ _) ?_ ?_ ?_
  · simp [rowProduct, bytesPerBlock, ha, hr, hl]
  · intro _
    simp only [Checks, ha, hr, hl, Bool.false_eq_true, if_true, if_false, bytesPerBlock, hpos,
      true_and, and_true, Nat.mod_mod_of_dvd _ (show 8 ∣ 2 ^ 32 by decide)]
  · simp [stride, bytesPerBlock, ha, hr, hl]

/-- The rows of YV12 shared by the CPU and the hardware are aligned to 32 bytes. -/
theorem rowAlign_of_isSharedYv12 (hf : f.WellFormed) (hs : isSharedYv12 f usage = true)
    (hi : i < 3) : rowAlign f usage i = 32 := by
  simp only [isSharedYv12, Bool.and_eq_true, beq_iff_eq] at hs
  obtain ⟨⟨hid, hhw⟩, hcpu⟩ := hs
  obtain ⟨hy, -, hw, hbpp⟩ := hf.yv12 hid
  have h₁ := hwAlign_of_isYuv hy hhw
  have h₂ : cpuAlign f usage i = 16 := by
    rw [cpuAlign, if_pos hcpu, hw, hbpp]
    interval_cases i <;> rfl
  rw [rowAlign, h₁, h₂]
  decide

theorem exactly_alignTileStride (hf : f.WellFormed) {b align : ℕ} (ha : 0 < align) :
    Exactly (b * f.tileSize + align - 1 < 2 ^ 32) True (alignTileStride checked f b align)
      (alignUp (b * f.tileSize) align / f.tileSize) := by
  have := hf.tileSize_pos
  refine .congr (.bind (.u32 _) fun _ _ => .bind (.alignU32 _ ha) fun _ _ => .udiv _ _) ?_ ?_ ?_
  · rw [and_true]
    omega
  · simp [hf.tileSize_pos]
  · exact fun _ _ => rfl

theorem exactly_updateYv12Stride {luma align : ℕ} (ha : 0 < align) :
    Exactly ((if i = 0 then luma + 2 * align else luma / 2 + align) - 1 < 2 ^ 32)
      (i ≠ 0 → luma / 2 = alignUp (luma / 2) align ∧ luma / 2 % 16 = 0)
      (updateYv12Stride checked i luma align)
      (if i = 0 then alignUp luma (2 * align) else luma / 2) := by
  unfold updateYv12Stride
  by_cases hi : i = 0
  · rw [if_pos hi, if_pos hi, if_pos hi]
    exact (Exactly.alignU32 luma (by omega)).congr Iff.rfl (fun _ => by simp [hi]) fun _ _ => rfl
  · rw [if_neg hi, if_neg hi, if_neg hi]
    refine .congr (.bind (.alignU32 _ ha) fun _ _ => .bind (.assert _) fun _ _ =>
      .bind (.assert _) fun _ _ => .pure _) ?_ ?_ ?_
    · simp
    · simp [hi]
    · exact fun _ _ => rfl

theorem exactly_rowStride (hf : f.WellFormed) :
    Exactly (rowAlign f usage i ≠ 0 →
        rowBytes f t usage w i * f.tileSize + rowAlign f usage i - 1 < 2 ^ 32) True
      (stepIf (rowAlign f usage i ≠ 0)
        (alignTileStride checked f (rowBytes f t usage w i) (rowAlign f usage i))
        (rowBytes f t usage w i))
      (rowStride f t usage w i) :=
  (Exactly.stepIf _ fun h => exactly_alignTileStride hf (Nat.pos_of_ne_zero h)).congr Iff.rfl
    (fun _ => by simp) fun _ _ => rfl

/-- The rows of YV12 do not overflow from a width of an `int`. -/
theorem rowStride_lt_of_isSharedYv12 (hf : f.WellFormed) (ht : t.WellFormed f)
    (hs : isSharedYv12 f usage = true) (hw : w < 2 ^ 31) :
    rowStride f t usage w 0 + 64 < 2 ^ 32 := by
  have hlt := width_lt usage w hf ht hf.npln_pos
  have hra := rowAlign_of_isSharedYv12 (i := 0) hf hs (by decide)
  simp only [isSharedYv12, Bool.and_eq_true, beq_iff_eq] at hs
  obtain ⟨-, htile, -, hbpp⟩ := hf.yv12 hs.1.1
  have hrow : rowBytes f t usage w 0 = width f t usage w 0 := by
    rw [rowBytes, hbpp]
    exact Nat.mul_div_cancel _ (by decide)
  have := alignUp_lt_add (v := rowBytes f t usage w 0) (show 0 < 32 by decide)
  rw [rowStride, hra, if_pos (by decide), htile, Nat.mul_one, Nat.div_one]
  omega

theorem exactly_yv12Stride (hf : f.WellFormed) (ht : t.WellFormed f)
    (hs : isSharedYv12 f usage = true) (hi : i < f.npln) (hw : w < 2 ^ 31) :
    Exactly True (i ≠ 0 →
        linearStride f t usage w i = alignUp (linearStride f t usage w i) (rowAlign f usage i) ∧
          linearStride f t usage w i % 16 = 0)
      (updateYv12Stride checked i
        (if i = 0 then rowStride f t usage w i else linearStride f t usage w 0)
        (rowAlign f usage i))
      (linearStride f t usage w i) := by
  have hra := rowAlign_of_isSharedYv12 hf hs (hi.trans_le hf.npln_le)
  have hlt := rowStride_lt_of_isSharedYv12 hf ht hs hw
  have h₀ : linearStride f t usage w 0 = alignUp (rowStride f t usage w 0) 64 := by
    rw [linearStride, if_pos hs, if_pos rfl, rowAlign_of_isSharedYv12 hf hs (by decide)]
  have hal := alignUp_lt_add (v := rowStride f t usage w 0) (show 0 < 64 by decide)
  by_cases hi₀ : i = 0
  · -- luma rows are aligned to 64 bytes
    subst hi₀
    rw [hra, if_pos rfl]
    refine (exactly_updateYv12Stride (by decide)).congr ?_ ?_ ?_
    · simp only [if_true, true_iff]
      omega
    · simp
    · exact fun _ _ => h₀
  · -- chroma rows are half of them, which the assertions check
    have hi' : linearStride f t usage w i = linearStride f t usage w 0 / 2 := by
      rw [linearStride, if_pos hs, if_neg hi₀, linearStride, if_pos hs, if_pos rfl]
    rw [if_neg hi₀, hra, hi']
    refine (exactly_updateYv12Stride (by decide)).congr ?_ ?_ ?_
    · simp only [hi₀, if_false, true_iff]
      omega
    · exact fun _ => Iff.rfl
    · exact fun _ _ => by rw [if_neg hi₀]

/-- **The stride of a linear plane**, for dimensions of an `int`. -/
theorem exactly_linearByteStride (usage : Usage) (hf : f.WellFormed) (ht : t.WellFormed f)
    (hr : t.isAfrc ≠ true) (ha : t.isAfbc ≠ true) (hl : t.isBlockLinear ≠ true)
    (hi : i < f.npln) (hw : w < 2 ^ 31) :
    Exactly (rowProduct f t usage w i < 2 ^ 32) (Checks f t usage w i)
      (linearByteStride checked f usage i (width f t usage w i) (linearStride f t usage w 0))
      (stride f t usage w i) := by
  have hlt := width_lt usage w hf ht hi
  have hbits : width f t usage w i * f.bpp.get i < 2 ^ 64 :=
    (Nat.mul_lt_mul_of_lt_of_le (by omega) (hf.bpp_le i (hi.trans_le hf.npln_le))
      (by decide)).trans (by decide : 2 ^ 32 * 64 < 2 ^ 64)
  have hrow : rowBytes f t usage w i ≤ rowBytes f t usage w i * f.tileSize :=
    Nat.le_mul_of_pos_right _ hf.tileSize_pos
  refine .congr (.bind (.assert _) fun _ _ => .bind (.u64 _) fun _ _ => .bind (.u32 _) fun _ _ =>
    .bind (exactly_strideAlign usage hf hi) fun _ _ =>
    .bind (exactly_rowStride (t := t) (w := w) hf) fun _ _ =>
    .stepIf _ fun hs => exactly_yv12Stride hf ht hs hi hw) ?_ ?_ ?_
  · -- where rows are aligned, the sum of the rounding is the largest product
    simp only [rowProduct, hr, ha, hl, Bool.false_eq_true, if_false, true_and, hbits,
      implies_true, and_true]
    change _ ↔ rowBytes f t usage w i < 2 ^ 32 ∧ _
    split_ifs with h
    · omega
    · simp [h]
  · intro _
    simp only [Checks, hr, ha, hl, Bool.false_eq_true, if_false, true_and,
      Nat.mod_mod_of_dvd _ (show 8 ∣ 2 ^ 32 by decide)]
  · intro _ _
    simp only [stride, hr, ha, hl, Bool.false_eq_true, if_false]
    split_ifs with hs
    · rfl
    · rw [linearStride, if_neg hs]

/-- The luma stride only matters to the other planes. -/
theorem linearByteStride_zero (A : Arith) (f : FormatInfo) (usage : Usage) (allocWidth a b : ℕ) :
    linearByteStride A f usage 0 allocWidth a = linearByteStride A f usage 0 allocWidth b := rfl

/-- **The stride of a plane**, once the layout holds its dimensions and the planes before
it. -/
theorem exactly_byteStride (hf : f.WellFormed) (ht : t.WellFormed f)
    (hb : t.isBlockLinear = true → f.blockLinear = true) (hi : i < f.npln) (hw : w < 2 ^ 31)
    {planeInfo : PlaneLayout} (hp : (planeInfo.get i).allocWidth = width f t usage w i)
    (h₀ : (planeInfo.get 0).allocWidth = width f t usage w 0)
    (hs : i ≠ 0 → (planeInfo.get 0).byteStride = stride f t usage w 0) :
    Exactly (rowProduct f t usage w i < 2 ^ 32) (Checks f t usage w i)
      (byteStride checked f t usage i planeInfo) (stride f t usage w i) := by
  simp only [byteStride, hp, h₀]
  refine .ite (fun hr => exactly_afrcByteStride hf ht hr hi) fun hr =>
    .ite (fun ha => exactly_afbcByteStride hr ha) fun ha =>
    .ite (fun hl => exactly_blockLinearByteStride hf (hb hl) hr ha hl) fun hl => ?_
  have key := exactly_linearByteStride usage hf ht hr ha hl hi hw
  by_cases hi₀ : i = 0
  · -- the layout does not hold the luma stride yet, which is not read either
    subst hi₀
    rwa [linearByteStride_zero]
  · have h₁ : stride f t usage w 0 = linearStride f t usage w 0 := by
      simp only [stride, hr, ha, hl, Bool.false_eq_true, if_false]
    rwa [hs hi₀, h₁]

end

/-! ### Bodies and headers -/

section

variable {f : FormatInfo} {t : AllocType} {usage : Usage} {w h : ℕ} {i : ℕ}

theorem afbcBufferAlignment_pos (t : AllocType) : 0 < afbcBufferAlignment t := by
  unfold afbcBufferAlignment
  split_ifs <;> decide

/-- The alignment of AFBC bodies divides the range of an `int`, so that an aligned body
that fits was aligned without overflow. -/
theorem afbcBufferAlignment_dvd (t : AllocType) : afbcBufferAlignment t ∣ 2 ^ 31 := by
  unfold afbcBufferAlignment
  split_ifs <;> decide

theorem exactly_afbcBufferAlign (t : AllocType) (n : ℕ) :
    Exactly (alignUp n (afbcBufferAlignment t) < 2 ^ 31) True (afbcBufferAlign checked t n)
      (alignUp n (afbcBufferAlignment t) : ℕ) :=
  .alignI32_of_dvd n (afbcBufferAlignment_pos t) (afbcBufferAlignment_dvd t)

/-- A second body follows the first one. -/
theorem exactly_doubleBodyIf (t : AllocType) {n : ℕ} (c : Prop) [Decidable c] (hn : n < 2 ^ 31) :
    Exactly ((if c then n + alignUp n (afbcBufferAlignment t) else n) < 2 ^ 31) True
      (stepIf c (doubleBody checked t n) n)
      (if c then n + alignUp n (afbcBufferAlignment t) else n : ℕ) := by
  refine .congr (.stepIfNat n fun _ => .bind (exactly_afbcBufferAlign t n) fun _ _ =>
    .i32 (n + alignUp n (afbcBufferAlignment t))) ?_ ?_ ?_
  · split_ifs with hc
    · simp only [hc, true_imp_iff]
      omega
    · simp only [hc, false_imp_iff, hn]
  · simp
  · exact fun _ _ => rfl

theorem exactly_afbcBodySize (ha : t.isAfbc = true) :
    Exactly (body f t usage w h i < 2 ^ 31) True
      (afbcBodySize checked f t i (sbNum f t usage w h i)) (body f t usage w h i : ℕ) := by
  have hle := le_alignUp (v := sbNum f t usage w h i * sbBytes f t i) (afbcBufferAlignment_pos t)
  refine .congr (.bind (.u32 _) fun _ _ => .bind (.i32 _) fun hB _ =>
    .bind (.alignI32_stepIf _ (afbcBufferAlignment_pos t) (afbcBufferAlignment_dvd t) hB)
      fun hB' _ => exactly_doubleBodyIf t _ hB') ?_ ?_ ?_
  · simp only [body, afbcBody, ha, if_true]
    split_ifs <;> omega
  · simp
  · simp only [body, afbcBody, ha, if_true, implies_true]

theorem exactly_afrcBodySize (hf : f.WellFormed) (ht : t.WellFormed f) (hr : t.isAfrc = true)
    (ha : t.isAfbc ≠ true) (hi : i < f.npln) :
    Exactly (body f t usage w h i < 2 ^ 31) True
      (afrcBodySize checked t i (width f t usage w i) (height f t usage h i))
      (body f t usage w h i : ℕ) := by
  obtain ⟨⟨hcw, -⟩, hch, -⟩ := clump_bounds hf ht hr hi
  refine .congr (.bind (.udiv _ _) fun _ _ => .bind (.udiv _ _) fun _ _ =>
    .bind (.u32 _) fun _ _ => .i32 _) ?_ ?_ ?_
  · simp only [body, hr, ha, Bool.false_eq_true, if_true, if_false, true_and]
    omega
  · intro _
    simp only [true_iff, and_true]
    omega
  · simp only [body, hr, ha, Bool.false_eq_true, if_true, if_false, implies_true]

/-- A block-linear row of blocks is at most the blocks of the row. -/
theorem stride_mul_blockRect_le (f : FormatInfo) (usage : Usage) (w i : ℕ)
    (hr : t.isAfrc ≠ true) (ha : t.isAfbc ≠ true)
    (hl : t.isBlockLinear = true) :
    stride f t usage w i * (blockRect f i).height ≤ rowProduct f t usage w i := by
  simp only [stride, rowProduct, hr, ha, hl, Bool.false_eq_true, if_true, if_false]
  exact Nat.div_mul_le_self _ _

theorem exactly_blockLinearBodySize (hf : f.WellFormed) (hb : f.blockLinear = true)
    (hr : t.isAfrc ≠ true) (ha : t.isAfbc ≠ true) (hl : t.isBlockLinear = true)
    (hrow : rowProduct f t usage w i < 2 ^ 32) :
    Exactly (body f t usage w h i < 2 ^ 31) True
      (blockLinearBodySize checked f i (stride f t usage w i) (height f t usage h 0))
      (body f t usage w h i : ℕ) := by
  have hv := vsub_pos hf (hf.isYuv_of_blockLinear hb)
  have hle := stride_mul_blockRect_le f usage w i hr ha hl
  have hrect : (if 0 < i then 16 / f.vsub else 16) = (blockRect f i).height := by
    rw [blockRect]
    split_ifs <;> rfl
  refine .congr (.bind (.stepIf _ fun _ => .udiv _ _) fun _ _ =>
    .bind (.u32 _) fun _ _ => .bind (.u32 _) fun _ _ => .i32 _) ?_ ?_ ?_
  · simp only [body, hr, ha, hl, Bool.false_eq_true, if_true, if_false, hrect]
    simp only [implies_true, true_and]
    omega
  · simp [hv]
  · simp only [body, hr, ha, hl, Bool.false_eq_true, if_true, if_false, hrect, implies_true]

theorem exactly_linearBodySize (hr : t.isAfrc ≠ true) (ha : t.isAfbc ≠ true)
    (hl : t.isBlockLinear ≠ true) :
    Exactly (body f t usage w h i < 2 ^ 31) True
      (linearBodySize checked (stride f t usage w i) (height f t usage h i))
      (body f t usage w h i : ℕ) := by
  refine .congr (.bind (.u32 _) fun _ _ => .i32 _) ?_ ?_ ?_
  · simp only [body, hr, ha, hl, Bool.false_eq_true, if_false]
    omega
  · simp
  · simp only [body, hr, ha, hl, Bool.false_eq_true, if_false, implies_true]

/-- **The body of a plane**, once the layout holds its dimensions and its stride. -/
theorem exactly_bodySize (hf : f.WellFormed) (ht : t.WellFormed f)
    (hb : t.isBlockLinear = true → f.blockLinear = true) (hi : i < f.npln)
    (hrow : rowProduct f t usage w i < 2 ^ 32) {planeInfo : PlaneLayout}
    (hw : (planeInfo.get i).allocWidth = width f t usage w i)
    (hh : (planeInfo.get i).allocHeight = height f t usage h i)
    (hs : (planeInfo.get i).byteStride = stride f t usage w i)
    (h₀ : (planeInfo.get 0).allocHeight = height f t usage h 0) :
    Exactly (body f t usage w h i < 2 ^ 31) True
      (bodySize checked f t i planeInfo (sbNum f t usage w h i)) (body f t usage w h i : ℕ) := by
  simp only [bodySize, hw, hh, hs, h₀]
  exact .ite exactly_afbcBodySize fun ha =>
    .ite (fun hr => exactly_afrcBodySize hf ht hr ha hi) fun hr =>
    .ite (fun hl => exactly_blockLinearBodySize hf (hb hl) hr ha hl hrow) fun hl =>
    exactly_linearBodySize hr ha hl

/-- **The header of a plane.** -/
theorem exactly_headerSize :
    Exactly (header f t usage w h i < 2 ^ 31) True
      (headerSize checked t (sbNum f t usage w h i)) (header f t usage w h i : ℕ) := by
  have hle := le_alignUp (v := sbNum f t usage w h i * 16) (afbcBufferAlignment_pos t)
  by_cases ha : t.isAfbc = true
  · simp only [headerSize, header, ha, if_true]
    refine .congr (.bind (.u32 _) fun _ _ => .bind (.i32 _) fun _ _ =>
      exactly_afbcBufferAlign t _) ?_ ?_ ?_
    · omega
    · simp
    · exact fun _ _ => rfl
  · simp only [headerSize, header, ha, Bool.false_eq_true, if_false]
    exact (Exactly.pure _).congr (by simp) (by simp) fun _ _ => rfl

end

end Exact

end Gralloc
