import Gralloc.Alloc.DivZero

/-!
# The assertions, and the pixel stride

The size computation asserts that what it divides has no remainder: a row has whole bytes,
its blocks have whole rows, and the stride of the first plane, exposed to clients in
pixels, has whole pixels. The last assertion was written for linear rows that the CPU
reads, and is made of every layout.

All of them hold exactly when the rows of the first plane are whole numbers of pixels of
the format (`Gralloc.Exact.WholePixels`, `Gralloc.strideSound_iff`): rows that only the
hardware asks to align are rounded up to bytes, whatever the size of a pixel; rows of AFRC
are rounded up to paging tiles; AFBC rows under CPU access have the width of the request,
and the bits of a compressed pixel.

One lemma a layout says when the assertions hold; the machine makes the same ones as long
as no product overflows.
-/

namespace Gralloc

open CInt

namespace Exact

section

variable {f : FormatInfo} {t : AllocType} {usage : Usage} {w : ℕ}

/-! ### Whole pixels -/

/-- The pixels of a row of paging tiles. -/
def tileWidth (t : AllocType) : ℕ := t.afrc.pagingTileWidth * t.afrc.clumpWidth.get 0

/-- **Rows of whole pixels**, for a width of `w`:

* AFRC – pixels of three bytes need coding units of as many, or a number of paging tiles
  that three divides (the CPU does not round up to tiles);
* AFBC – under CPU access, a pixel is no larger uncompressed, or the width is a multiple of
  eight;
* block-linear – there is a block, and under CPU access the ten-bit rows have whole bytes;
* linear – the CPU aligns the rows or the hardware does not, or else the 32 or 64 bytes that
  it asks for hold a row of pixels. -/
def WholePixels (f : FormatInfo) (t : AllocType) (usage : Usage) (w : ℕ) : Prop :=
  let base := alignUp w f.alignW
  if t.isAfrc then
    f.bpp.p0 = 24 → t.codingUnitBytes 0 = 24 ∨
      3 ∣ if usage.hasCpu then w / tileWidth t else w ⌈/⌉ tileWidth t
  else if t.isAfbc then usage.hasCpu = true → f.bppAfbc.p0 = f.bpp.p0 ∨ 8 ∣ base
  else if t.isBlockLinear then
    if usage.hasCpu then 16 ≤ base ∧ (f.bpp.p0 = 10 → 4 ∣ base) else 0 < base
  else usage.hasCpu = true ∨ usage.hasHw = false ∨
    f.bpp.p0 / f.bpp.p0.gcd (8 * hwAlign f usage) ∣ base * f.bpp.p0 ⌈/⌉ (8 * hwAlign f usage)

/-- The assertions that a layout makes of its rows. -/
def RowAsserts (f : FormatInfo) (t : AllocType) (usage : Usage) (w : ℕ) : Prop :=
  (∀ i < f.npln, Checks f t usage w i) ∧ f.bpp.p0 ∣ 8 * stride f t usage w 0

/-- Planes that are not rounded up any further. -/
theorem width_of_finalAlign {i : ℕ} (h : finalAlign f t i usage.hasCpu = ⟨1, 1⟩) :
    width f t usage w i = baseWidth f w i := by
  rw [width, h, alignUp_one]

/-! ### AFRC -/

/-- AFRC pixels have a power of two of bytes, or three. -/
theorem afrc_of_mem_formats : ∀ f ∈ formats, f.afrc = true → f.bpp.p0 ≠ 0 →
    f.bpp.p0 ∣ 64 ∨ f.bpp.p0 = 24 ∧ f.alignW = 1 ∧ f.alignWCpu = 1 ∧ f.tileSize = 1 := by
  decide

/-- The paging tiles of a row of pixels of three bytes. -/
theorem pagingTiles_eq (hf : f.WellFormed) (ht : t.WellFormed f) (hr : t.isAfrc = true)
    (hw : f.alignW = 1) (hwcpu : f.alignWCpu = 1) (hts : f.tileSize = 1) :
    pagingTiles f t usage w 0 =
      if usage.hasCpu then w / tileWidth t else w ⌈/⌉ tileWidth t := by
  have ha := AllocType.not_isAfbc_of_isAfrc hr
  obtain ⟨⟨hcw, -⟩, -⟩ := clump_bounds hf ht hr hf.npln_pos
  have hpos : 0 < tileWidth t := Nat.mul_pos (pagingTile_pos ht hr).1 (by omega)
  rw [pagingTiles, Nat.div_div_eq_div_mul, Nat.mul_comm (t.afrc.clumpWidth.get 0)]
  cases hcpu : usage.hasCpu with
  | true =>
    rw [width_of_finalAlign (by rw [hcpu, finalAlign_cpu t hwcpu hts]), baseWidth_zero, hw,
      alignUp_one]
    rfl
  | false =>
    have hfa : (finalAlign f t 0 usage.hasCpu).width = tileWidth t := by
      simp only [finalAlign, pixelAlign, hcpu, ha, hr, hts, Bool.false_eq_true, if_false, if_true]
      change max (max 1 (tileWidth t)) 1 = tileWidth t
      omega
    rw [width, hfa, baseWidth_zero, hw, alignUp_one, alignUp]
    exact Nat.mul_div_cancel _ hpos

/-- **AFRC rows.** -/
theorem rowAsserts_afrc_iff (hf : f.WellFormed) (ht : t.WellFormed f) (hm : f ∈ formats)
    (hfr : f.afrc = true) (hr : t.isAfrc = true) (hbpp : f.bpp.p0 ≠ 0) :
    RowAsserts f t usage w ↔ WholePixels f t usage w := by
  have hc (i : ℕ) (hi : i < f.npln) : Checks f t usage w i := by
    simp only [Checks, rowProduct, hr, if_true]
    exact Nat.mod_eq_zero_of_dvd (((pagingTileSamples_dvd hf ht hr hi).mul_left _).mul_right _)
  obtain ⟨k, hk⟩ := pagingTileSamples_dvd hf ht hr hf.npln_pos
  have hn := pagingTileSamples_pos hf ht hr hf.npln_pos
  have hstride : stride f t usage w 0 = pagingTiles f t usage w 0 * t.codingUnitBytes 0 * k := by
    simp only [stride, hr, if_true]
    rw [hk]
    refine Nat.div_eq_of_eq_mul_right hn ?_
    ring
  have hcub := ht.codingUnit hr 0
  simp only [RowAsserts, WholePixels, hr, if_true, hstride]
  rw [and_iff_right hc]
  rcases afrc_of_mem_formats f hm hfr hbpp with h64 | ⟨h24, hw, hwcpu, hts⟩
  · -- 64 coding units of eight bytes or more are whole pixels of up to eight bytes
    refine iff_of_true (h64.trans ?_) fun h24 => absurd (h24 ▸ h64) (by decide)
    rcases hcub with ⟨h, -⟩ | ⟨h, -⟩ | ⟨h, -⟩ <;> rw [h]
    · exact ⟨2 * (pagingTiles f t usage w 0 * k), by ring⟩
    · exact ⟨3 * (pagingTiles f t usage w 0 * k), by ring⟩
    · exact ⟨4 * (pagingTiles f t usage w 0 * k), by ring⟩
  · -- three bytes: the rows of a paging tile add no factor three
    rw [← pagingTiles_eq hf ht hr hw hwcpu hts, h24, imp_iff_right rfl]
    have h3 : Nat.Coprime 3 k :=
      Nat.Coprime.coprime_dvd_right (Dvd.intro_left _ hk.symm) (by decide : Nat.Coprime 3 64)
    have hiff : 24 ∣ 8 * (pagingTiles f t usage w 0 * t.codingUnitBytes 0 * k) ↔
        3 ∣ pagingTiles f t usage w 0 * t.codingUnitBytes 0 := by
      rw [show 24 = 8 * 3 from rfl, Nat.mul_dvd_mul_iff_left (by decide)]
      exact ⟨h3.dvd_of_dvd_mul_right, fun h => h.mul_right k⟩
    rw [hiff, Nat.Prime.dvd_mul Nat.prime_three]
    rcases hcub with ⟨h, -⟩ | ⟨h, -⟩ | ⟨h, -⟩ <;> rw [h] <;> omega

/-! ### AFBC -/

/-- AFBC pixels have the bits of an uncompressed pixel, in whole bytes, or five eighths of
them. -/
theorem afbc_of_mem_formats : ∀ f ∈ formats, f.afbc = true → f.bpp.p0 ≠ 0 →
    (f.bppAfbc.p0 = f.bpp.p0 ∧ ∀ i < f.npln, 8 ∣ f.bppAfbc.get i) ∨
      f.bppAfbc.p0 ≠ f.bpp.p0 ∧ 8 * f.bppAfbc.p0 = 5 * f.bpp.p0 ∧ f.alignWCpu = 1 ∧
        f.tileSize = 1 ∧ (f.npln = 1 ∨ f.npln = 2 ∧ f.isYuv = true ∧ f.hsub = 2 ∧
          f.bppAfbc.p1 = 2 * f.bppAfbc.p0) := by
  decide

theorem checks_afbc_iff (ha : t.isAfbc = true) (i : ℕ) :
    Checks f t usage w i ↔ 8 ∣ width f t usage w i * f.bppAfbc.get i := by
  have hr : t.isAfrc ≠ true := fun hr => AllocType.not_isAfbc_of_isAfrc hr ha
  simp only [Checks, rowProduct, ha, hr, Bool.false_eq_true, if_false, if_true,
    Nat.dvd_iff_mod_eq_zero]

theorem eight_mul_stride_afbc (ha : t.isAfbc = true) (hc : Checks f t usage w 0) :
    8 * stride f t usage w 0 = width f t usage w 0 * f.bppAfbc.p0 := by
  have hr : t.isAfrc ≠ true := fun hr => AllocType.not_isAfbc_of_isAfrc hr ha
  simp only [stride, ha, hr, Bool.false_eq_true, if_false, if_true]
  exact Nat.mul_div_cancel' ((checks_afbc_iff ha 0).mp hc)

/-- Five eighths of the bits of a pixel are whole pixels for every eight. -/
private theorem dvd_mul_five_eighths {a b n : ℕ} (hb : 0 < b) (h : 8 * a = 5 * b) :
    b ∣ n * a ↔ 8 ∣ n := by
  rw [← Nat.mul_dvd_mul_iff_left (show 0 < 8 by decide), Nat.mul_left_comm, h,
    ← Nat.mul_assoc, Nat.mul_dvd_mul_iff_right hb]
  omega

/-- **AFBC rows.** -/
theorem rowAsserts_afbc_iff (hf : f.WellFormed) (hm : f ∈ formats) (hfa : f.afbc = true)
    (ha : t.isAfbc = true) (hbpp : f.bpp.p0 ≠ 0) :
    RowAsserts f t usage w ↔ WholePixels f t usage w := by
  have hr : t.isAfrc ≠ true := fun hr => AllocType.not_isAfbc_of_isAfrc hr ha
  have hrow : RowAsserts f t usage w ↔
      (∀ i < f.npln, 8 ∣ width f t usage w i * f.bppAfbc.get i) ∧
        f.bpp.p0 ∣ width f t usage w 0 * f.bppAfbc.p0 := by
    simp only [← checks_afbc_iff ha]
    exact and_congr_right fun hc => by rw [eight_mul_stride_afbc ha (hc 0 hf.npln_pos)]
  simp only [hrow, WholePixels, hr, ha, Bool.false_eq_true, if_true, if_false]
  rcases afbc_of_mem_formats f hm hfa hbpp with ⟨heq, h8⟩ | ⟨hne, hfive, hwcpu, hts, hn⟩
  · refine iff_of_true ⟨fun i hi => (h8 i hi).mul_left _, ?_⟩ fun _ => Or.inl heq
    rw [heq]
    exact dvd_mul_left _ _
  · -- five bits of eight: both kinds of assertion ask for eight pixels
    rw [dvd_mul_five_eighths (Nat.pos_of_ne_zero hbpp) hfive]
    cases hcpu : usage.hasCpu with
    | false =>
      have h8 (i : ℕ) : 8 ∣ width f t usage w i := by
        rw [width, hcpu]
        exact dvd_alignUp_of_dvd (eight_dvd_finalAlign hf ha i) _
      exact iff_of_true ⟨fun i _ => (h8 i).mul_right _, h8 0⟩
        fun h => absurd h Bool.false_ne_true
    | true =>
      have hw (i : ℕ) : width f t usage w i = baseWidth f w i :=
        width_of_finalAlign (by rw [hcpu, finalAlign_cpu t hwcpu hts])
      simp only [hw, baseWidth_zero, hne, false_or, true_imp_iff]
      refine ⟨And.right, fun h8 => ⟨fun i hi => ?_, h8⟩⟩
      rcases Nat.eq_zero_or_pos i with rfl | hi₀
      · rw [baseWidth_zero]
        exact h8.mul_right _
      · -- the only other plane has half the samples, of twice the bits
        obtain ⟨hn, hy, hsub, hbits⟩ : f.npln = 2 ∧ f.isYuv = true ∧ f.hsub = 2 ∧
            f.bppAfbc.p1 = 2 * f.bppAfbc.p0 := hn.resolve_left (by omega)
        obtain rfl : i = 1 := by omega
        have hbits : f.bppAfbc.get 1 = 2 * f.bppAfbc.p0 := hbits
        have h2 : 2 ∣ alignUp w f.alignW := (by decide : 2 ∣ 8).trans h8
        rw [baseWidth_of_pos hy hi₀, hsub, hbits, ← Nat.mul_assoc, Nat.div_mul_cancel h2]
        exact h8.mul_right _

/-! ### Block-linear -/

/-- Block-linear pixels have whole bytes, or ten bits. -/
theorem blockLinear_bpp_of_mem_formats : ∀ f ∈ formats, f.blockLinear = true →
    8 ∣ f.bpp.p0 ∧ f.bpp.p0 ≠ 10 ∨ f.bpp.p0 = 10 := by
  decide

/-- **Block-linear rows.** -/
theorem rowAsserts_blockLinear_iff (hf : f.WellFormed) (hm : f ∈ formats)
    (hb : f.blockLinear = true) (hl : t.isBlockLinear = true) :
    RowAsserts f t usage w ↔ WholePixels f t usage w := by
  have hr := AllocType.not_isAfrc_of_isBlockLinear hl
  have ha := AllocType.not_isAfbc_of_isBlockLinear hl
  obtain ⟨hn, hsub, hwcpu, hts, hbpp₁⟩ := blockLinear_of_mem_formats f hm hb
  have hy := hf.isYuv_of_blockLinear hb
  have h2 : 2 ∣ alignUp w f.alignW := dvd_alignUp_of_dvd (hsub ▸ (hf.hsub_yuv hy).2) w
  have hpixels : f.bpp.p0 ∣ 8 * stride f t usage w 0 := by
    rw [Nat.mul_comm, stride_blockLinear usage w 0 hf hb hl]
    exact dvd_mul_left _ _
  have hbytes (i : ℕ) : bytesPerBlock f i % (blockRect f i).height = 0 := by
    rw [bytesPerBlock_eq hf hb]
    exact Nat.mul_mod_right _ _
  have hrow : RowAsserts f t usage w ↔
      8 ∣ width f t usage w 0 * f.bpp.p0 ∧ 8 ∣ width f t usage w 1 * f.bpp.p1 ∧
        0 < width f t usage w 0 / 16 := by
    simp only [RowAsserts, hpixels, and_true, Checks, hr, ha, hl, hbytes, true_and,
      Bool.false_eq_true, if_true, if_false, hn, Nat.dvd_iff_mod_eq_zero]
    constructor
    · intro h
      exact ⟨(h 0 (by decide)).1, h 1 (by decide)⟩
    · rintro ⟨h₀, h₁, hpos⟩ i hi
      interval_cases i
      · exact ⟨h₀, hpos⟩
      · exact ⟨h₁, hpos⟩
  rw [hrow, hbpp₁]
  simp only [WholePixels, hr, ha, hl, Bool.false_eq_true, if_true, if_false]
  cases hcpu : usage.hasCpu with
  | false =>
    have hfa (i : ℕ) : (finalAlign f t i usage.hasCpu).width = 16 := by
      rw [hcpu, finalAlign_blockLinear hl hts]
    have h8 (i : ℕ) : 8 ∣ width f t usage w i := by
      rw [width, hfa]
      exact (by decide : 8 ∣ 16).trans (dvd_alignUp _ _)
    rw [and_iff_right ((h8 0).mul_right _), and_iff_right ((h8 1).mul_right _), width, hfa,
      baseWidth_zero, alignUp, Nat.mul_div_cancel _ (by decide), ceilDiv_pos_iff (by decide)]
    simp only [Bool.false_eq_true, if_false]
  | true =>
    have hw (i : ℕ) : width f t usage w i = baseWidth f w i :=
      width_of_finalAlign (by rw [hcpu, finalAlign_cpu t hwcpu hts])
    rw [hw, hw, baseWidth_zero, baseWidth_of_pos hy one_pos, hsub, ← Nat.mul_assoc,
      Nat.div_mul_cancel h2, if_pos rfl]
    rcases blockLinear_bpp_of_mem_formats f hm hb with ⟨h8, hne⟩ | h10
    · simp only [h8.mul_left, hne, false_imp_iff, true_and, and_true]
      omega
    · rw [h10, imp_iff_right rfl]
      omega

/-! ### Linear -/

/-- Linear pixels have whole bytes, or four of them have; tiles are of two by two pixels of
two bytes. -/
theorem linear_of_mem_formats : ∀ f ∈ formats, f.linear = true →
    ((∀ i < f.npln, 8 ∣ f.bpp.get i) ∨
      f.npln = 1 ∧ f.alignW = 4 ∧ f.alignWCpu = 4 ∧ f.tileSize = 1 ∧ 8 ∣ 4 * f.bpp.p0) ∧
    (f.tileSize = 1 ∨ f.tileSize = 2 ∧ f.bpp.p0 = 16 ∧ f.alignWCpu = 1 ∧ f.isYuv = true ∧
      f.alignW = 2) := by
  decide

/-- **The assertions on a linear row** always hold. -/
theorem checks_of_isLinear (hf : f.WellFormed) (hm : f ∈ formats) (hlin : f.linear = true)
    (hl : t.isLinear = true) {i : ℕ} (hi : i < f.npln) : Checks f t usage w i := by
  obtain ⟨ha, hr, hb⟩ := AllocType.isLinear_iff.mp hl
  simp only [Checks, ha, hr, hb, Bool.false_eq_true, if_false, ← Nat.dvd_iff_mod_eq_zero]
  have hyv12 (hs : isSharedYv12 f usage = true) (hi₀ : i ≠ 0) :
      linearStride f t usage w i = alignUp (linearStride f t usage w i) (rowAlign f usage i) ∧
        16 ∣ linearStride f t usage w i := by
    rw [rowAlign_of_isSharedYv12 hf hs (hi.trans_le hf.npln_le), linearStride, if_pos hs,
      if_neg hi₀, rowAlign_of_isSharedYv12 hf hs (by decide)]
    have hd := dvd_alignUp (rowStride f t usage w 0) (2 * 32)
    exact ⟨(alignUp_of_dvd (by decide) (by omega)).symm, by omega⟩
  rcases (linear_of_mem_formats f hm hlin).1 with h8 | ⟨hn, hw, hwcpu, hts, h8⟩
  · exact ⟨(h8 i hi).mul_left _, fun _ => (h8 i hi).mul_right _, hyv12⟩
  · obtain rfl : i = 0 := by omega
    have hbits : f.bpp.get 0 = f.bpp.p0 := rfl
    have h4 : 4 ∣ width f t usage w 0 := by
      have hbase : 4 ∣ alignUp w 4 := dvd_alignUp w 4
      rw [width, baseWidth_zero, hw]
      cases hcpu : usage.hasCpu with
      | true =>
        have hfa : (finalAlign f t 0 true).width = 4 := by
          simp [finalAlign, pixelAlign, hwcpu, hts]
        rw [hfa]
        exact dvd_alignUp _ 4
      | false => rwa [finalAlign_linear hl hts, alignUp_one]
    obtain ⟨k, hk⟩ := h4
    refine ⟨?_, fun _ => ?_, hyv12⟩
    · rw [hk, hbits, Nat.mul_right_comm]
      exact h8.mul_right k
    · rwa [hbits, hwcpu, Nat.mul_comm]

/-- The CPU's alignment of a row is respected. -/
theorem cpuAlign_dvd_rowAlign {i : ℕ} (hc : 0 < cpuAlign f usage i) :
    cpuAlign f usage i ∣ rowAlign f usage i := by
  unfold rowAlign
  split_ifs with h
  · exact Nat.dvd_lcm_right _ _
  · have h₀ : hwAlign f usage = 0 := by_contra fun hne => h ⟨hne, hc.ne'⟩
    rw [h₀, Nat.zero_max]

/-- Rows that only the hardware aligns. -/
theorem rowAlign_of_not_cpu (f : FormatInfo) (hcpu : usage.hasCpu = false) (i : ℕ) :
    rowAlign f usage i = hwAlign f usage := by
  simp [rowAlign, cpuAlign, hcpu]

theorem hwAlign_pos (f : FormatInfo) (h : usage.hasHw = true) : 0 < hwAlign f usage := by
  rw [hwAlign, if_pos h]
  split_ifs <;> decide

/-- Tiled rows have whole pixels. -/
theorem dvd_rowStride_of_tileSize_eq_two (t : AllocType) (usage : Usage) (w : ℕ)
    (hts : f.tileSize = 2) (hbpp : f.bpp.p0 = 16) (hwcpu : f.alignWCpu = 1)
    (hy : f.isYuv = true) : 2 ∣ rowStride f t usage w 0 := by
  have hbits : f.bpp.get 0 = 16 := hbpp
  have hrow : rowBytes f t usage w 0 = width f t usage w 0 * 2 := by
    rw [rowBytes, hbits]
    omega
  rw [rowStride, hrow, hts]
  cases hcpu : usage.hasCpu with
  | false =>
    rw [rowAlign_of_not_cpu f hcpu]
    cases hhw : usage.hasHw with
    | false =>
      rw [hwAlign_of_not_hasHw f hhw, if_neg (by decide)]
      exact dvd_mul_left _ _
    | true =>
      have hd := dvd_alignUp (width f t usage w 0 * 2 * 2) 32
      rw [hwAlign_of_isYuv hy hhw, if_pos (by decide)]
      omega
  | true =>
    have hc : cpuAlign f usage 0 = 2 := by simp [cpuAlign, hcpu, hbits, hwcpu]
    cases hhw : usage.hasHw with
    | false =>
      have h₂ : rowAlign f usage 0 = 2 := by simp [rowAlign, hwAlign, hhw, hc]
      rw [h₂, if_pos (by decide), alignUp_of_dvd (by decide) (dvd_mul_left _ _)]
      omega
    | true =>
      have h₃₂ : rowAlign f usage 0 = 32 := by
        simp only [rowAlign, hwAlign, hhw, hy, hc, if_true]
        decide
      have hd := dvd_alignUp (width f t usage w 0 * 2 * 2) 32
      rw [h₃₂, if_pos (by decide)]
      omega

/-- **Linear rows.** -/
theorem rowAsserts_linear_iff (hf : f.WellFormed) (hm : f ∈ formats) (hlin : f.linear = true)
    (hl : t.isLinear = true) : RowAsserts f t usage w ↔ WholePixels f t usage w := by
  obtain ⟨ha, hr, hb⟩ := AllocType.isLinear_iff.mp hl
  have hbpp : 8 ≤ f.bpp.p0 := hf.bpp_pos (Or.inl hlin) 0 hf.npln_pos
  have hc (i : ℕ) (hi : i < f.npln) : Checks f t usage w i := checks_of_isLinear hf hm hlin hl hi
  have hrow : 8 * rowBytes f t usage w 0 = width f t usage w 0 * f.bpp.p0 := by
    have h := hc 0 hf.npln_pos
    simp only [Checks, ha, hr, hb, Bool.false_eq_true, if_false] at h
    exact Nat.mul_div_cancel' (Nat.dvd_of_mod_eq_zero h.1)
  simp only [RowAsserts, and_iff_right hc, WholePixels, stride, ha, hr, hb, Bool.false_eq_true,
    if_false]
  by_cases hs : isSharedYv12 f usage = true
  · -- a pixel is a byte
    have h := hs
    simp only [isSharedYv12, Bool.and_eq_true, beq_iff_eq] at h
    obtain ⟨⟨hid, -⟩, hcpu⟩ := h
    rw [(hf.yv12 hid).2.2.2]
    exact iff_of_true (dvd_mul_right _ _) (Or.inl hcpu)
  rw [linearStride, if_neg hs]
  rcases (linear_of_mem_formats f hm hlin).2 with hts | ⟨hts, h16, hwcpu, hy, -⟩
  · simp only [rowStride, hts, Nat.mul_one, Nat.div_one]
    cases hcpu : usage.hasCpu with
    | true =>
      have hbits : f.bpp.get 0 = f.bpp.p0 := rfl
      have hcpu8 : 8 * cpuAlign f usage 0 = f.bpp.p0 * f.alignWCpu := by
        have h := hc 0 hf.npln_pos
        simp only [Checks, ha, hr, hb, Bool.false_eq_true, if_false] at h
        rw [cpuAlign, if_pos hcpu, Nat.mul_div_cancel' (Nat.dvd_of_mod_eq_zero (h.2.1 hcpu)), hbits]
      have hpos : 0 < cpuAlign f usage 0 := by
        have := Nat.mul_pos (show 0 < f.bpp.p0 by omega) hf.alignWCpu_pos
        omega
      refine iff_of_true ?_ (Or.inl rfl)
      split_ifs
      · have hd := (cpuAlign_dvd_rowAlign hpos).trans
          (dvd_alignUp (rowBytes f t usage w 0) (rowAlign f usage 0))
        exact (Dvd.intro _ rfl).trans (hcpu8 ▸ Nat.mul_dvd_mul_left 8 hd)
      · exact ⟨_, hrow.trans (Nat.mul_comm _ _)⟩
    | false =>
      rw [rowAlign_of_not_cpu f hcpu]
      cases hhw : usage.hasHw with
      | false =>
        rw [hwAlign_of_not_hasHw f hhw, if_neg (by decide), hrow]
        exact iff_of_true (dvd_mul_left _ _) (Or.inr (Or.inl rfl))
      | true =>
        have hpos := hwAlign_pos f hhw
        have hw : width f t usage w 0 = alignUp w f.alignW := by
          rw [width_of_finalAlign (by rw [hcpu, finalAlign_linear hl hts]), baseWidth_zero]
        rw [if_pos hpos.ne', ← hw, ← hrow,
          mul_ceilDiv_mul_left (by decide) hpos, ← dvd_mul_iff_div_gcd_dvd (by omega), alignUp,
          Nat.mul_comm (_ ⌈/⌉ _), ← Nat.mul_assoc]
        simp only [Bool.false_eq_true, Bool.true_eq_false, false_or]
  · -- tiled rows have whole pixels, and so has every row of 32 bytes
    have h2 := dvd_rowStride_of_tileSize_eq_two t usage w hts h16 hwcpu hy
    refine iff_of_true (by rw [h16]; omega) (Or.inr ?_)
    cases hhw : usage.hasHw with
    | false => exact Or.inl rfl
    | true =>
      rw [h16, hwAlign_of_isYuv hy hhw]
      exact Or.inr (one_dvd _)

/-! ### All layouts -/

/-- **The assertions on the rows of a layout** hold exactly when these are whole pixels. -/
theorem rowAsserts_iff (hf : f.WellFormed) (ht : t.WellFormed f) (hm : f ∈ formats)
    {height : BitVec 32} (hv : validateFormat f t height = true) (hbpp : f.bpp.p0 ≠ 0) :
    RowAsserts f t usage w ↔ WholePixels f t usage w := by
  obtain ⟨sa, sr, sb, sl⟩ := supported_of_validateFormat hv
  by_cases hr : t.isAfrc = true
  · exact rowAsserts_afrc_iff hf ht hm (sr hr) hr hbpp
  by_cases ha : t.isAfbc = true
  · exact rowAsserts_afbc_iff hf hm (sa ha) ha hbpp
  by_cases hb : t.isBlockLinear = true
  · exact rowAsserts_blockLinear_iff hf hm (sb hb) hb
  · have hl := AllocType.isLinear_iff.mpr ⟨ha, hr, hb⟩
    exact rowAsserts_linear_iff hf hm (sl hl) hl

end

/-- No pixel has less than a byte. -/
theorem eight_le_bpp : ∀ f ∈ formats, f.bpp.p0 ≠ 0 → 8 ≤ f.bpp.p0 := by decide

/-- **The pixel stride**, in the checked reading, is exact. -/
theorem exactly_pixelStride {f : FormatInfo} (hm : f ∈ formats) (hbpp : f.bpp.p0 ≠ 0) (s : ℕ) :
    Exactly (8 * s < 2 ^ 32) (f.bpp.p0 ∣ 8 * s) (pixelStride checked f s)
      ((8 * s / f.bpp.p0 : ℕ) : ℤ) := by
  have h8 := eight_le_bpp f hm hbpp
  refine .congr (.bind (.u32 _) fun _ _ => .bind (.umod _ _) fun _ _ => .bind (.assert _)
    fun _ _ => .bind (.udiv _ _) fun _ _ => .i32 _) ?_ ?_ ?_
  · have hle : s * 8 / f.bpp.p0 ≤ s := Nat.div_le_of_le_mul (by rw [Nat.mul_comm]; gcongr)
    simp only [true_and]
    omega
  · intro _
    rw [Nat.mul_comm, Nat.dvd_iff_mod_eq_zero]
    simp only [true_and, and_true, Nat.pos_of_ne_zero hbpp]
  · exact fun _ _ => by rw [Nat.mul_comm]

end Exact

/-! ### The machine -/

section

variable {caps : Capabilities} {node : ℕ → Option DecoderPara} {d : BufferDescriptor}
  {c : Choice d.usage d.height}

/-- **A chosen request has a sound stride**: no assertion fails, and the stride that a
linear buffer exposes to clients is that of its rows, in pixels, and holds the requested
ones. -/
structure StrideSound (caps : Capabilities) (node : ℕ → Option DecoderPara) (d : BufferDescriptor)
    (c : Choice d.usage d.height) : Prop where
  asserts : Avoids .assertion (deriveFormatAndSize wrapping caps node d)
  exact : c.allocType.isLinear = true → ∃ d',
    deriveFormatAndSize wrapping caps node d = .ok (.success, d') ∧
      d'.pixelStride * c.info.bpp.p0 = 8 * (d'.planeInfo.get 0).byteStride ∧
      (d.width.toNat : ℤ) ≤ d'.pixelStride

/-- The stride of the first plane. -/
def lumaStride (caps : Capabilities) (node : ℕ → Option DecoderPara) (d : BufferDescriptor)
    (c : Choice d.usage d.height) : ℕ :=
  Exact.stride c.info c.allocType d.usage (Exact.dims c.format (prepared caps node d)).1 0

/-- A layer, with its pixel stride, is the exact one where nothing overflows. -/
theorem exactly_layer_pixelStride (caps : Capabilities) (node : ℕ → Option DecoderPara)
    (hbpp : c.info.bpp.p0 ≠ 0) :
    Exactly (Exact.Bounds c (prepared caps node d) ∧ 8 * lumaStride caps node d c < 2 ^ 32)
      (Exact.RowAsserts c.info c.allocType d.usage (Exact.dims c.format (prepared caps node d)).1)
      (c.layer checked (prepared caps node d) (pixelStride checked c.info))
      (Exact.layer c (prepared caps node d)
        (8 * lumaStride caps node d c / c.info.bpp.p0 : ℕ)) :=
  Exact.exactly_layer c (prepared caps node d) (Exact.exactly_pixelStride c.info_mem hbpp _)

/-- Where nothing overflows, the machine's layer is the checked one. -/
theorem layer_wrapping_eq (hbpp : c.info.bpp.p0 ≠ 0)
    (hB : Exact.Bounds c (prepared caps node d)) (hs : 8 * lumaStride caps node d c < 2 ^ 32) :
    c.layer checked (prepared caps node d) (pixelStride checked c.info) =
      c.layer wrapping (prepared caps node d) (pixelStride wrapping c.info) :=
  (Approx.layer checked_approx_wrapping c (prepared caps node d) fun n =>
    Approx.pixelStride checked_approx_wrapping c.info n).eq
    ((exactly_layer_pixelStride caps node hbpp).avoids ⟨hB, hs⟩)

/-- **The assertions of a derivation** are those on its rows. -/
theorem avoids_assertion_iff (hc : choose caps d = some c) (hbpp : c.info.bpp.p0 ≠ 0)
    (hB : Exact.Bounds c (prepared caps node d)) (hs : 8 * lumaStride caps node d c < 2 ^ 32) :
    Avoids .assertion (deriveFormatAndSize wrapping caps node d) ↔
      Exact.RowAsserts c.info c.allocType d.usage
        (Exact.dims c.format (prepared caps node d)).1 := by
  have hex := exactly_layer_pixelStride caps node hbpp
  have hzero := (avoids_deriveFormatAndSize_iff .divByZero hc).mp
    (avoids_divByZero_of_bpp_ne_zero node hc hbpp)
  rw [avoids_deriveFormatAndSize_iff .assertion hc]
  rw [← layer_wrapping_eq hbpp hB hs] at hzero ⊢
  constructor
  · -- of the three faults of a checked run, only the assertion is left
    intro h
    cases hrun : c.layer checked (prepared caps node d) (pixelStride checked c.info) with
    | ok s => exact (hex.of_ok s hrun).2.2
    | error e =>
      cases e with
      | overflow => exact absurd hrun (hex.avoids ⟨hB, hs⟩)
      | divByZero => exact absurd hrun hzero
      | assertion => exact absurd hrun h
  · intro h
    exact avoids_of_eq_ok (hex.ok ⟨hB, hs⟩ h)

/-- A request whose layer is the exact one is derived, with the stride that is made of its rows. -/
theorem derive_of_layer {p : ℤ} (hc : choose caps d = some c)
    (hlayer : c.layer wrapping (prepared caps node d) (pixelStride wrapping c.info) =
      .ok (Exact.layer c (prepared caps node d) p)) :
    ∃ d', deriveFormatAndSize wrapping caps node d = .ok (.success, d') ∧ d'.pixelStride = p ∧
      (d'.planeInfo.get 0).byteStride = lumaStride caps node d c := by
  obtain ⟨wh, hwh, hcalc⟩ := bind_eq_ok.mp hlayer
  rw [prepared_planeInfo] at hcalc
  obtain ⟨size, hsize⟩ : ∃ size, allLayers wrapping c.format d.layerCount
      (Exact.layer c (prepared caps node d) p).size = .ok size :=
    exists_ok_of_avoids fun e => avoids_allLayers e _ _ _
  obtain ⟨pitches, hp⟩ : ∃ pitches, c.pitches wrapping wh.1 = .ok pitches :=
    exists_ok_of_avoids fun e => avoids_pitches e c _
  refine ⟨_, deriveFormatAndSize_eq_success.mpr
    ⟨c, hc, wh, hwh, _, hcalc, size, hsize, pitches, hp, rfl⟩, Exact.layer_pixelStride _ _ _, ?_⟩
  rw [Exact.layer_get c _ _ c.info_wellFormed.npln_pos]
  rfl

/-- The derivation of rows of whole pixels. -/
theorem derive_of_rowAsserts (hc : choose caps d = some c) (hbpp : c.info.bpp.p0 ≠ 0)
    (hB : Exact.Bounds c (prepared caps node d)) (hs : 8 * lumaStride caps node d c < 2 ^ 32)
    (hrow : Exact.RowAsserts c.info c.allocType d.usage
      (Exact.dims c.format (prepared caps node d)).1) :
    ∃ d', deriveFormatAndSize wrapping caps node d = .ok (.success, d') ∧
      d'.pixelStride = (8 * lumaStride caps node d c / c.info.bpp.p0 : ℕ) ∧
      (d'.planeInfo.get 0).byteStride = lumaStride caps node d c :=
  derive_of_layer hc ((layer_wrapping_eq hbpp hB hs).symm.trans
    ((exactly_layer_pixelStride caps node hbpp).ok ⟨hB, hs⟩ hrow))

/-- **A chosen request has a sound stride exactly when its rows are whole pixels.** -/
theorem strideSound_iff (hc : choose caps d = some c) (hbpp : 0 < c.info.bpp.p0)
    (hB : Exact.Bounds c (prepared caps node d)) (hs : 8 * lumaStride caps node d c < 2 ^ 32) :
    StrideSound caps node d c ↔
      Exact.WholePixels c.info c.allocType d.usage
        (Exact.dims c.format (prepared caps node d)).1 := by
  rw [← Exact.rowAsserts_iff c.info_wellFormed c.allocType_wellFormed c.info_mem c.valid hbpp.ne',
    ← avoids_assertion_iff hc hbpp.ne' hB hs]
  refine ⟨StrideSound.asserts, fun h => ⟨h, fun hl => ?_⟩⟩
  have hrow := (avoids_assertion_iff hc hbpp.ne' hB hs).mp h
  obtain ⟨d', hd, hpixels, hbytes⟩ := derive_of_rowAsserts hc hbpp.ne' hB hs hrow
  have hexact : 8 * lumaStride caps node d c / c.info.bpp.p0 * c.info.bpp.p0 =
      8 * lumaStride caps node d c := Nat.div_mul_cancel hrow.2
  refine ⟨d', hd, ?_, ?_⟩
  · rw [hpixels, hbytes]
    exact_mod_cast hexact
  · have hcov := (Exact.covered_of_isLinear (h := d.height.toNat) c.info_wellFormed c.info_mem
      c.info_wellFormed.npln_pos hl (hrow.1 0 c.info_wellFormed.npln_pos)).stride
      (AllocType.isLinear_iff.mp hl).2.1
    have hle : d.width.toNat ≤ Exact.planeWidth c (prepared caps node d) 0 := by
      have hbase := (base_le_plane caps node c 0).1
      rw [Exact.baseWidth_zero] at hbase
      exact (le_alignUp c.info_wellFormed.alignW_pos).trans hbase
    rw [hpixels, Nat.cast_le, Nat.le_div_iff_mul_le hbpp, Nat.mul_comm 8]
    exact (Nat.mul_le_mul_right _ hle).trans hcov

/-! ### Rows whose bits are reduced -/

/-- **A request of rows of whole pixels**: its format has a size for a pixel, and nothing of its
layout overflows. The bits of a row may, where that leaves whole pixels whole. -/
structure RowsFit (caps : Capabilities) (node : ℕ → Option DecoderPara) (d : BufferDescriptor)
    (c : Choice d.usage d.height) : Prop where
  bpp : c.info.bpp.p0 ≠ 0
  bounds : Exact.Bounds c (prepared caps node d)
  whole : Exact.WholePixels c.info c.allocType d.usage
    (Exact.dims c.format (prepared caps node d)).1
  bits : 8 * lumaStride caps node d c < 2 ^ 32 ∨ c.info.bpp.p0 ∣ 2 ^ 32

/-- The pixels of a row are counted from its bits as the machine has them. -/
theorem exactly_pixelStride_wrapping {f : FormatInfo} (hm : f ∈ formats) (hbpp : f.bpp.p0 ≠ 0)
    {n : ℕ} (hbits : 8 * n < 2 ^ 32 ∨ f.bpp.p0 ∣ 2 ^ 32) :
    Exactly True (f.bpp.p0 ∣ 8 * n) (pixelStride wrapping f n)
      ((8 * n % 2 ^ 32 / f.bpp.p0 : ℕ) : ℤ) := by
  have hdvd : f.bpp.p0 ∣ 8 * n ↔ 8 * n % 2 ^ 32 % f.bpp.p0 = 0 := by
    rw [← Nat.dvd_iff_mod_eq_zero]
    rcases hbits with hlt | hpow
    · rw [Nat.mod_eq_of_lt hlt]
    · exact (Nat.dvd_mod_iff hpow).symm
  have hint : wrapping.i32 (8 * n % 2 ^ 32 / f.bpp.p0 : ℕ) =
      .ok ((8 * n % 2 ^ 32 / f.bpp.p0 : ℕ) : ℤ) := by
    have hlt : 8 * n % 2 ^ 32 < 2 ^ 32 := Nat.mod_lt _ (by decide)
    have hle : 8 * n % 2 ^ 32 / f.bpp.p0 ≤ 8 * n % 2 ^ 32 / 8 :=
      Nat.div_le_div_left (Exact.eight_le_bpp f hm hbpp) (by decide)
    have hsmall : 8 * n % 2 ^ 32 / 8 < 2 ^ 29 := by omega
    generalize 8 * n % 2 ^ 32 / f.bpp.p0 = pixels at hle ⊢
    exact congrArg Except.ok (Int.bmod_eq_of_le_mul_two (by omega) (by omega))
  have hrun : pixelStride wrapping f n = assert (8 * n % 2 ^ 32 % f.bpp.p0 = 0) >>= fun _ =>
      .ok ((8 * n % 2 ^ 32 / f.bpp.p0 : ℕ) : ℤ) := by
    rw [pixelStride, wrapping_u32, ok_bind, umod_of_pos (Nat.pos_of_ne_zero hbpp), ok_bind,
      Nat.mul_comm n, udiv_of_pos (Nat.pos_of_ne_zero hbpp), ok_bind, hint]
  rw [hrun, hdvd]
  exact .congr (.bind (.assert _) fun _ _ => .pure _) (by simp) (by simp) fun _ _ => rfl

/-- **A request of rows of whole pixels is derived**, with the rows of its exact layout. -/
theorem RowsFit.derive (h : RowsFit caps node d c) (hc : choose caps d = some c) :
    ∃ d', deriveFormatAndSize wrapping caps node d = .ok (.success, d') ∧
      d'.pixelStride = (8 * lumaStride caps node d c % 2 ^ 32 / c.info.bpp.p0 : ℕ) ∧
      (d'.planeInfo.get 0).byteStride = lumaStride caps node d c := by
  have hrow := (Exact.rowAsserts_iff c.info_wellFormed c.allocType_wellFormed c.info_mem c.valid
    h.bpp).mpr h.whole
  have hex := Exact.exactly_layer c (prepared caps node d)
    (exactly_pixelStride_wrapping (n := lumaStride caps node d c) c.info_mem h.bpp h.bits)
  exact derive_of_layer hc (((Approx.layer checked_approx_wrapping c (prepared caps node d)
    fun n => .refl (pixelStride wrapping c.info n)).eq (hex.avoids ⟨h.bounds, trivial⟩)).symm.trans
      (hex.ok ⟨h.bounds, trivial⟩ hrow))

end

/-! ### A pixel of three bytes -/

/-- One pixel of RGB_888 for the GPU. -/
def triple : BufferDescriptor := .request 1#32 1#32 0x300#64 3#64 1#32

/-- The format that is chosen for it. -/
def tripleChoice : Choice triple.usage triple.height := (choose .gpuOnly triple).get (by decide)

theorem choose_triple : choose .gpuOnly triple = some tripleChoice := (Option.some_get _).symm

/-- The equivalence, at the pixel. -/
theorem strideSound_iff_triple :
    StrideSound .gpuOnly noDecoder triple tripleChoice ↔
      Exact.WholePixels tripleChoice.info tripleChoice.allocType triple.usage
        (Exact.dims tripleChoice.format (prepared .gpuOnly noDecoder triple)).1 :=
  strideSound_iff choose_triple (by decide) (by decide +kernel) (by decide +kernel)

/-- **The pixel is chosen without overflow, and its row of 64 bytes fails an assertion.** -/
theorem not_strideSound_triple :
    choose .gpuOnly triple = some tripleChoice ∧ 0 < tripleChoice.info.bpp.p0 ∧
      Exact.Bounds tripleChoice (prepared .gpuOnly noDecoder triple) ∧
      8 * lumaStride .gpuOnly noDecoder triple tripleChoice < 2 ^ 32 ∧
      ¬StrideSound .gpuOnly noDecoder triple tripleChoice := by
  refine ⟨choose_triple, by decide, by decide +kernel, by decide +kernel, fun h => ?_⟩
  have hrun : deriveFormatAndSize wrapping .gpuOnly noDecoder triple = .error .assertion := by
    decide +kernel
  exact h.asserts hrun

end Gralloc
