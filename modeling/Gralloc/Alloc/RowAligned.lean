import Gralloc.Alloc.Stride

/-!
# The alignment of linear rows

A linear row is rounded up for whoever accesses it: the hardware asks for 32 or 64 bytes, the CPU
for a number of pixels, and both for a common multiple. What is rounded is a row of tiles, and
the stride is that of a row of pixels, so that it is the row of tiles whose alignment is kept.

In YV12 the rows of the two chroma planes are half a luma row, rounded up to 16 bytes. Where the
CPU and the hardware share the buffer they are made so, and the luma row is aligned twice as far
for that. Where the CPU has it alone each plane is rounded by itself, and it comes to the same
(`Gralloc.Exact.linearStride_yv12`).

`Gralloc.rowsAligned_of_bounds` says all this of the planes of an accepted request, as long as
nothing overflows.
-/

namespace Gralloc

open CInt

namespace Exact

section

variable {f : FormatInfo} {t : AllocType} {usage : Usage} {w : ℕ}

/-! ### Rows -/

/-- The hardware's alignment of a row is respected, too. -/
theorem hwAlign_dvd_rowAlign (f : FormatInfo) (h : usage.hasHw = true) (i : ℕ) :
    hwAlign f usage ∣ rowAlign f usage i := by
  have hpos := hwAlign_pos f h
  unfold rowAlign
  split_ifs with hboth
  · exact Nat.dvd_lcm_left _ _
  · have h₀ : cpuAlign f usage i = 0 := by_contra fun hne => hboth ⟨hpos.ne', hne⟩
    rw [h₀, Nat.max_zero]

/-- Rows are aligned if anyone asks for it. -/
theorem rowAlign_ne_zero {i : ℕ} (h : 0 < hwAlign f usage ∨ 0 < cpuAlign f usage i) :
    rowAlign f usage i ≠ 0 := by
  unfold rowAlign
  split_ifs with hboth
  · exact Nat.lcm_ne_zero hboth.1 hboth.2
  · omega

/-- What the CPU asks for is a number of pixels. -/
theorem eight_mul_cpuAlign (hf : f.WellFormed) (hm : f ∈ formats) (hlin : f.linear = true)
    (hcpu : usage.hasCpu = true) {i : ℕ} (hi : i < f.npln) :
    8 * cpuAlign f usage i = f.bpp.get i * f.alignWCpu ∧ 0 < cpuAlign f usage i := by
  have hbpp := hf.bpp_pos (Or.inl hlin) i hi
  have hbits : 8 ∣ f.bpp.get i * f.alignWCpu := by
    rcases (linear_of_mem_formats f hm hlin).1 with h8 | ⟨hn, -, hwcpu, -, h8⟩
    · exact (h8 i hi).mul_right _
    · obtain rfl : i = 0 := by omega
      rw [hwcpu, Nat.mul_comm]
      exact h8
  have hpos := Nat.mul_pos (show 0 < f.bpp.get i by omega) hf.alignWCpu_pos
  rw [cpuAlign, if_pos hcpu]
  omega

/-- Tiles are of one pixel, or else of two by two in the one plane of a format of two bytes. -/
theorem tileSize_of_mem_formats : ∀ f ∈ formats, f.tileSize = 1 ∨
    f.tileSize = 2 ∧ f.npln = 1 ∧ f.isYuv = true ∧ f.bpp.get 0 = 16 ∧ f.alignWCpu = 1 := by
  decide

/-- Rows are aligned to whole rows of tiles. -/
theorem tileSize_dvd_rowAlign (hm : f ∈ formats) {i : ℕ} (hi : i < f.npln) :
    f.tileSize ∣ rowAlign f usage i := by
  rcases tileSize_of_mem_formats f hm with hts | ⟨hts, hn, hy, hbpp, hwcpu⟩
  · rw [hts]
    exact one_dvd _
  · obtain rfl : i = 0 := by omega
    rw [hts]
    cases hhw : usage.hasHw with
    | true =>
      have h32 := hwAlign_dvd_rowAlign f hhw 0
      rw [hwAlign_of_isYuv hy hhw] at h32
      exact (by decide : 2 ∣ 32).trans h32
    | false =>
      rw [rowAlign, hwAlign_of_not_hasHw f hhw, if_neg (by simp), Nat.zero_max, cpuAlign, hbpp,
        hwcpu]
      split_ifs <;> decide

/-- **A row of tiles** has the alignment that was asked for. -/
theorem rowStride_mul_tileSize (t : AllocType) (w : ℕ) (hm : f ∈ formats) {i : ℕ}
    (hi : i < f.npln) (h : rowAlign f usage i ≠ 0) :
    rowStride f t usage w i * f.tileSize =
      alignUp (rowBytes f t usage w i * f.tileSize) (rowAlign f usage i) := by
  rw [rowStride, if_pos h]
  exact Nat.div_mul_cancel (dvd_alignUp_of_dvd (tileSize_dvd_rowAlign hm hi) _)

/-- Rows that the CPU and the hardware share in YV12: of 32 bytes, and the luma row of 64. -/
theorem linearStride_of_isSharedYv12 (hf : f.WellFormed) (hs : isSharedYv12 f usage = true)
    (i : ℕ) : linearStride f t usage w i =
      if i = 0 then alignUp (rowStride f t usage w 0) 64
      else alignUp (rowStride f t usage w 0) 64 / 2 := by
  rw [linearStride, if_pos hs, rowAlign_of_isSharedYv12 hf hs (by decide)]

/-- **Whatever divides the alignment of a row** divides the stride of a row of tiles. -/
theorem dvd_linearStride_mul_tileSize (t : AllocType) (w : ℕ) (hf : f.WellFormed)
    (hm : f ∈ formats) {i : ℕ} (hi : i < f.npln) {a : ℕ} (ha : a ∣ rowAlign f usage i)
    (h : rowAlign f usage i ≠ 0) : a ∣ linearStride f t usage w i * f.tileSize := by
  by_cases hs : isSharedYv12 f usage = true
  · rw [rowAlign_of_isSharedYv12 hf hs (hi.trans_le hf.npln_le)] at ha
    refine ha.trans (Dvd.dvd.mul_right ?_ _)
    have h64 := dvd_alignUp (rowStride f t usage w 0) 64
    rw [linearStride_of_isSharedYv12 hf hs]
    split_ifs <;> omega
  · rw [linearStride, if_neg hs, rowStride_mul_tileSize t w hm hi h]
    exact dvd_alignUp_of_dvd ha _

/-! ### YV12 -/

theorem npln_yv12_of_mem_formats : ∀ f ∈ formats, f.id = .yv12 → f.npln = 3 := by decide

theorem layouts_yv12_of_mem_formats : ∀ f ∈ formats, f.id = .yv12 →
    f.afrc = false ∧ f.blockLinear = false ∧ f.bppAfbc = ⟨8, 8, 8⟩ := by
  decide

/-- The planes of YV12 under CPU access: a byte a pixel, in rows of 16. -/
theorem width_yv12 (hf : f.WellFormed) (hm : f ∈ formats) (hid : f.id = .yv12)
    (hcpu : usage.hasCpu = true) :
    width f t usage w 0 = alignUp (alignUp w f.alignW) 16 ∧
      ∀ i, 0 < i → width f t usage w i = alignUp (alignUp w f.alignW / 2) 16 := by
  obtain ⟨hy, hts, hwcpu, -⟩ := hf.yv12 hid
  obtain ⟨hsub, -, -⟩ := yv12_of_mem_formats f hm hid
  have halign (j : ℕ) : (finalAlign f t j usage.hasCpu).width = 16 := by
    simp [finalAlign, pixelAlign, hcpu, hwcpu, hts]
  refine ⟨?_, fun i hi => ?_⟩
  · rw [width, halign, baseWidth_zero]
  · rw [width, halign, baseWidth_of_pos hy hi, hsub]

/-- A chroma row has half the pixels of a luma row, rounded up. -/
theorem width_yv12_eq (hf : f.WellFormed) (hm : f ∈ formats) (hid : f.id = .yv12)
    (hcpu : usage.hasCpu = true) {i : ℕ} (hi₀ : 0 < i) :
    width f t usage w i = alignUp (width f t usage w 0 / 2) 16 := by
  obtain ⟨hy, -, -, -⟩ := hf.yv12 hid
  obtain ⟨hluma, hchroma⟩ := width_yv12 (t := t) (w := w) hf hm hid hcpu
  have h2 : 2 ∣ alignUp w f.alignW :=
    dvd_alignUp_of_dvd ((yv12_of_mem_formats f hm hid).1 ▸ (hf.hsub_yuv hy).2) w
  rw [hluma, hchroma i hi₀]
  generalize alignUp w f.alignW = base at h2
  simp only [alignUp_eq]
  omega

/-- Rows of YV12 that are rounded by themselves are as wide as their planes. -/
theorem rowStride_yv12 (hf : f.WellFormed) (hid : f.id = .yv12) (hcpu : usage.hasCpu = true)
    {i : ℕ} (hi : i < 3) :
    rowStride f t usage w i = alignUp (width f t usage w i) (rowAlign f usage i) := by
  obtain ⟨hy, hts, hwcpu, hbpp⟩ := hf.yv12 hid
  have hbytes : f.bpp.get i = 8 := by
    rw [hbpp]
    interval_cases i <;> rfl
  have hne : rowAlign f usage i ≠ 0 := by
    refine rowAlign_ne_zero (Or.inr ?_)
    rw [cpuAlign, if_pos hcpu, hbytes, hwcpu]
    decide
  rw [rowStride, if_pos hne, rowBytes, hbytes, hts, Nat.mul_one, Nat.div_one,
    Nat.mul_div_cancel _ (by decide)]

/-- **Half of a luma row**, rounded up, is a chroma row, whether the planes are rounded each by
itself or the chroma rows are made of the luma rows. -/
theorem linearStride_yv12 (hf : f.WellFormed) (hm : f ∈ formats) (hid : f.id = .yv12)
    (hcpu : usage.hasCpu = true) {i : ℕ} (hi₀ : 0 < i) (hi : i < 3) :
    linearStride f t usage w i = alignUp (linearStride f t usage w 0 / 2) 16 ∧
      width f t usage w i ≤ linearStride f t usage w i := by
  obtain ⟨hy, hts, hwcpu, hbpp⟩ := hf.yv12 hid
  obtain ⟨hluma, hchroma⟩ := width_yv12 (t := t) (w := w) hf hm hid hcpu
  cases hhw : usage.hasHw with
  | true =>
    have hs : isSharedYv12 f usage = true := by rw [isSharedYv12, hid, hhw, hcpu]; rfl
    rw [linearStride_of_isSharedYv12 hf hs, linearStride_of_isSharedYv12 hf hs, if_neg hi₀.ne',
      if_pos rfl, hchroma i hi₀, rowStride_yv12 hf hid hcpu (by decide),
      rowAlign_of_isSharedYv12 hf hs (by decide), hluma]
    generalize alignUp w f.alignW = base
    have h64 := dvd_alignUp (alignUp (alignUp base 16) 32) 64
    have hle : base ≤ alignUp (alignUp (alignUp base 16) 32) 64 :=
      ((le_alignUp (by decide)).trans (le_alignUp (by decide))).trans (le_alignUp (by decide))
    refine ⟨(alignUp_of_dvd (by decide) (by omega)).symm, ?_⟩
    exact alignUp_le_of_dvd (by decide) (by omega) (by omega)
  | false =>
    have hs : ¬isSharedYv12 f usage = true := by rw [isSharedYv12, hhw]; simp
    have halign (j : ℕ) (hj : j < 3) : rowAlign f usage j = 16 := by
      have hbytes : f.bpp.get j = 8 := by
        rw [hbpp]
        interval_cases j <;> rfl
      rw [rowAlign, hwAlign_of_not_hasHw f hhw, if_neg (by simp), Nat.zero_max, cpuAlign,
        if_pos hcpu, hbytes, hwcpu]
    have hrow (j : ℕ) (hj : j < 3) :
        linearStride f t usage w j = alignUp (width f t usage w j) 16 := by
      rw [linearStride, if_neg hs, rowStride_yv12 hf hid hcpu hj, halign j hj]
    have h16 (j : ℕ) : 16 ∣ width f t usage w j := by
      rcases Nat.eq_zero_or_pos j with rfl | hj
      · exact hluma ▸ dvd_alignUp _ _
      · exact hchroma j hj ▸ dvd_alignUp _ _
    rw [hrow i hi, hrow 0 (by decide), alignUp_of_dvd (by decide) (h16 i),
      alignUp_of_dvd (by decide) (h16 0)]
    exact ⟨width_yv12_eq hf hm hid hcpu hi₀, le_rfl⟩

end

end Exact

/-! ### The machine -/

section

variable {caps : Capabilities} {node : ℕ → Option DecoderPara} {d d' : BufferDescriptor}
  {c : Choice d.usage d.height}

/-- **Aligned rows**: a row of tiles is a multiple of the bytes that the hardware asks for and
of the pixels that the CPU does. -/
structure RowsAligned (f : FormatInfo) (usage : Usage) (planeInfo : PlaneLayout) : Prop where
  hw : usage.hasHw = true → ∀ i < f.npln,
    (if f.isYuv then 32 else 64) ∣ (planeInfo.get i).byteStride * f.tileSize
  cpu : usage.hasCpu = true → ∀ i < f.npln,
    f.bpp.get i * f.alignWCpu ∣ 8 * ((planeInfo.get i).byteStride * f.tileSize)

/-- **The chroma rows of YV12**: each is half a luma row, rounded up to 16 bytes, with room for
its pixels. -/
structure ChromaRows (planeInfo : PlaneLayout) : Prop where
  same : (planeInfo.get 1).byteStride = (planeInfo.get 2).byteStride
  aligned : 16 ∣ (planeInfo.get 1).byteStride
  half : ∀ i, i = 1 ∨ i = 2 →
    (planeInfo.get i).byteStride = alignUp ((planeInfo.get 0).byteStride / 2) 16
  room : ∀ i, i = 1 ∨ i = 2 → (planeInfo.get i).allocWidth ≤ (planeInfo.get i).byteStride

/-- The exact strides of a linear layout are aligned. -/
theorem Exact.rowsAligned {f : FormatInfo} (t : AllocType) {usage : Usage} (w : ℕ)
    {planeInfo : PlaneLayout} (hf : f.WellFormed) (hm : f ∈ formats) (hlin : f.linear = true)
    (hstride : ∀ i < f.npln, (planeInfo.get i).byteStride = linearStride f t usage w i) :
    RowsAligned f usage planeInfo where
  hw hhw i hi := by
    have hdvd := hwAlign_dvd_rowAlign f hhw i
    have hne := rowAlign_ne_zero (i := i) (Or.inl (hwAlign_pos f hhw))
    rw [hwAlign, if_pos hhw] at hdvd
    rw [hstride i hi]
    exact dvd_linearStride_mul_tileSize t w hf hm hi hdvd hne
  cpu hcpu i hi := by
    obtain ⟨hbits, hpos⟩ := eight_mul_cpuAlign hf hm hlin hcpu hi
    have hdvd := cpuAlign_dvd_rowAlign hpos
    have hne := rowAlign_ne_zero (Or.inr hpos)
    rw [hstride i hi, ← hbits]
    exact Nat.mul_dvd_mul_left 8 (dvd_linearStride_mul_tileSize t w hf hm hi hdvd hne)

/-- YV12 is laid out linear or in AFBC, whose rows are as wide as the planes. -/
theorem Exact.stride_yv12 {f : FormatInfo} {t : AllocType} {usage : Usage} {w : ℕ}
    {height : BitVec 32} (hf : f.WellFormed) (hm : f ∈ formats)
    (hv : validateFormat f t height = true) (hid : f.id = .yv12) (hcpu : usage.hasCpu = true)
    {i : ℕ} (hi₀ : 0 < i) (hi : i < 3) :
    stride f t usage w i = alignUp (stride f t usage w 0 / 2) 16 ∧
      Exact.width f t usage w i ≤ stride f t usage w i := by
  obtain ⟨-, sr, sb, -⟩ := supported_of_validateFormat hv
  obtain ⟨hafrc, hblock, hafbc⟩ := layouts_yv12_of_mem_formats f hm hid
  have hr : ¬t.isAfrc = true := fun h => absurd ((sr h).symm.trans hafrc) (by decide)
  have hb : ¬t.isBlockLinear = true := fun h => absurd ((sb h).symm.trans hblock) (by decide)
  by_cases ha : t.isAfbc = true
  · have hbytes (j : ℕ) (hj : j < 3) : stride f t usage w j = Exact.width f t usage w j := by
      have h8 : f.bppAfbc.get j = 8 := by
        rw [hafbc]
        interval_cases j <;> rfl
      rw [stride, if_neg hr, if_pos ha, h8, Nat.mul_div_cancel _ (by decide)]
    rw [hbytes i hi, hbytes 0 (by decide)]
    exact ⟨width_yv12_eq hf hm hid hcpu hi₀, le_rfl⟩
  · rw [stride, if_neg hr, if_neg ha, if_neg hb, stride, if_neg hr, if_neg ha, if_neg hb]
    exact linearStride_yv12 hf hm hid hcpu hi₀ hi

/-- **The rows of an accepted request are aligned**, as long as nothing overflows: those of
linear layouts for whoever accesses them, and those of YV12 for the CPU also with each other. -/
theorem rowsAligned_of_bounds (hc : choose caps d = some c)
    (hd : deriveFormatAndSize wrapping caps node d = .ok (.success, d'))
    (hb : Exact.Bounds c (prepared caps node d)) :
    (c.allocType.isLinear = true → RowsAligned c.info d.usage d'.planeInfo) ∧
      (c.info.id = .yv12 → d.usage.hasCpu = true → ChromaRows d'.planeInfo) := by
  have hf := c.info_wellFormed
  obtain ⟨hp, -, -, -⟩ := layer_eq_exact hc hd hb
  have hplane (i : ℕ) (hi : i < c.info.npln) : d'.planeInfo.get i =
      Exact.plane c.info c.allocType d.usage (Exact.dims c.format (prepared caps node d)).1
        (Exact.dims c.format (prepared caps node d)).2 i := by
    rw [hp, Exact.layer_get c _ 0 hi]
  constructor
  · intro hl
    obtain ⟨ha, hr, hbl⟩ := AllocType.isLinear_iff.mp hl
    have hlin := (supported_of_validateFormat c.valid).2.2.2 hl
    refine Exact.rowsAligned c.allocType (Exact.dims c.format (prepared caps node d)).1 hf
      c.info_mem hlin fun i hi => ?_
    rw [hplane i hi, Exact.plane, Exact.stride, if_neg hr, if_neg ha, if_neg hbl]
  · intro hid hcpu
    have hn := Exact.npln_yv12_of_mem_formats _ c.info_mem hid
    have hrow (i : ℕ) (hi : i = 1 ∨ i = 2) :
        (d'.planeInfo.get i).byteStride = alignUp ((d'.planeInfo.get 0).byteStride / 2) 16 ∧
          (d'.planeInfo.get i).allocWidth ≤ (d'.planeInfo.get i).byteStride := by
      rw [hplane i (by omega), hplane 0 (by omega)]
      exact Exact.stride_yv12 hf c.info_mem c.valid hid hcpu (by omega) (by omega)
    refine ⟨?_, ?_, fun i hi => (hrow i hi).1, fun i hi => (hrow i hi).2⟩
    · rw [(hrow 1 (.inl rfl)).1, (hrow 2 (.inr rfl)).1]
    · rw [(hrow 1 (.inl rfl)).1]
      exact dvd_alignUp _ _

/-! ### A frame of YV12 -/

/-- 34 × 34 pixels of YV12, written by the CPU and read by the GPU. -/
def frame : BufferDescriptor := .request 34#32 34#32 0x133#64 0x32315659#64 1#32

/-- The descriptor that is derived: a luma row is 48 bytes, in a stride of twice 32. -/
def frameDerived : BufferDescriptor :=
  { frame with
    size := 3264
    allocFormat := ⟨.unorm, 0x10e#32, 0#32⟩
    pixelStride := 64
    planeInfo := ⟨⟨0, 64, 48, 34⟩, ⟨2176, 32, 32, 17⟩, ⟨2720, 32, 32, 17⟩⟩ }

/-- The format that is chosen for it. -/
def frameChoice : Choice frame.usage frame.height := (choose .gpuOnly frame).get (by decide +kernel)

theorem choose_frame : choose .gpuOnly frame = some frameChoice := (Option.some_get _).symm

/-- The rows of the frame. -/
theorem rowsAligned_of_bounds_frame :
    RowsAligned frameChoice.info frame.usage frameDerived.planeInfo ∧
      ChromaRows frameDerived.planeInfo := by
  have hd : deriveFormatAndSize wrapping .gpuOnly noDecoder frame =
      .ok (.success, frameDerived) := by decide +kernel
  rcases rowsAligned_of_bounds choose_frame hd (by decide +kernel) with ⟨hrows, hchroma⟩
  exact ⟨hrows (by decide +kernel), hchroma (by decide +kernel) (by decide)⟩

end

end Gralloc
