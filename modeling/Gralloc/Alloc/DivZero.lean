import Gralloc.Alloc.Afbc

/-!
# Divisions by zero

Every divisor of the derivation comes from the format table, from the geometry of the
allocation type or from an alignment, and all of them are positive for a format and a type
that were chosen (`Gralloc.FormatInfo.WellFormed`, `Gralloc.AllocType.WellFormed`), with
one exception: the bits per pixel of the first plane, by which the pixel stride is
derived, are zero for the formats that only exist compressed.

So the machine divides by zero exactly when one of these formats is chosen
(`Gralloc.avoids_divByZero_iff`) – unless an assertion on the stride of the first plane
stops it just before, which happens to one of them, under CPU access, at some widths
(`Gralloc.StopsAtAssertion`).
-/

namespace Gralloc

open CInt

/-! ### The functions of a plane -/

section

variable {f : FormatInfo} {t : AllocType} {usage : Usage} {e : Fault}

theorem subsampling_pos (hf : f.WellFormed) (i : ℕ) :
    0 < (f.subsampling i).width ∧ 0 < (f.subsampling i).height := by
  obtain ⟨h₁, h₂⟩ := Exact.subsampling_cases hf i
  omega

theorem avoids_getPixelWH (e : Fault) (hf : f.WellFormed) (t : AllocType) (i : ℕ) (cpu : Bool)
    (w h : ℕ) : Avoids e (getPixelWH wrapping f t i cpu w h) := by
  have hfa := Exact.finalAlign_pos f t i cpu
  have hs := subsampling_pos hf i
  exact (avoids_wrapping_alignU32 e _ hf.alignW_pos).bind fun _ _ =>
    (avoids_wrapping_alignU32 e _ hf.alignH_pos).bind fun _ _ =>
    (avoids_udiv_of_pos hs.1 e _).bind fun _ _ => (avoids_udiv_of_pos hs.2 e _).bind fun _ _ =>
    (avoids_wrapping_alignU32 e _ hfa.1).bind fun _ _ =>
    (avoids_wrapping_alignU32 e _ hfa.2).bind fun _ _ => avoids_ok e _

theorem avoids_afrcByteStride (he : e ≠ .assertion) (hf : f.WellFormed) (ht : t.WellFormed f)
    (hr : t.isAfrc = true) {i : ℕ} (hi : i < f.npln) (w : ℕ) :
    Avoids e (afrcByteStride wrapping t i w) := by
  obtain ⟨⟨hcw, -⟩, -⟩ := Exact.clump_bounds hf ht hr hi
  have hpt := Exact.pagingTile_pos ht hr
  have hpos := Exact.pagingTileSamples_pos hf ht hr hi
  exact (avoids_udiv_of_pos (by omega) e _).bind fun _ _ =>
    (avoids_udiv_of_pos hpt.1 e _).bind fun _ _ => (avoids_wrapping_u32 e _).bind fun _ _ =>
    (avoids_umod_of_pos hpos e _).bind fun _ _ => (avoids_assert he _).bind fun _ _ =>
    avoids_udiv_of_pos hpos e _

theorem avoids_afbcByteStride (he : e ≠ .assertion) (f : FormatInfo) (i w : ℕ) :
    Avoids e (afbcByteStride wrapping f i w) :=
  (avoids_wrapping_u32 e _).bind fun _ _ => (avoids_assert he _).bind fun _ _ => avoids_ok e _

theorem avoids_blockLinearByteStride (he : e ≠ .assertion) (hf : f.WellFormed)
    (hb : f.blockLinear = true) (i w w₀ : ℕ) :
    Avoids e (blockLinearByteStride wrapping f i w w₀) := by
  have hrect := Exact.blockRect_cases hf hb i
  have hs := Exact.exactly_blockSamples (i := i) hf hb
  refine (avoids_assert he _).bind fun _ _ =>
    (avoids_of_eq_ok (hs.ok trivial trivial)).bind fun sample hsample => ?_
  obtain ⟨rfl, -⟩ := hs.of_ok _ hsample
  have hpos : 0 < (Exact.blockRect f i).height := by omega
  exact (avoids_umod_of_pos hpos e _).bind fun _ _ => (avoids_assert he _).bind fun _ _ =>
    (avoids_assert he _).bind fun _ _ => (avoids_wrapping_u32 e _).bind fun _ _ =>
    avoids_udiv_of_pos hpos e _

/-- The alignment of a row, where it is computed, is the exact one. -/
theorem strideAlign_eq_ok (hf : f.WellFormed) {i : ℕ} (hi : i < f.npln) {align : ℕ}
    (h : strideAlign wrapping f usage i = .ok align) : align = Exact.rowAlign f usage i := by
  have hex := Exact.exactly_strideAlign usage hf hi
  have happ := (Approx.strideAlign checked_approx_wrapping f usage i).eq (hex.avoids trivial)
  exact (hex.of_ok _ (happ.trans h)).1

theorem avoids_strideAlign (he : e ≠ .assertion) (f : FormatInfo) (usage : Usage) (i : ℕ) :
    Avoids e (strideAlign wrapping f usage i) := by
  refine (Avoids.stepIf _ fun _ =>
    (avoids_assert he _).bind fun _ _ => avoids_ok e _).bind fun cpuAlign _ => ?_
  refine Avoids.ite (fun hne => (avoids_wrapping_u32 e _).bind fun _ _ => ?_) fun _ => avoids_ok e _
  rw [gcd_eq]
  exact avoids_udiv_of_pos (Nat.gcd_pos_of_pos_left _ (Nat.pos_of_ne_zero hne.1)) e _

theorem avoids_linearByteStride (he : e ≠ .assertion) (hf : f.WellFormed) {i : ℕ}
    (hi : i < f.npln) (w luma : ℕ) : Avoids e (linearByteStride wrapping f usage i w luma) := by
  refine (avoids_assert he _).bind fun _ _ => (avoids_wrapping_u64 e _).bind fun _ _ =>
    (avoids_wrapping_u32 e _).bind fun _ _ =>
    (avoids_strideAlign he f usage i).bind fun align halign =>
    (Avoids.stepIf _ fun hne => ?_).bind fun _ _ => Avoids.stepIf _ fun hs => ?_
  · -- tiles are divided by their alignment where there is one
    exact (avoids_wrapping_u32 e _).bind fun _ _ =>
      (avoids_wrapping_alignU32 e _ (Nat.pos_of_ne_zero hne)).bind fun _ _ =>
      avoids_udiv_of_pos hf.tileSize_pos e _
  · rw [strideAlign_eq_ok hf hi halign,
      Exact.rowAlign_of_isSharedYv12 hf hs (hi.trans_le hf.npln_le)]
    exact Avoids.ite (fun _ => avoids_wrapping_alignU32 e _ (by decide)) fun _ =>
      (avoids_wrapping_alignU32 e _ (by decide)).bind fun _ _ =>
      (avoids_assert he _).bind fun _ _ => (avoids_assert he _).bind fun _ _ => avoids_ok e _

theorem avoids_byteStride (he : e ≠ .assertion) (hf : f.WellFormed) (ht : t.WellFormed f)
    (hb : t.isBlockLinear = true → f.blockLinear = true) {i : ℕ} (hi : i < f.npln)
    (planeInfo : PlaneLayout) : Avoids e (byteStride wrapping f t usage i planeInfo) :=
  .ite (fun hr => avoids_afrcByteStride he hf ht hr hi _) fun _ =>
    .ite (fun _ => avoids_afbcByteStride he f i _) fun _ =>
    .ite (fun hl => avoids_blockLinearByteStride he hf (hb hl) i _ _) fun _ =>
    avoids_linearByteStride he hf hi _ _

/-- The pixel stride divides by the bits per pixel. -/
theorem avoids_pixelStride (he : e ≠ .assertion) (hbpp : f.bpp.p0 ≠ 0) (stride : ℕ) :
    Avoids e (pixelStride wrapping f stride) :=
  (avoids_wrapping_u32 e _).bind fun _ _ =>
    (avoids_umod_of_pos (Nat.pos_of_ne_zero hbpp) e _).bind fun _ _ =>
    (avoids_assert he _).bind fun _ _ =>
    (avoids_udiv_of_pos (Nat.pos_of_ne_zero hbpp) e _).bind fun _ _ => avoids_wrapping_i32 e _

theorem pixelStride_of_bpp_eq_zero (hbpp : f.bpp.p0 = 0) (stride : ℕ) :
    pixelStride wrapping f stride = .error .divByZero := by
  simp only [pixelStride, hbpp, wrapping_u32, ok_bind, umod_zero, error_bind]

theorem avoids_afbcBufferAlign (e : Fault) (t : AllocType) (size : ℤ) :
    Avoids e (afbcBufferAlign wrapping t size) := by
  have := Exact.afbcBufferAlignment_pos t
  exact avoids_wrapping_alignI32 e _ (by omega)

theorem avoids_bodySize (e : Fault) (hf : f.WellFormed) (ht : t.WellFormed f)
    (hb : t.isBlockLinear = true → f.blockLinear = true) {i : ℕ} (hi : i < f.npln)
    (planeInfo : PlaneLayout) (n : ℕ) : Avoids e (bodySize wrapping f t i planeInfo n) := by
  refine .ite (fun _ => ?_) fun _ => .ite (fun hr => ?_) fun _ => .ite (fun hl => ?_) fun _ => ?_
  · exact (avoids_wrapping_u32 e _).bind fun _ _ => (avoids_wrapping_i32 e _).bind fun _ _ =>
      (Avoids.stepIf _ fun _ => avoids_afbcBufferAlign e t _).bind fun _ _ =>
      Avoids.stepIf _ fun _ => (avoids_afbcBufferAlign e t _).bind fun _ _ =>
        avoids_wrapping_i32 e _
  · obtain ⟨⟨hcw, -⟩, hch, -⟩ := Exact.clump_bounds hf ht hr hi
    exact (avoids_udiv_of_pos (by omega) e _).bind fun _ _ =>
      (avoids_udiv_of_pos (by omega) e _).bind fun _ _ => (avoids_wrapping_u32 e _).bind fun _ _ =>
      avoids_wrapping_i32 e _
  · have hv := Exact.vsub_pos hf (hf.isYuv_of_blockLinear (hb hl))
    exact (Avoids.stepIf _ fun _ => avoids_udiv_of_pos hv e _).bind fun _ _ =>
      (avoids_wrapping_u32 e _).bind fun _ _ => (avoids_wrapping_u32 e _).bind fun _ _ =>
      avoids_wrapping_i32 e _
  · exact (avoids_wrapping_u32 e _).bind fun _ _ => avoids_wrapping_i32 e _

theorem avoids_headerSize (e : Fault) (t : AllocType) (n : ℕ) :
    Avoids e (headerSize wrapping t n) :=
  .ite (fun _ => (avoids_wrapping_u32 e _).bind fun _ _ => (avoids_wrapping_i32 e _).bind fun _ _ =>
    avoids_afbcBufferAlign e t _) fun _ => avoids_ok e _

/-! ### The loop -/

variable {onLuma : ℕ → Run ℤ}

/-- **One plane** meets the fault only in what is made of the stride of the first. -/
theorem avoids_sizePlane (he : e ≠ .assertion) (hf : f.WellFormed) (ht : t.WellFormed f)
    (hb : t.isBlockLinear = true → f.blockLinear = true) {i : ℕ} (hi : i < f.npln)
    (hook : ∀ n, Avoids e (onLuma n)) (w h : ℤ) (s : SizeState) :
    Avoids e (sizePlane wrapping f t usage onLuma w h i s) :=
  (avoids_wrapping_u32 e _).bind fun _ _ => (avoids_wrapping_u32 e _).bind fun _ _ =>
    (avoids_getPixelWH e hf t i _ _ _).bind fun _ _ =>
    (avoids_byteStride he hf ht hb hi _).bind fun _ _ =>
    (Avoids.stepIf _ fun _ => hook _).bind fun _ _ => (avoids_wrapping_u32 e _).bind fun _ _ =>
    (Avoids.ite (fun hr => avoids_wrapping_alignU64 e _ (Exact.planeAlignment_pos ht hr i)) fun _ =>
      avoids_ok e _).bind fun _ _ =>
    (avoids_bodySize e hf ht hb hi _ _).bind fun _ _ => (avoids_headerSize e t _).bind fun _ _ =>
    (Avoids.stepIf _ fun _ => avoids_wrapping_u32 e _).bind fun _ _ =>
    (avoids_wrapping_i32 e _).bind fun _ _ => (avoids_wrapping_u64 e _).bind fun _ _ =>
    avoids_ok e _

/-- **The loop**, by induction on the number of planes. -/
theorem avoids_sizePlanes (he : e ≠ .assertion) (hf : f.WellFormed) (ht : t.WellFormed f)
    (hb : t.isBlockLinear = true → f.blockLinear = true) (hook : ∀ n, Avoids e (onLuma n))
    (w h : ℤ) (s : SizeState) {n : ℕ} (hn : n ≤ f.npln) :
    Avoids e (sizePlanes wrapping f t usage onLuma w h s n) := by
  induction n with
  | zero => exact avoids_ok e s
  | succ n ih =>
    exact (ih (by omega)).bind fun s _ => avoids_sizePlane he hf ht hb (by omega) hook w h s

end

/-! ### Before and after the planes -/

section

variable (e : Fault)

theorem avoids_allocDimensions (format : InternalFormat) (d : BufferDescriptor) :
    Avoids e (allocDimensions wrapping format d) := by
  refine (avoids_wrapping_i32 e _).bind fun _ _ => (avoids_wrapping_i32 e _).bind fun _ _ =>
    Avoids.ite (fun hd => ?_) fun _ => ?_
  · obtain ⟨hw, hh⟩ := Exact.hasDecoderAlign_pos hd
    exact (avoids_wrapping_alignU32 e _ hw).bind fun _ _ => (avoids_wrapping_i32 e _).bind
      fun _ _ => (avoids_wrapping_alignU32 e _ hh).bind fun _ _ =>
      (avoids_wrapping_i32 e _).bind fun _ _ => avoids_ok e _
  · exact (avoids_wrapping_i32 e _).bind fun _ _ =>
      (Avoids.stepIf _ fun _ => avoids_wrapping_alignI32 e _ (by decide)).bind fun _ _ =>
      (Avoids.stepIf _ fun _ => avoids_wrapping_alignI32 e _ (by decide)).bind fun _ _ =>
      Avoids.stepIf _ fun _ => (avoids_wrapping_alignI32 e _ (by decide)).bind fun _ _ =>
        (Avoids.stepIf _ fun _ => avoids_wrapping_alignI32 e _ (by decide)).bind fun _ _ =>
        avoids_ok e _

theorem avoids_allLayers (format : InternalFormat) (layerCount : BitVec 32) (size : ℕ) :
    Avoids e (allLayers wrapping format layerCount size) :=
  Avoids.stepIf _ fun _ => (Avoids.stepIf _ fun _ =>
    avoids_wrapping_alignU64 e _ (Exact.layerAlign_pos format)).bind fun _ _ =>
    avoids_wrapping_u64 e _

theorem avoids_pitches {usage : Usage} {height : BitVec 32} (c : Choice usage height) (w : ℤ) :
    Avoids e (c.pitches wrapping w) := by
  have := c.info_wellFormed.bps_pos
  exact .ite (fun _ => (avoids_wrapping_i32 e _).bind fun _ _ =>
    (avoids_sdiv_of_ne (by omega) e _).bind fun _ _ => avoids_wrapping_u32 e _) fun _ =>
    avoids_ok e _

/-- **The derivation** meets a fault only where it sizes the planes. -/
theorem avoids_deriveFormatAndSize_iff {caps : Capabilities} {node : ℕ → Option DecoderPara}
    {d : BufferDescriptor} {c : Choice d.usage d.height} (hc : choose caps d = some c) :
    Avoids e (deriveFormatAndSize wrapping caps node d) ↔
      Avoids e (c.layer wrapping (prepared caps node d) (pixelStride wrapping c.info)) := by
  rw [deriveFormatAndSize_of_choose hc]
  constructor
  · intro h
    exact h.fst.bind fun wh hwh => (h.of_bind hwh).fst.fst
  · intro h
    refine h.fst.bind fun wh hwh => ?_
    exact ((h.of_bind hwh).bind fun s _ => (avoids_allLayers e _ _ _).bind fun _ _ =>
      avoids_ok e _).bind fun s _ => (avoids_pitches e c _).bind fun _ _ => avoids_ok e _

end

/-! ### The formats without bits per pixel -/

/-- **Formats without bits per pixel** only exist compressed. In AFBC they have whole bytes
a row of superblocks, and of pixels too, except for one of them. -/
theorem bppZero_of_mem_formats : ∀ f ∈ formats, f.bpp.p0 = 0 →
    f.linear = false ∧ f.blockLinear = false ∧ (f.afbc = true → f.alignWCpu = 1 ∧ f.tileSize = 1 ∧
      (f.id = .yuv420_10bitI ∧ f.alignW = 2 ∧ f.bppAfbc.p0 = 15 ∨
        f.id ≠ .yuv420_10bitI ∧ 8 ∣ f.alignW * f.bppAfbc.p0)) := by
  decide

/-- The one exception has no AFRC. -/
theorem yuv420_10bitI_of_mem_formats : ∀ f ∈ formats, f.id = .yuv420_10bitI →
    f.linear = false ∧ f.blockLinear = false ∧ f.afrc = false := by
  decide

section

variable {f : FormatInfo} {t : AllocType} {usage : Usage}

/-- The width of the first plane, as the machine rounds it. -/
def machineWidth (f : FormatInfo) (t : AllocType) (cpu : Bool) (w : ℕ) : ℕ :=
  let base := (((w : ℤ) + f.alignW - 1) % 2 ^ 32).toNat / f.alignW * f.alignW
  (((base : ℤ) + (finalAlign f t 0 cpu).width - 1) % 2 ^ 32).toNat /
    (finalAlign f t 0 cpu).width * (finalAlign f t 0 cpu).width

theorem getPixelWH_zero (hf : f.WellFormed) (t : AllocType) (cpu : Bool) (w h : ℕ) :
    ∃ h', getPixelWH wrapping f t 0 cpu w h = .ok (machineWidth f t cpu w, h') := by
  have hfa := Exact.finalAlign_pos f t 0 cpu
  have hsub : f.subsampling 0 = ⟨1, 1⟩ := by simp [FormatInfo.subsampling]
  simp only [getPixelWH, hsub, wrapping_alignU32 _ hf.alignW_pos, wrapping_alignU32 _ hf.alignH_pos,
    wrapping_alignU32 _ hfa.1, wrapping_alignU32 _ hfa.2, ok_bind, udiv_of_pos Nat.one_pos,
    Nat.div_one]
  exact ⟨_, rfl⟩

/-- Without bits per pixel, the stride of the first plane is the last thing computed. -/
theorem sizePlane_zero_of_bpp_eq_zero (t : AllocType) (usage : Usage) (hf : f.WellFormed)
    (hbpp : f.bpp.p0 = 0) (w h : ℤ) (s : SizeState) :
    ∃ planeInfo : PlaneLayout,
      (planeInfo.get 0).allocWidth = machineWidth f t usage.hasCpu (w % 2 ^ 32).toNat ∧
      sizePlane wrapping f t usage (pixelStride wrapping f) w h 0 s =
        byteStride wrapping f t usage 0 planeInfo >>= fun _ => .error .divByZero := by
  obtain ⟨h', hwh⟩ := getPixelWH_zero hf t usage.hasCpu (w % 2 ^ 32).toNat (h % 2 ^ 32).toNat
  refine ⟨s.planeInfo.set 0 { s.planeInfo.get 0 with
    allocWidth := machineWidth f t usage.hasCpu (w % 2 ^ 32).toNat, allocHeight := h' }, ?_, ?_⟩
  · rw [Planes.get_set_self]
  · have hu (x : ℤ) : wrapping.u32 x = .ok (x % 2 ^ 32).toNat := rfl
    simp only [sizePlane, hu w, hu h, ok_bind, hwh, stepIf_of trivial,
      pixelStride_of_bpp_eq_zero hbpp, error_bind]

/-- A fault of the first plane is one of the loop. -/
theorem sizePlanes_eq_error {A : Arith} {onLuma : ℕ → Run ℤ} {w h : ℤ} {s : SizeState} {e : Fault}
    (hs : sizePlane A f t usage onLuma w h 0 s = .error e) {n : ℕ} (hn : 0 < n) :
    sizePlanes A f t usage onLuma w h s n = .error e := by
  induction n with
  | zero => exact absurd hn (lt_irrefl 0)
  | succ n ih =>
    rcases Nat.eq_zero_or_pos n with rfl | hpos
    · exact hs
    · rw [sizePlanes, ih hpos, error_bind]

/-- The AFRC assertion on the stride never fails. -/
theorem afrcByteStride_eq_ok (hf : f.WellFormed) (ht : t.WellFormed f) (hr : t.isAfrc = true)
    {i : ℕ} (hi : i < f.npln) (w : ℕ) : ∃ stride, afrcByteStride wrapping t i w = .ok stride := by
  obtain ⟨⟨hcw, -⟩, -⟩ := Exact.clump_bounds hf ht hr hi
  have hpt := Exact.pagingTile_pos ht hr
  have hpos := Exact.pagingTileSamples_pos hf ht hr hi
  have hdvd := Exact.pagingTileSamples_dvd hf ht hr hi
  simp only [afrcByteStride, udiv_of_pos (show 0 < t.afrc.clumpWidth.get i by omega),
    udiv_of_pos hpt.1, udiv_of_pos hpos, umod_of_pos hpos, ok_bind, wrapping_u32]
  rw [assert_of]
  · exact ⟨_, rfl⟩
  · rw [Nat.mod_mod_of_dvd _ (hdvd.trans (by decide))]
    exact Nat.mod_eq_zero_of_dvd ((hdvd.mul_left _).mul_right _)

/-- The AFBC assertion on the stride. -/
theorem afbcByteStride_eq (f : FormatInfo) (i w : ℕ) :
    (8 ∣ w * f.bppAfbc.get i → ∃ stride, afbcByteStride wrapping f i w = .ok stride) ∧
      (¬8 ∣ w * f.bppAfbc.get i → afbcByteStride wrapping f i w = .error .assertion) := by
  simp only [afbcByteStride, wrapping_u32, ok_bind,
    Nat.mod_mod_of_dvd _ (show 8 ∣ 2 ^ 32 by decide), Nat.dvd_iff_mod_eq_zero]
  constructor
  · intro h
    rw [assert_of h]
    exact ⟨_, rfl⟩
  · intro h
    rw [assert_of_not h]
    rfl

/-- Without CPU access, a row of AFBC superblocks has whole bytes. -/
theorem eight_dvd_machineWidth (hf : f.WellFormed) (ha : t.isAfbc = true) (w : ℕ) :
    8 ∣ machineWidth f t false w :=
  (Exact.eight_dvd_finalAlign hf ha 0).mul_left _

/-- Under CPU access, formats without alignments of their own are rounded for the format
only. -/
theorem machineWidth_cpu (hw : f.alignWCpu = 1) (hts : f.tileSize = 1) (w : ℕ) :
    machineWidth f t true w = (((w : ℤ) + f.alignW - 1) % 2 ^ 32).toNat / f.alignW * f.alignW := by
  have hfa := Exact.finalAlign_cpu t hw hts 0
  have hle := Nat.div_mul_le_self (((w : ℤ) + f.alignW - 1) % 2 ^ 32).toNat f.alignW
  have hlt := Int.emod_lt_of_pos ((w : ℤ) + f.alignW - 1) (show (0 : ℤ) < 2 ^ 32 by decide)
  simp only [machineWidth, hfa, Nat.div_one, Nat.mul_one]
  omega

end

/-! ### Accepted formats -/

section

variable {caps : Capabilities} {node : ℕ → Option DecoderPara} {d : BufferDescriptor}
  {c : Choice d.usage d.height}

/-- **The derivation stops at an assertion first**: ten-bit packed YUV in AFBC, under CPU
access, at a width whose even rounding is not a multiple of eight. -/
def StopsAtAssertion (caps : Capabilities) (node : ℕ → Option DecoderPara) (d : BufferDescriptor)
    (c : Choice d.usage d.height) : Prop :=
  c.info.id = .yuv420_10bitI ∧ d.usage.hasCpu = true ∧
    ∀ wh, allocDimensions wrapping c.format (prepared caps node d) = .ok wh →
      1 ≤ wh.1 % 8 ∧ wh.1 % 8 ≤ 6

/-- The stride of the first plane of a format without bits per pixel is computed, unless
an assertion stops it. -/
theorem byteStride_of_bpp_eq_zero (hbpp : c.info.bpp.p0 = 0) {wh : ℤ × ℤ}
    (planeInfo : PlaneLayout) (hw : (planeInfo.get 0).allocWidth =
      machineWidth c.info c.allocType d.usage.hasCpu (wh.1 % 2 ^ 32).toNat) :
    let stops := c.info.id = .yuv420_10bitI ∧ d.usage.hasCpu = true ∧ 1 ≤ wh.1 % 8 ∧ wh.1 % 8 ≤ 6
    (stops → byteStride wrapping c.info c.allocType d.usage 0 planeInfo = .error .assertion) ∧
      (¬stops → ∃ stride,
        byteStride wrapping c.info c.allocType d.usage 0 planeInfo = .ok stride) := by
  obtain ⟨hlin, hbl, hafbc⟩ := bppZero_of_mem_formats _ c.info_mem hbpp
  obtain ⟨sa, sr, sb, sl⟩ := supported_of_validateFormat c.valid
  have hpos := c.info_wellFormed.npln_pos
  intro stops
  unfold byteStride
  by_cases hr : c.allocType.isAfrc = true
  · -- AFRC always has a stride, and the format that stops has no AFRC
    simp only [hr, if_true]
    refine ⟨fun hs => ?_, fun _ =>
      afrcByteStride_eq_ok c.info_wellFormed c.allocType_wellFormed hr hpos _⟩
    have := (yuv420_10bitI_of_mem_formats _ c.info_mem hs.1).2.2
    exact absurd (sr hr) (by simp [this])
  · have ha : c.allocType.isAfbc = true := by
      by_contra ha
      by_cases hb : c.allocType.isBlockLinear = true
      · exact absurd (sb hb) (by simp [hbl])
      · exact absurd (sl (AllocType.isLinear_iff.mpr ⟨ha, hr, hb⟩)) (by simp [hlin])
    obtain ⟨hwcpu, hts, hid⟩ := hafbc (sa ha)
    obtain ⟨hok, herr⟩ := afbcByteStride_eq c.info 0 (planeInfo.get 0).allocWidth
    simp only [hr, ha, Bool.false_eq_true, if_true, if_false]
    suffices h : stops ↔ ¬8 ∣ (planeInfo.get 0).allocWidth * c.info.bppAfbc.get 0 by
      rw [h, not_not]
      exact ⟨herr, hok⟩
    have hbits : c.info.bppAfbc.get 0 = c.info.bppAfbc.p0 := rfl
    simp only [stops, hw, hbits]
    cases hcpu : d.usage.hasCpu with
    | false =>
      have h8 := (eight_dvd_machineWidth c.info_wellFormed ha (wh.1 % 2 ^ 32).toNat).mul_right
        c.info.bppAfbc.p0
      simp only [h8, not_true_eq_false, Bool.false_eq_true, false_and, and_false]
    | true =>
      -- the width is even, of fifteen bits a pixel, or its rows have whole bytes
      rw [machineWidth_cpu hwcpu hts]
      rcases hid with ⟨hid, halign, hbits⟩ | ⟨hid, h8⟩
      · simp only [hid, halign, hbits, true_and]
        omega
      · rw [mul_assoc]
        simp only [hid, false_and, h8.mul_left, not_true_eq_false]

/-- A format with bits per pixel is sized without a division by zero. -/
theorem avoids_divByZero_of_bpp_ne_zero (node : ℕ → Option DecoderPara)
    (hc : choose caps d = some c) (hbpp : c.info.bpp.p0 ≠ 0) :
    Avoids .divByZero (deriveFormatAndSize wrapping caps node d) := by
  rw [avoids_deriveFormatAndSize_iff .divByZero hc]
  exact (avoids_allocDimensions _ _ _).bind fun wh _ =>
    avoids_sizePlanes (by decide) c.info_wellFormed c.allocType_wellFormed
      c.blockLinear_of_isBlockLinear (avoids_pixelStride (by decide) hbpp) _ _ _ le_rfl

/-- A format without bits per pixel is, unless an assertion stops the derivation before. -/
theorem avoids_divByZero_iff_of_bpp_eq_zero (hc : choose caps d = some c)
    (hbpp : c.info.bpp.p0 = 0) :
    Avoids .divByZero (deriveFormatAndSize wrapping caps node d) ↔
      StopsAtAssertion caps node d c := by
  have hf := c.info_wellFormed
  obtain ⟨wh, hwh⟩ : ∃ wh, allocDimensions wrapping c.format (prepared caps node d) = .ok wh :=
    exists_ok_of_avoids fun e => avoids_allocDimensions e _ _
  obtain ⟨planeInfo, hw, hplane⟩ := sizePlane_zero_of_bpp_eq_zero c.allocType d.usage hf hbpp
    wh.1 wh.2 ⟨(prepared caps node d).planeInfo.set 0
      { (prepared caps node d).planeInfo.get 0 with offset := 0 }, 0, 0⟩
  obtain ⟨hstops, hcomputed⟩ := byteStride_of_bpp_eq_zero hbpp planeInfo hw
  have hiff : StopsAtAssertion caps node d c ↔
      c.info.id = .yuv420_10bitI ∧ d.usage.hasCpu = true ∧ 1 ≤ wh.1 % 8 ∧ wh.1 % 8 ≤ 6 := by
    simp only [StopsAtAssertion, hwh, Except.ok.injEq, forall_eq']
  have hlayer (e : Fault) (h : byteStride wrapping c.info c.allocType d.usage 0 planeInfo >>=
      (fun _ => (.error .divByZero : Run SizeState)) = .error e) :
      c.layer wrapping (prepared caps node d) (pixelStride wrapping c.info) = .error e := by
    rw [Choice.layer, hwh, ok_bind]
    exact sizePlanes_eq_error (hplane.trans h) hf.npln_pos
  rw [avoids_deriveFormatAndSize_iff .divByZero hc, hiff]
  constructor
  · intro h
    by_contra hns
    obtain ⟨stride, hs⟩ := hcomputed hns
    exact h (hlayer _ (by rw [hs, ok_bind]))
  · intro hs
    rw [Avoids, hlayer .assertion (by rw [hstops hs, error_bind])]
    exact fun h => nomatch h

/-- **The machine divides by zero**, for a format that was chosen, exactly when the format
has no bits per pixel, unless it stops at an assertion first. -/
theorem avoids_divByZero_iff (hc : choose caps d = some c) :
    Avoids .divByZero (deriveFormatAndSize wrapping caps node d) ↔
      c.info.bpp.p0 ≠ 0 ∨ StopsAtAssertion caps node d c := by
  by_cases hbpp : c.info.bpp.p0 = 0
  · rw [avoids_divByZero_iff_of_bpp_eq_zero hc hbpp]
    simp only [hbpp, ne_eq, not_true_eq_false, false_or]
  · exact iff_of_true (avoids_divByZero_of_bpp_ne_zero node hc hbpp) (Or.inl hbpp)

end

/-! ### Packed YUV in AFBC -/

/-- 16 × 16 pixels of packed eight-bit YUV, which only exists in AFBC, for the GPU. -/
def packed : BufferDescriptor := .request 16#32 16#32 0x300#64 0x1810c#64 1#32

/-- The format that is chosen for it. -/
def packedChoice : Choice packed.usage packed.height := (choose .gpuOnly packed).get (by decide)

theorem choose_packed : choose .gpuOnly packed = some packedChoice := (Option.some_get _).symm

/-- The equivalence, at packed YUV. -/
theorem avoids_divByZero_iff_packed :
    Avoids .divByZero (deriveFormatAndSize wrapping .gpuOnly noDecoder packed) ↔
      packedChoice.info.bpp.p0 ≠ 0 ∨ StopsAtAssertion .gpuOnly noDecoder packed packedChoice :=
  avoids_divByZero_iff choose_packed

/-- **Packed YUV is chosen, and the machine divides by zero.** -/
theorem not_avoids_divByZero_packed :
    choose .gpuOnly packed = some packedChoice ∧
      ¬Avoids .divByZero (deriveFormatAndSize wrapping .gpuOnly noDecoder packed) := by
  have h : deriveFormatAndSize wrapping .gpuOnly noDecoder packed = .error .divByZero := by
    decide +kernel
  exact ⟨choose_packed, fun havoids => havoids h⟩

end Gralloc
