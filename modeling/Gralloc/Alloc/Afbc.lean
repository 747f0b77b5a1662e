import Gralloc.Alloc.Layout

/-!
# The planes of an AFBC buffer

An AFBC plane stores a header of 16 bytes and a body of fixed size for each of the
superblocks that cover it, headers first, and headers and bodies start at multiples of
the alignment of AFBC buffers. The code does not count superblocks but pixels: their
number is that of the pixels of the rounded plane, divided by the 256 of a superblock.

This is right when the sides of the plane were rounded up to those of its superblock, and
they are, by all the branches of the rounding but one: under CPU access a plane is only
rounded up to the pixels the CPU wants. `Gralloc.afbcCovered_iff` is the resulting
equivalence. The storage of every accepted AFBC buffer without CPU access is sufficient;
with CPU access it is when the rounded plane happens to have the pixels for the superblocks
that cover the request (`Gralloc.AfbcRoom`), and then the headers fit, too.
-/

namespace Gralloc

open CInt

namespace Exact

/-! ### Superblocks -/

section

variable {f : FormatInfo} {t : AllocType} {usage : Usage} {w h : ℕ} {i : ℕ}

/-- **The superblocks that cover the requested plane.** -/
def superblocks (f : FormatInfo) (t : AllocType) (w h i : ℕ) : ℕ :=
  baseWidth f w i ⌈/⌉ (getAfbcSbSize t f i).width *
    (baseHeight f h i ⌈/⌉ (getAfbcSbSize t f i).height)

/-- The superblocks of AFBC have 256 pixels. -/
theorem sbSize_cases (ha : t.isAfbc = true) (f : FormatInfo) (i : ℕ) :
    getAfbcSbSize t f i = ⟨16, 16⟩ ∨ getAfbcSbSize t f i = ⟨32, 8⟩ ∨
      getAfbcSbSize t f i = ⟨64, 4⟩ := by
  unfold getAfbcSbSize
  split_ifs
  · exact Or.inr (Or.inr rfl)
  · cases hp : t.primaryType with
    | afbc => exact Or.inl rfl
    | afbcWideblk => exact Or.inr (Or.inl rfl)
    | afbcExtrawideblk => exact Or.inr (Or.inr rfl)
    | uncompressed => simp [AllocType.isAfbc, hp] at ha
    | afrc => simp [AllocType.isAfbc, hp] at ha
    | blockLinear => simp [AllocType.isAfbc, hp] at ha

theorem sbSize_pos (ha : t.isAfbc = true) (f : FormatInfo) (i : ℕ) :
    0 < (getAfbcSbSize t f i).width ∧ 0 < (getAfbcSbSize t f i).height := by
  rcases sbSize_cases ha f i with h | h | h <;> rw [h] <;> decide

/-- What an AFBC plane is rounded up to are whole superblocks. -/
theorem sbSize_dvd_finalAlign (hf : f.WellFormed) (ha : t.isAfbc = true) (i : ℕ) :
    (getAfbcSbSize t f i).width ∣ (finalAlign f t i false).width ∧
      (getAfbcSbSize t f i).height ∣ (finalAlign f t i false).height := by
  have hts := hf.tileSize_le
  simp only [finalAlign, pixelAlign, ha, Bool.false_eq_true, if_true, if_false, afbcPixelAlign,
    afbcTile]
  rcases sbSize_cases ha f i with hsb | hsb | hsb <;> rw [hsb]
  · constructor
    · split_ifs <;> dsimp only <;> omega
    · split_ifs <;> dsimp only <;> omega
  · constructor
    · split_ifs <;> dsimp only <;> omega
    · split_ifs <;> dsimp only <;> omega
  · constructor
    · split_ifs <;> dsimp only <;> omega
    · split_ifs <;> dsimp only <;> omega

/-- Without CPU access, rows of whole superblocks have a multiple of eight pixels. -/
theorem eight_dvd_finalAlign (hf : f.WellFormed) (ha : t.isAfbc = true) (i : ℕ) :
    8 ∣ (finalAlign f t i false).width := by
  refine Dvd.dvd.trans ?_ (sbSize_dvd_finalAlign hf ha i).1
  rcases sbSize_cases ha f i with h | h | h <;> rw [h] <;> decide

/-- **Without CPU access, the counted superblocks cover the plane**: its sides are whole
numbers of superblocks. -/
theorem superblocks_le_sbNum (hf : f.WellFormed) (ha : t.isAfbc = true)
    (hcpu : usage.hasCpu = false) : superblocks f t w h i ≤ sbNum f t usage w h i := by
  obtain ⟨hdw, hdh⟩ := sbSize_dvd_finalAlign hf ha i
  have hfa := finalAlign_pos f t i false
  obtain ⟨hsw, hsh⟩ := sbSize_pos ha f i
  have hprod : (getAfbcSbSize t f i).width * (getAfbcSbSize t f i).height = 256 := by
    rcases sbSize_cases ha f i with h | h | h <;> rw [h] <;> rfl
  have hw : width f t usage w i = alignUp (baseWidth f w i) (finalAlign f t i false).width := by
    rw [width, hcpu]
  have hh : height f t usage h i = alignUp (baseHeight f h i) (finalAlign f t i false).height := by
    rw [height, hcpu]
  obtain ⟨a, hwa⟩ : (getAfbcSbSize t f i).width ∣ width f t usage w i :=
    hw ▸ dvd_alignUp_of_dvd hdw _
  obtain ⟨b, hhb⟩ : (getAfbcSbSize t f i).height ∣ height f t usage h i :=
    hh ▸ dvd_alignUp_of_dvd hdh _
  have hle₁ : baseWidth f w i ⌈/⌉ (getAfbcSbSize t f i).width ≤ a := by
    rw [ceilDiv_le_iff_le_mul hsw, ← hwa, hw]
    exact le_alignUp hfa.1
  have hle₂ : baseHeight f h i ⌈/⌉ (getAfbcSbSize t f i).height ≤ b := by
    rw [ceilDiv_le_iff_le_mul hsh, ← hhb, hh]
    exact le_alignUp hfa.2
  have hpix : pixels f t usage w h i = 256 * (a * b) := by
    rw [pixels, hwa, hhb, ← hprod]
    ring
  rw [sbNum, hpix, Nat.mul_div_cancel_left _ (by decide)]
  exact Nat.mul_le_mul hle₁ hle₂

/-! ### Headers and bodies -/

theorem sbBytes_dvd (f : FormatInfo) (t : AllocType) (i : ℕ) : 128 ∣ sbBytes f t i :=
  dvd_alignUp _ _

/-- **The bodies bound the headers**: superblocks whose bodies fit have headers that do. -/
theorem header_of_body (ha : t.isAfbc = true) {n : ℕ} (hs : 0 < sbBytes f t i)
    (hn : n * sbBytes f t i ≤ afbcBody f t usage w h i) :
    n * 16 ≤ header f t usage w h i := by
  obtain ⟨k, hk⟩ := sbBytes_dvd f t i
  have hpos := afbcBufferAlignment_pos t
  rw [header, if_pos ha]
  have hbody : afbcBody f t usage w h i ≤
      alignUp (sbNum f t usage w h i * 16) (afbcBufferAlignment t) * (8 * k) := by
    have hle : sbNum f t usage w h i * sbBytes f t i ≤
        alignUp (sbNum f t usage w h i * 16) (afbcBufferAlignment t) * (8 * k) := by
      calc sbNum f t usage w h i * sbBytes f t i
          = sbNum f t usage w h i * 16 * (8 * k) := by rw [hk]; ring
        _ ≤ _ := Nat.mul_le_mul_right _ (le_alignUp hpos)
    unfold afbcBody
    split_ifs
    · exact alignUp_le_of_dvd hpos ((dvd_alignUp _ _).mul_right _) hle
    · exact hle
  have hmul : n * 16 * (8 * k) ≤
      alignUp (sbNum f t usage w h i * 16) (afbcBufferAlignment t) * (8 * k) := by
    calc n * 16 * (8 * k) = n * sbBytes f t i := by rw [hk]; ring
      _ ≤ _ := hn.trans hbody
  exact Nat.le_of_mul_le_mul_right hmul (by omega)

/-- One body or two hold the superblocks exactly when the first does. -/
theorem doubleBody_le_iff (t : AllocType) {m n : ℕ} :
    (if t.isFrontbufferSafe then alignUp m (afbcBufferAlignment t) + m else m) ≤
        (if t.isFrontbufferSafe then n + alignUp n (afbcBufferAlignment t) else n) ↔ m ≤ n := by
  have hpos := afbcBufferAlignment_pos t
  split_ifs
  · constructor
    · intro hle
      -- a first body that is too small makes the second one no larger
      by_contra hlt
      have := alignUp_mono hpos (le_of_not_ge hlt)
      omega
    · intro hle
      have := alignUp_mono hpos hle
      omega
  · exact Iff.rfl

/-- Planes other than the last are whole numbers of alignments, so that the next one
starts aligned. -/
theorem dvd_share (ha : t.isAfbc = true) (hn : 1 < f.npln) (hi : i < 2) :
    afbcBufferAlignment t ∣ share f t usage w h i := by
  have hbody : afbcBufferAlignment t ∣ afbcBody f t usage w h i := by
    rw [afbcBody, if_pos ⟨hn, hi⟩]
    exact dvd_alignUp _ _
  rw [share, body, if_pos ha, header, if_pos ha]
  refine Dvd.dvd.add ?_ (dvd_alignUp _ _)
  split_ifs
  · exact hbody.add (dvd_alignUp _ _)
  · exact hbody

/-- **AFBC planes start aligned.** -/
theorem dvd_start (hf : f.WellFormed) (ha : t.isAfbc = true) (hi : i < f.npln) :
    afbcBufferAlignment t ∣ start f t usage w h i := by
  have hr : t.isAfrc ≠ true := fun hr => AllocType.not_isAfbc_of_isAfrc hr ha
  have hle := hf.npln_le
  induction i with
  | zero => simp [start_zero]
  | succ i ih =>
    rw [start, startFrom, if_neg hr, total_succ]
    exact (ih (by omega)).add (dvd_share ha (by omega) (by omega))

theorem sbBytes_pos (hf : f.WellFormed) (ha : t.isAfbc = true) (hfa : f.afbc = true)
    (hi : i < f.npln) : 0 < sbBytes f t i := by
  have hbpp := hf.bppAfbc_pos hfa i hi
  refine alignUp_pos (by decide) ?_
  rcases sbSize_cases ha f i with h | h | h <;> rw [h] <;> dsimp only <;> omega

/-- The counted superblocks fit in the body. -/
theorem sbNum_mul_le_afbcBody :
    sbNum f t usage w h i * sbBytes f t i ≤ afbcBody f t usage w h i :=
  le_alignUp_ite _ (afbcBufferAlignment_pos t)

/-- Superblocks fit in the body when the plane has the pixels for them, or else in what the
body is rounded up to. -/
theorem mul_le_afbcBody_iff (hs : 0 < sbBytes f t i) {n : ℕ} :
    n * sbBytes f t i ≤ afbcBody f t usage w h i ↔
      n * 256 ≤ pixels f t usage w h i ∨
        (1 < f.npln ∧ i < 2) ∧ n * sbBytes f t i ≤
          alignUp (sbNum f t usage w h i * sbBytes f t i) (afbcBufferAlignment t) := by
  have hpixels : n * 256 ≤ pixels f t usage w h i ↔
      n * sbBytes f t i ≤ sbNum f t usage w h i * sbBytes f t i := by
    rw [Nat.mul_le_mul_right_iff hs, sbNum, Nat.le_div_iff_mul_le (by decide)]
  rw [hpixels]
  by_cases hn : 1 < f.npln ∧ i < 2
  · rw [afbcBody, if_pos hn]
    constructor
    · exact fun hle => Or.inr ⟨hn, hle⟩
    · rintro (hle | ⟨-, hle⟩)
      · exact hle.trans (le_alignUp (afbcBufferAlignment_pos t))
      · exact hle
  · rw [afbcBody, if_neg hn]
    exact ⟨Or.inl, fun hle => hle.resolve_right fun hr => hn hr.1⟩

/-- A larger plane has no fewer superblocks. -/
theorem superblocks_mono (hf : f.WellFormed) {w' h' : ℕ} (hw : w ≤ w') (hh : h ≤ h')
    (ha : t.isAfbc = true) : superblocks f t w h i ≤ superblocks f t w' h' i := by
  have hsb := sbSize_pos ha f i
  have hbw : baseWidth f w i ≤ baseWidth f w' i :=
    Nat.div_le_div_right (alignUp_mono hf.alignW_pos hw)
  have hbh : baseHeight f h i ≤ baseHeight f h' i :=
    Nat.div_le_div_right (alignUp_mono hf.alignH_pos hh)
  refine Nat.mul_le_mul ?_ ?_
  · rw [ceilDiv_le_iff_le_mul hsb.1]
    exact hbw.trans ((ceilDiv_le_iff_le_mul hsb.1).mp le_rfl)
  · rw [ceilDiv_le_iff_le_mul hsb.2]
    exact hbh.trans ((ceilDiv_le_iff_le_mul hsb.2).mp le_rfl)

end

end Exact

/-! ### Accepted requests -/

/-- The bytes that the code counts for the header of a plane of a finished layout. -/
def headerBytes (t : AllocType) (planeInfo : PlaneLayout) (i : ℕ) : Run ℤ :=
  headerSize wrapping t ((planeInfo.get i).allocWidth * (planeInfo.get i).allocHeight / 256)

section

variable (caps : Capabilities) (node : ℕ → Option DecoderPara) (d : BufferDescriptor)
  (c : Choice d.usage d.height)

/-- **The storage of AFBC planes is sufficient.** Each plane has, within its part of the
layer, an aligned header and an aligned body for all the superblocks of the requested
plane, and a second body behind the first one where there are two. -/
structure AfbcCovered (d' : BufferDescriptor) : Prop where
  covered : ∃ s, c.layer wrapping (prepared caps node d) noLuma = .ok s ∧
    ∀ i < c.info.npln, ∃ header body : ℕ,
      headerBytes c.allocType d'.planeInfo i = .ok header ∧
      bodyBytes c.info c.allocType d'.planeInfo i = .ok body ∧
      (d'.planeInfo.get i).offset + header + body ≤
        (if i + 1 < c.info.npln then (d'.planeInfo.get (i + 1)).offset else s.size) ∧
      afbcBufferAlignment c.allocType ∣ (d'.planeInfo.get i).offset ∧
      afbcBufferAlignment c.allocType ∣ (d'.planeInfo.get i).offset + header ∧
      Exact.superblocks c.info c.allocType d.width.toNat d.height.toNat i * 16 ≤ header ∧
      (let bodies :=
        Exact.superblocks c.info c.allocType d.width.toNat d.height.toNat i *
          sbBytes c.info c.allocType i
      if c.allocType.isFrontbufferSafe
        then alignUp bodies (afbcBufferAlignment c.allocType) + bodies else bodies) ≤ body

/-- **When there is room for the superblocks**: without CPU access always; with it, when
the rounded plane has 256 pixels for each of them, or the rounding of the body, in the first
of several planes, makes up for the pixels that it lacks. -/
def AfbcRoom : Prop :=
  d.usage.hasCpu = true → ∀ i < c.info.npln,
    let n := Exact.superblocks c.info c.allocType d.width.toNat d.height.toNat i
    let pixels :=
      Exact.planeWidth c (prepared caps node d) i * Exact.planeHeight c (prepared caps node d) i
    n * 256 ≤ pixels ∨
      (1 < c.info.npln ∧ i < 2) ∧ n * sbBytes c.info c.allocType i ≤
        alignUp (pixels / 256 * sbBytes c.info c.allocType i) (afbcBufferAlignment c.allocType)

end

section

variable {caps : Capabilities} {node : ℕ → Option DecoderPara} {d d' : BufferDescriptor}
  {c : Choice d.usage d.height}

/-- The header of a plane of the exact layer is computed as its closed form. -/
theorem headerBytes_layer (hB : Exact.Bounds c (prepared caps node d)) {i : ℕ}
    (hi : i < c.info.npln) :
    headerBytes c.allocType (Exact.layer c (prepared caps node d) 0).planeInfo i =
      .ok (Exact.header c.info c.allocType d.usage (Exact.dims c.format (prepared caps node d)).1
        (Exact.dims c.format (prepared caps node d)).2 i : ℕ) := by
  have hlt : Exact.header c.info c.allocType d.usage _ _ i < 2 ^ 31 :=
    (Nat.le_add_left _ _).trans_lt (hB.planes i hi).share
  rw [headerBytes, Exact.layer_get c _ 0 hi]
  exact (Approx.headerSize checked_approx_wrapping c.allocType _).eq_ok
    (Exact.exactly_headerSize.ok hlt trivial)

end

/-! ### A pixel that the CPU reads -/

/-- One pixel of AFBC RGBA_8888 that the CPU reads. -/
def pixel : BufferDescriptor := .request 1#32 1#32 0x3#64 0x18001#64 1#32

/-- The descriptor that is derived: the pixel is not rounded up to a superblock. -/
def pixelDerived : BufferDescriptor :=
  { pixel with
    allocFormat := ⟨.unorm, 1#32, 0x10000#32⟩
    pixelStride := 1
    planeInfo := PlaneLayout.zero.set 0 ⟨0, 4, 1, 1⟩ }

/-- The format that is chosen for it. -/
def pixelChoice : Choice pixel.usage pixel.height := (choose .gpuOnly pixel).get (by decide)

theorem choose_pixel : choose .gpuOnly pixel = some pixelChoice := (Option.some_get _).symm

end Gralloc
