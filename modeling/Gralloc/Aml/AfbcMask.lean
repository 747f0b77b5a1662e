import Gralloc.Aml.AfrcMask
import Gralloc.Format.Compatible

/-!
# The VPU's mask of an AFBC buffer

The composer tells the video processor of an AFBC buffer in five bits
(`Gralloc.Aml.amGrallocGetVpuAfbcMask`): that it is AFBC, whether its headers are tiled, whether
its superblocks are wide, whether they are split and whether the colours are transformed. The
last two are not looked up. The lines that asked for them are switched off in the source, and
every AFBC buffer is said to have both; and there is no bit for extra-wide superblocks.

A DRM driver is told of the same options by a modifier, which has them as they are. The mask
describes a buffer as the modifier and the layout do exactly if the format has both options and no
extra-wide superblocks (`Gralloc.Aml.maskDescribes_iff_of_choice`). What the selection gives a
request that is not private comes down to this: the pixels are RGB of 24 bits or more, the GPU
renders them for the display, and both of them know split blocks
(`Gralloc.Aml.maskSuits_getAfbcFormat_iff`). Of what only the GPU reads, and of all YUV that is
compressed, the VPU is told wrongly; of a private request it is told rightly if that spells the
two options out (`Gralloc.Aml.maskDescribes_iff`).
-/

namespace Gralloc

namespace Aml

open CInt

/-! ### The mask -/

namespace VpuAfbc

def en : BitVec 32 := 1#32 <<< 31
def tiledHeaderEn : BitVec 32 := 1#32 <<< 18
def superBlockAspect : BitVec 32 := 1#32 <<< 16
def blockSplit : BitVec 32 := 1#32 <<< 9
def yuvTransform : BitVec 32 := 1#32 <<< 8

/-- A mask has a bit. -/
def has (mask flag : BitVec 32) : Bool := mask &&& flag != 0#32

/-- The superblock that a mask names, for all planes. -/
def superblock (mask : BitVec 32) : Rect := if has mask superBlockAspect then ⟨32, 8⟩ else ⟨16, 16⟩

end VpuAfbc

/-- **The mask of a handle.** -/
def amGrallocGetVpuAfbcMask (hnd : Option DmaBufHandle) : BitVec 32 :=
  match hnd with
  | none => 0#32
  | some buffer =>
    let internalFormat := buffer.allocFormat
    if internalFormat.isAfbc then
      -- the questions for the last two are switched off
      let afbcFormat := VpuAfbc.en ||| VpuAfbc.yuvTransform ||| VpuAfbc.blockSplit
      let afbcFormat := if internalFormat.getAfbc32x8 then afbcFormat ||| VpuAfbc.superBlockAspect
        else afbcFormat
      if internalFormat.getAfbcTiledHeaders then afbcFormat ||| VpuAfbc.tiledHeaderEn
      else afbcFormat
    else 0#32

/-! ### What is told -/

section

variable {hnd : DmaBufHandle}

/-- The bits of the mask of an AFBC buffer. -/
theorem has_amGrallocGetVpuAfbcMask (ha : hnd.allocFormat.isAfbc = true) :
    VpuAfbc.has (amGrallocGetVpuAfbcMask (some hnd)) VpuAfbc.en = true ∧
      VpuAfbc.has (amGrallocGetVpuAfbcMask (some hnd)) VpuAfbc.tiledHeaderEn =
        hnd.allocFormat.getAfbcTiledHeaders ∧
      VpuAfbc.has (amGrallocGetVpuAfbcMask (some hnd)) VpuAfbc.blockSplit = true ∧
      VpuAfbc.has (amGrallocGetVpuAfbcMask (some hnd)) VpuAfbc.yuvTransform = true := by
  rw [amGrallocGetVpuAfbcMask]
  simp only [ha, if_true]
  cases hnd.allocFormat.getAfbc32x8 <;> cases hnd.allocFormat.getAfbcTiledHeaders <;> decide

theorem superblock_amGrallocGetVpuAfbcMask (ha : hnd.allocFormat.isAfbc = true) :
    VpuAfbc.superblock (amGrallocGetVpuAfbcMask (some hnd)) =
      if hnd.allocFormat.getAfbc32x8 then ⟨32, 8⟩ else ⟨16, 16⟩ := by
  rw [amGrallocGetVpuAfbcMask]
  simp only [ha, if_true]
  cases hnd.allocFormat.getAfbc32x8 <;> cases hnd.allocFormat.getAfbcTiledHeaders <;> rfl

end

/-! ### The description -/

/-- **The mask describes the buffer**: it names the superblocks and the headers that the planes
were sized with, and the options that a DRM driver is told of. -/
structure MaskDescribes (usage : Usage) (hnd : DmaBufHandle) : Prop where
  layout : ∃ f t, hnd.allocFormat.getBaseInfo = some f ∧
    getAllocType hnd.allocFormat usage = some t ∧
    VpuAfbc.has (amGrallocGetVpuAfbcMask (some hnd)) VpuAfbc.en = t.isAfbc ∧
    (t.isAfbc = true →
      VpuAfbc.has (amGrallocGetVpuAfbcMask (some hnd)) VpuAfbc.tiledHeaderEn = t.isTiled ∧
      ∀ i < f.npln,
        VpuAfbc.superblock (amGrallocGetVpuAfbcMask (some hnd)) = getAfbcSbSize t f i)
  options : hnd.allocFormat.isAfbc = true →
    VpuAfbc.has (amGrallocGetVpuAfbcMask (some hnd)) VpuAfbc.blockSplit =
      (drmModifierFromHandle hnd.toPrivateHandle).has DrmModifier.split ∧
    VpuAfbc.has (amGrallocGetVpuAfbcMask (some hnd)) VpuAfbc.yuvTransform =
      (drmModifierFromHandle hnd.toPrivateHandle).has DrmModifier.ytr

/-- **What the mask takes for granted** of a format in AFBC. -/
structure MaskSuits (f : FormatInfo) (a : InternalFormat) : Prop where
  yuvTransform : a.getAfbcYuvTransform = true
  split : a.getAfbcBlockSplit = true
  superblock : a.getAfbc64x4 = true → a.getAfbc32x8 = true ∧ f.npln = 1

section

variable {usage : Usage} {height : BitVec 32} (c : Choice usage height)

/-- Superblocks that are wide, or not, in every plane. -/
theorem superblock_eq_iff (ha : c.allocType.isAfbc = true)
    (hy : 1 < c.info.npln → c.info.isYuv = true) :
    (∀ i < c.info.npln, (if c.format.getAfbc32x8 then (⟨32, 8⟩ : Rect) else ⟨16, 16⟩) =
        getAfbcSbSize c.allocType c.info i) ↔
      (c.format.getAfbc64x4 = true → c.format.getAfbc32x8 = true ∧ c.info.npln = 1) := by
  have hpos := c.info_wellFormed.npln_pos
  have hp : c.allocType.primaryType = afbcPrimaryType c.format :=
    congrArg AllocType.primaryType (c.allocType_of_isAfbc ha).1
  by_cases hn : 1 < c.info.npln
  · -- the second plane has extra-wide ones
    have h64 := c.getAfbc64x4_of_isYuv ha hn (hy hn)
    have hsecond : getAfbcSbSize c.allocType c.info 1 = ⟨64, 4⟩ := by
      rw [getAfbcSbSize, if_pos]
      · rfl
      · exact ⟨Nat.one_pos, ha, (c.isMultiPlane_of_isAfbc ha).trans (decide_eq_true hn), hy hn⟩
    refine iff_of_false (fun h => ?_) fun h => absurd (h h64).2 (by omega)
    have hone := (h 1 hn).trans hsecond
    split_ifs at hone
    · exact absurd hone (by decide)
    · exact absurd hone (by decide)
  · have hone : c.info.npln = 1 := by omega
    have hfirst : getAfbcSbSize c.allocType c.info 0 =
        getAfbcSbSizeOfBase (afbcPrimaryType c.format) := by
      rw [getAfbcSbSize, if_neg fun h => Nat.lt_irrefl 0 h.1, hp]
    have hall : (∀ i < c.info.npln, (if c.format.getAfbc32x8 then (⟨32, 8⟩ : Rect)
        else ⟨16, 16⟩) = getAfbcSbSize c.allocType c.info i) ↔
        (if c.format.getAfbc32x8 then (⟨32, 8⟩ : Rect) else ⟨16, 16⟩) =
          getAfbcSbSizeOfBase (afbcPrimaryType c.format) := by
      rw [hone, ← hfirst]
      refine ⟨fun h => h 0 Nat.one_pos, fun h i hi => ?_⟩
      rw [Nat.lt_one_iff.mp hi]
      exact h
    rw [hall, hone, afbcPrimaryType]
    cases c.format.getAfbc32x8 <;> cases c.format.getAfbc64x4 <;> decide

/-- **The mask of a chosen format describes it** exactly if it takes nothing for granted that is
not so. -/
theorem maskDescribes_iff_of_choice (hy : c.allocType.isAfbc = true → 1 < c.info.npln →
    c.info.isYuv = true) {hnd : DmaBufHandle} (hformat : hnd.allocFormat = c.format) :
    MaskDescribes usage hnd ↔ (c.format.isAfbc = true → MaskSuits c.info c.format) := by
  have hinfo : hnd.allocFormat.getBaseInfo = some c.info := hformat ▸ c.info_eq
  have htype : getAllocType hnd.allocFormat usage = some c.allocType := hformat ▸ c.allocType_eq
  by_cases hafbc : c.format.isAfbc = true
  · have ha : hnd.allocFormat.isAfbc = true := hformat ▸ hafbc
    have hca : c.allocType.isAfbc = true := c.isAfbc_eq.trans hafbc
    have htiled : c.allocType.isTiled = c.format.getAfbcTiledHeaders :=
      congrArg AllocType.isTiled (c.allocType_of_isAfbc hca).1
    obtain ⟨hen, htl, hsplit, hytr⟩ := has_amGrallocGetVpuAfbcMask ha
    have hblocks := superblock_eq_iff c hca (hy hca)
    rw [imp_iff_right hafbc]
    constructor
    · rintro ⟨⟨f, t, hf, ht, -, hlayout⟩, hoptions⟩
      cases hf.symm.trans hinfo
      cases ht.symm.trans htype
      have hsuper := (hlayout hca).2
      rw [superblock_amGrallocGetVpuAfbcMask ha, hformat] at hsuper
      have hopt := hoptions ha
      rw [has_split ha, has_ytr ha, hsplit, hytr, hformat] at hopt
      exact ⟨hopt.2.symm, hopt.1.symm, hblocks.mp hsuper⟩
    · rintro ⟨htransform, hsplits, hsuper⟩
      refine ⟨⟨c.info, c.allocType, hinfo, htype, hen.trans hca.symm, fun _ => ⟨?_, ?_⟩⟩,
        fun _ => ⟨?_, ?_⟩⟩
      · rw [htl, hformat, htiled]
      · rw [superblock_amGrallocGetVpuAfbcMask ha, hformat]
        exact hblocks.mpr hsuper
      · rw [has_split ha, hsplit, hformat, hsplits]
      · rw [has_ytr ha, hytr, hformat, htransform]
  · have hno : ¬hnd.allocFormat.isAfbc = true := hformat ▸ hafbc
    have hca : c.allocType.isAfbc = false := by
      rw [c.isAfbc_eq]
      exact Bool.eq_false_of_not_eq_true hafbc
    have hmask : amGrallocGetVpuAfbcMask (some hnd) = 0#32 := if_neg hno
    refine iff_of_true ⟨⟨c.info, c.allocType, hinfo, htype, ?_, fun h => ?_⟩, fun h => ?_⟩
      fun h => absurd h hafbc
    · rw [hmask, hca]
      rfl
    · exact absurd (hca.symm.trans h) Bool.false_ne_true
    · exact absurd h hno

end

/-! ### Candidates -/

section

variable {caps : Capabilities} {f : FormatInfo} {usage : Usage} {producers consumers : Ip}

/-- **The options hold** that the VPU is told of: the pixels are RGB with the transform, but not
`RGB_565`, the GPU renders them for the display, and both know split blocks. -/
structure RenderedSplit (caps : Capabilities) (f : FormatInfo) (producers consumers : Ip) :
    Prop where
  rgb : f.yuvTransform = true
  not_565 : f.id ≠ .rgb565
  toDisplay : AfbcFeatures.gpuToDisplay caps producers consumers = true
  split : ipSupportFeature caps producers consumers .afbcBlockSplit = true

/-- Formats with the transform are those that the display reads in split blocks, and `RGB_565`. -/
theorem of_yuvTransform : ∀ f ∈ formats, f.yuvTransform = true →
    f.isYuv = false ∧ (f.id ≠ .rgb565 → f.DisplaySplit) := by
  decide

/-- The repair leaves the transform alone. -/
theorem getAfbcYuvTransform_getAfbcFormat (hf : f ∈ formats)
    (h : avoidsAfbc caps f producers consumers = false) :
    (getAfbcFormat caps f usage producers consumers).getAfbcYuvTransform = f.yuvTransform := by
  have hkeep : ~~~Modifiers.afbcFeatures &&& Modifiers.afbcYuvTransform =
      Modifiers.afbcYuvTransform := by decide
  have hbase : (afbcBase f).getAfbcYuvTransform = f.yuvTransform :=
    getModifier_setModifier _ _ (by decide)
  rw [← hbase, InternalFormat.getAfbcYuvTransform, InternalFormat.getAfbcYuvTransform,
    InternalFormat.getModifier, InternalFormat.getModifier, ← hkeep, ← BitVec.and_assoc,
    (afbcFeatures_getAfbcFormat hf h).1.2.2, BitVec.and_assoc]

/-- Blocks are split only of what the GPU writes for the display. -/
theorem gpuToDisplay_of_split (hf : f ∈ formats)
    (h : avoidsAfbc caps f producers consumers = false)
    (hsplit : (getAfbcFormat caps f usage producers consumers).getAfbcBlockSplit = true) :
    AfbcFeatures.gpuToDisplay caps producers consumers = true := by
  rw [getAfbcBlockSplit_eq, (afbcFeatures_getAfbcFormat hf h).2, repair_split, Bool.and_eq_true,
    Bool.and_eq_true] at hsplit
  obtain ⟨⟨-, hasked⟩, -⟩ := hsplit
  split_ifs at hasked with hwide
  · simp only [AfbcFeatures.asked, Bool.and_eq_true] at hwide
    exact hwide.1.1.1
  · simp only [AfbcFeatures.asked, Bool.and_eq_true] at hasked
    exact hasked.1

theorem getAfbcBlockSplit_of_renderedSplit (hf : f ∈ formats)
    (h : avoidsAfbc caps f producers consumers = false)
    (hr : RenderedSplit caps f producers consumers) :
    (getAfbcFormat caps f usage producers consumers).getAfbcBlockSplit = true := by
  obtain ⟨hyuv, hdisplay⟩ := of_yuvTransform f hf hr.rgb
  obtain ⟨hrgb, hbpp⟩ := hdisplay hr.not_565
  have henable : enableSplitBlock f producers consumers = true := by
    rw [enableSplitBlock, hyuv, hrgb, decide_eq_false (Nat.not_lt.mpr hbpp)]
    rfl
  have hasked : (AfbcFeatures.asked caps producers consumers f usage).split = true := by
    simp only [AfbcFeatures.asked, hr.toDisplay, hr.split, henable, Bool.and_self]
  have hsub : f.isSubsampled = false := by rw [FormatInfo.isSubsampled, hyuv, Bool.false_and]
  have h565 : (f.id == .rgb565) = false := beq_eq_false_iff_ne.mpr hr.not_565
  rw [getAfbcBlockSplit_eq, (afbcFeatures_getAfbcFormat hf h).2, repair_split, hasked, hsub, h565,
    hr.split, Bool.not_false, ite_self]
  rfl

/-- **A candidate suits the mask** if it is rendered for the display in split blocks. -/
theorem maskSuits_getAfbcFormat_iff (hf : f ∈ formats)
    (h : avoidsAfbc caps f producers consumers = false) :
    MaskSuits f (getAfbcFormat caps f usage producers consumers) ↔
      RenderedSplit caps f producers consumers := by
  constructor
  · rintro ⟨hytr, hsplit, -⟩
    obtain ⟨hsupport, hid⟩ := of_split_getAfbcFormat hf h hsplit
    exact ⟨(getAfbcYuvTransform_getAfbcFormat hf h).symm.trans hytr, hid,
      gpuToDisplay_of_split hf h hsplit, hsupport⟩
  · intro hr
    refine ⟨(getAfbcYuvTransform_getAfbcFormat hf h).trans hr.rgb,
      getAfbcBlockSplit_of_renderedSplit hf h hr, fun h64x4 => ?_⟩
    -- planes of their own are YUV
    rw [getAfbc64x4_eq, extraWide_getAfbcFormat hf h, separatesPlanes,
      (of_yuvTransform f hf hr.rgb).1, Bool.and_false, Bool.and_false, Bool.false_and] at h64x4
    exact absurd h64x4 Bool.false_ne_true

/-- An AFBC format among the candidates is the AFBC candidate. -/
theorem eq_getAfbcFormat_of_getSupportedFormat (hf : f ∈ formats)
    {descriptorFlags : DescriptorFlags} {a : InternalFormat}
    (h : getSupportedFormat caps f usage producers consumers descriptorFlags = some a) :
    a.isAfbc = true → a = getAfbcFormat caps f usage producers consumers := by
  have hbase : (InternalFormat.fromAndroid f.id (calcFormatDataType f)).isAfbc = false :=
    getModifier_of_mem_formats hf _ _
  refine getSupportedFormat_ind
    (P := fun a => a.isAfbc = true → a = getAfbcFormat caps f usage producers consumers) h
    (fun _ ha => ?_) (fun _ _ => rfl) (fun ha => ?_) fun ha => ?_
  · exact absurd ((isAfbc_getAfrcFormat hf usage producers consumers).symm.trans ha)
      Bool.false_ne_true
  · rw [getBlFormat] at ha
    split at ha
    · have hbl : ((InternalFormat.fromAndroid f.id (calcFormatDataType f)).setModifier
          .blockLinearBasic true).isAfbc = false :=
        (getModifier_setModifier_of_disjoint (by decide) _ true).trans hbase
      exact absurd (hbl.symm.trans ha) Bool.false_ne_true
    · exact absurd (hbase.symm.trans ha) Bool.false_ne_true
  · exact absurd (hbase.symm.trans ha) Bool.false_ne_true

/-- **What an ordinary request is given in AFBC** is the AFBC candidate of an entry. -/
theorem exists_getAfbcFormat_of_selectBestFormat {reqFormat : BitVec 32}
    {descriptorFlags : DescriptorFlags}
    (hu : (selectBestFormat caps reqFormat descriptorFlags usage).isUndefined = false)
    (ha : (selectBestFormat caps reqFormat descriptorFlags usage).isAfbc = true) :
    ∃ g ∈ formats, selectBestFormat caps reqFormat descriptorFlags usage =
      getAfbcFormat caps g usage (getProducersOrCpu usage) (getConsumers usage) := by
  obtain ⟨req, s, hreq, rfl, ⟨-, heq⟩ | ⟨-, heq, -⟩⟩ := selectBestFormat_of_isUndefined hu
  · rw [heq] at hu ha ⊢
    obtain ⟨g, hg, hc⟩ :=
      FormatSearch.exists_candidate_found (mem_formats_of_getFormatInfo hreq) hu
    have hsupported := (FormatSearch.candidate_eq_some_iff.mp hc).2.1
    exact ⟨g, hg, eq_getAfbcFormat_of_getSupportedFormat hg hsupported ha⟩
  · rw [heq] at ha
    exact absurd ha (by decide)

end

/-! ### Requests -/

/-- **A private request spells the options out.** -/
structure ForcesOptions (f : FormatInfo) (reqFormat : BitVec 32) : Prop where
  yuvTransform : reqFormat &&& Modifiers.afbcYuvTransform ≠ 0#32
  split : reqFormat &&& Modifiers.afbcSplitblk ≠ 0#32
  superblock : reqFormat &&& Modifiers.afbcExtrawideblk ≠ 0#32 →
    reqFormat &&& Modifiers.afbcWideblk ≠ 0#32 ∧ f.npln = 1

/-- **What is asked of a request** that is given a buffer in AFBC. -/
def SuitsVpu (caps : Capabilities) (d : BufferDescriptor) (f : FormatInfo) : Prop :=
  if formatIsPrivate (d.halFormat.truncate 32) = true then
    ForcesOptions f (d.halFormat.truncate 32)
  else RenderedSplit caps f (getProducersOrCpu d.usage) (getConsumers d.usage)

section

variable {caps : Capabilities} {f : FormatInfo}

/-- A forced format has the options of its request. -/
theorem maskSuits_selectForcedFormat_iff {reqFormat : BitVec 32}
    (h : selectForcedFormat reqFormat ≠ .invalid) :
    MaskSuits f (selectForcedFormat reqFormat) ↔ ForcesOptions f reqFormat := by
  have hbit {flag : Modifiers} (hflag : Modifiers.extMask &&& flag = flag) :
      (selectForcedFormat reqFormat).getModifier flag = true ↔ reqFormat &&& flag ≠ 0#32 := by
    rw [getModifier_selectForcedFormat h hflag, bne_iff_ne]
  have hytr : _ ↔ reqFormat &&& Modifiers.afbcYuvTransform ≠ 0#32 := hbit (by decide)
  have hsplit : _ ↔ reqFormat &&& Modifiers.afbcSplitblk ≠ 0#32 := hbit (by decide)
  have h32x8 : _ ↔ reqFormat &&& Modifiers.afbcWideblk ≠ 0#32 := hbit (by decide)
  have h64x4 : _ ↔ reqFormat &&& Modifiers.afbcExtrawideblk ≠ 0#32 := hbit (by decide)
  constructor
  · rintro ⟨htransform, hsplits, hsuper⟩
    refine ⟨hytr.mp htransform, hsplit.mp hsplits, fun hextra => ?_⟩
    obtain ⟨hwide, hone⟩ := hsuper (h64x4.mpr hextra)
    exact ⟨h32x8.mp hwide, hone⟩
  · rintro ⟨htransform, hsplits, hsuper⟩
    refine ⟨hytr.mpr htransform, hsplit.mpr hsplits, fun hextra => ?_⟩
    obtain ⟨hwide, hone⟩ := hsuper (h64x4.mp hextra)
    exact ⟨h32x8.mpr hwide, hone⟩

/-- **A selected format suits the mask** if its request does. -/
theorem maskSuits_selectFormat_iff {d : BufferDescriptor}
    (hu : (selectFormat caps d.halFormat d.flags d.usage).isUndefined = false)
    (ha : (selectFormat caps d.halFormat d.flags d.usage).isAfbc = true)
    (hf : (selectFormat caps d.halFormat d.flags d.usage).getBaseInfo = some f) :
    MaskSuits f (selectFormat caps d.halFormat d.flags d.usage) ↔ SuitsVpu caps d f := by
  rw [selectFormat] at hu ha hf ⊢
  obtain ⟨hsel, hu⟩ := of_ite_invalid hu
  rw [hsel] at ha hf ⊢
  rw [SuitsVpu]
  by_cases hpriv : formatIsPrivate (d.halFormat.truncate 32) = true
  · rw [if_pos hpriv] at hu ⊢
    rw [if_pos hpriv]
    refine maskSuits_selectForcedFormat_iff fun he => ?_
    rw [he] at hu
    exact absurd hu (by decide)
  · rw [if_neg hpriv] at hu ha hf ⊢
    rw [if_neg hpriv]
    obtain ⟨g, hg, heq⟩ := exists_getAfbcFormat_of_selectBestFormat hu ha
    rw [heq] at ha hf ⊢
    cases hf.symm.trans (getBaseInfo_of_getBase hg (getBase_getAfbcFormat hg))
    exact maskSuits_getAfbcFormat_iff hg (avoidsAfbc_of_isAfbc hg ha)

/-- **The mask of an allocated buffer describes it** exactly if the buffer is not in AFBC or its
request suits the VPU. -/
theorem maskDescribes_iff {p : Platform} {e : Attempt} {d d' : BufferDescriptor} {b : DmaBuf}
    (h : DmaBuf.bufferAllocate p e d = .ok (d', some b))
    (hf : b.handle.allocFormat.getBaseInfo = some f) :
    MaskDescribes d.usage b.handle ↔
      (b.handle.allocFormat.isAfbc = true → SuitsVpu p.caps d f) := by
  obtain ⟨c, r, hc, hd, hformat, -⟩ := choose_of_bufferAllocate (DmaBuf.bufferAllocate_refines h)
  have hformat' : b.handle.allocFormat = c.format := hformat
  have hyuv (hca : c.allocType.isAfbc = true) (hn : 1 < c.info.npln) : c.info.isYuv = true :=
    isYuv_of_afbc _ c.info_mem ((supported_of_validateFormat c.valid).1 hca) hn
      (bpp_ne_zero_of_success hc hd)
  rw [hformat'] at hf ⊢
  cases hf.symm.trans c.info_eq
  rw [maskDescribes_iff_of_choice c hyuv hformat']
  refine imp_congr_right fun hafbc => ?_
  have hinfo := c.info_eq
  have hundefined := (chooseFormat_eq_some_iff.mp hc).1
  rw [format_of_choose hc] at hafbc hinfo ⊢
  exact maskSuits_selectFormat_iff hundefined hafbc hinfo

end

/-! ### A frame and a texture -/

/-- A product whose GPU and display have wide and split blocks. -/
def splitDisplay : Platform :=
  { Platform.plain with
    caps := { Capabilities.gpuOnly with
      gpu := [(.afbc16x16, .rw), (.afbc32x8, .rw), (.afbcBlockSplit, .rw)]
      dpu := some [(.afbc16x16, .ro), (.afbc32x8, .ro), (.afbcBlockSplit, .ro)] } }

/-- 64 × 64 pixels of RGBA_8888. -/
def rgbaRequest (usage : Usage) : BufferDescriptor := .request 64#32 64#32 usage 1#64 1#32

/-- A frame that the GPU renders for the display. -/
theorem maskDescribes_iff_frame :
    let d := rgbaRequest (Usage.hwRender ||| Usage.hwComposer)
    ∃ d' b, allocated splitDisplay d = .ok (d', some b) ∧
      b.handle.allocFormat.isAfbc = true ∧ MaskDescribes d.usage b.handle := by
  intro d
  have hok : (allocated splitDisplay d).map (fun r => r.2.map fun b => b.handle.allocFormat) =
      .ok (some ⟨.unorm, 1#32, 0x06190000#32⟩) := by
    decide +kernel
  obtain ⟨⟨d', o⟩, hd, ho⟩ := map_eq_ok.mp hok
  obtain ⟨b, rfl, hb⟩ := Option.map_eq_some_iff.mp ho
  obtain ⟨f, hf⟩ : ∃ f, getFormatInfo .rgba8888 = some f := ⟨_, rfl⟩
  have hinfo : b.handle.allocFormat.getBaseInfo = some f := by
    rw [hb]
    exact hf
  have hsuits : RenderedSplit splitDisplay.caps f (getProducersOrCpu d.usage)
      (getConsumers d.usage) := by
    cases hf
    exact ⟨by decide, by decide, by decide, by decide⟩
  refine ⟨d', b, hd, by rw [hb]; decide, (maskDescribes_iff hd hinfo).mpr fun _ => ?_⟩
  rw [SuitsVpu, if_neg (by decide)]
  exact hsuits

/-- **A texture** that the GPU reads again: its blocks are not split, and the VPU is told that
they are. -/
theorem not_maskDescribes_texture :
    let d := rgbaRequest (Usage.hwRender ||| Usage.hwTexture)
    ∃ d' b, allocated splitDisplay d = .ok (d', some b) ∧
      amGrallocGetVpuAfbcMask (some b.handle) = 0x80000300#32 ∧
      drmModifierFromHandle b.handle.toPrivateHandle = 0x0800000000000051#64 ∧
      ¬MaskDescribes d.usage b.handle := by
  intro d
  have hok : (allocated splitDisplay d).map (fun r => r.2.map fun b =>
      (b.handle.allocFormat, amGrallocGetVpuAfbcMask (some b.handle),
        drmModifierFromHandle b.handle.toPrivateHandle)) =
      .ok (some (⟨.unorm, 1#32, 0x06010000#32⟩, 0x80000300#32, 0x0800000000000051#64)) := by
    decide +kernel
  obtain ⟨⟨d', o⟩, hd, ho⟩ := map_eq_ok.mp hok
  obtain ⟨b, rfl, hb⟩ := Option.map_eq_some_iff.mp ho
  obtain ⟨hformat, htold⟩ := Prod.mk.inj hb
  obtain ⟨hmask, hmodifier⟩ := Prod.mk.inj htold
  refine ⟨d', b, hd, hmask, hmodifier, fun hdescribes => ?_⟩
  have hsplit := (hdescribes.options (by rw [hformat]; decide)).1
  rw [hmask, hmodifier] at hsplit
  exact absurd hsplit (by decide)

end Aml

end Gralloc
