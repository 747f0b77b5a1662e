import Gralloc.Mapper.Scheme
import Gralloc.Heap.Batch

/-!
# The VPU's mask of an AFRC buffer

The video processor reads AFRC buffers as well as a DRM driver does, and needs the sizes of the
coding units as much. The vendor's library gives it a mask with two of the DRM modifier's fields:
a nibble for the first plane and one for the others
(`Gralloc.Aml.amGrallocGetVpuAfrcMask`). The mask is made by a copy of the code that makes the
modifier, and copied with another condition. The modifier has a size for the chroma planes if the
allocated format is YUV with several planes. The mask has one if there are several planes and the
*requested* format is among the framework's YUV formats.

That list has no internal codes. A buffer that is requested as NV12 by the code of the allocator
is laid out, and described to DRM drivers, with a size for its chroma, and the VPU is told of none
(`Gralloc.Aml.not_afrcAgrees`). Apart from that the mask is right
(`Gralloc.Aml.afrcAgrees_iff`): formats of several planes that AFRC compresses are YUV, so that
nothing is lost by not asking. The other exception is a private format with the modifiers of both
schemes, which is laid out as AFBC; the mask takes the bits of AFBC's options for sizes.
-/

namespace Gralloc

namespace Aml

open CInt

/-! ### The mask -/

/-- The code of a coding unit size, in a mask. -/
def afrcFormatModCuSize (size : ℕ) : BitVec 32 :=
  match size with
  | 2 => 3#32
  | 1 => 2#32
  | 0 => 1#32
  | _ => 0#32

/-- The handle has a size for its chroma, as the library decides it. -/
def hasChromaSize (buffer : DmaBufHandle) : Bool :=
  isAndroidYuvFormat buffer.format && buffer.isMultiPlane

/-- **The mask of a handle.** -/
def amGrallocGetVpuAfrcMask (hnd : Option DmaBufHandle) : BitVec 32 :=
  match hnd with
  | none => 0#32
  | some buffer =>
    let internalFormat := buffer.allocFormat
    if !internalFormat.isAfrc then 0#32
    -- luma and RGBA sizes are the same bits
    else if hasChromaSize buffer then
      afrcFormatModCuSize internalFormat.getAfrcRgbaCodingSize |||
        afrcFormatModCuSize internalFormat.getAfrcChromaCodingSize <<< 4
    else afrcFormatModCuSize internalFormat.getAfrcRgbaCodingSize

/-! ### Fields -/

/-- The field for a plane, of a mask or of an AFRC modifier: the low nibble for the first plane,
the next one for the others. -/
def cuField {w : ℕ} (m : BitVec w) (plane : ℕ) : ℕ := m.toNat >>> (if plane = 0 then 0 else 4) % 16

/-- The field for a plane of the AFRC modifier that is reported, if one is. -/
def modifierField (m : DrmModifier) (plane : ℕ) : ℕ :=
  if Scheme.ofModifier m = .afrc then cuField m plane else 0

/-- The bytes that a field names. -/
def cuBytes : ℕ → Option ℕ
  | 1 => some 16
  | 2 => some 24
  | 3 => some 32
  | _ => none

/-- The field of a size; the fourth combination of bits has none. -/
def sizeField (size : ℕ) : ℕ := if size < 3 then size + 1 else 0

theorem cuBytes_sizeField {size : ℕ} (h : size < 3) :
    cuBytes (sizeField size) = some (InternalFormat.toBytes size) := by
  interval_cases size <;> rfl

theorem sizeField_eq_zero_iff {size : ℕ} : sizeField size = 0 ↔ 3 ≤ size := by
  by_cases h : size < 3
  · rw [sizeField, if_pos h]
    exact iff_of_false (Nat.succ_ne_zero size) h.not_ge
  · rw [sizeField, if_neg h]
    exact iff_of_true rfl (not_lt.mp h)

/-- A size has two bits. -/
theorem getAfrcCodingSize_lt (shift : ℕ) (f : InternalFormat) : f.getAfrcCodingSize shift < 4 := by
  have hle : (f.modifiers >>> shift &&& Modifiers.afrcCodingMask).toNat ≤
      Modifiers.afrcCodingMask.toNat := by
    rw [BitVec.toNat_and]
    exact Nat.and_le_right
  exact Nat.lt_succ_of_le hle

/-- The fields of a mask. -/
theorem cuField_mask (plane : ℕ) : ∀ luma < 4, ∀ chroma < 4, ∀ two : Bool,
    cuField (if two then afrcFormatModCuSize luma ||| afrcFormatModCuSize chroma <<< 4
      else afrcFormatModCuSize luma) plane =
      if plane = 0 then sizeField luma else if two then sizeField chroma else 0 := by
  unfold cuField
  split_ifs
  · decide
  · decide

/-- The fields of a modifier. -/
theorem cuField_armAfrc (plane : ℕ) : ∀ luma < 4, ∀ chroma < 4, ∀ scan two : Bool,
    cuField (DrmModifier.armAfrc (DrmModifier.orIf (DrmModifier.orIf 0#64 scan
      DrmModifier.layoutScan ||| DrmModifier.cuSizeP0 (afrcCuSize luma)) two
        (DrmModifier.cuSizeP12 (afrcCuSize chroma)))) plane =
      if plane = 0 then sizeField luma else if two then sizeField chroma else 0 := by
  unfold cuField
  split_ifs
  · decide
  · decide

/-! ### Agreement -/

/-- **The mask agrees with the modifier**, and both with the layout: their fields are alike, and
name the coding units of the planes, or none if there are no coding units. -/
structure AfrcAgrees (usage : Usage) (hnd : DmaBufHandle) : Prop where
  fields : ∀ plane, cuField (amGrallocGetVpuAfrcMask (some hnd)) plane =
    modifierField (drmModifierFromHandle hnd.toPrivateHandle) plane
  layout : ∃ f t, hnd.allocFormat.getBaseInfo = some f ∧
    getAllocType hnd.allocFormat usage = some t ∧
    ∀ i < f.npln, cuBytes (cuField (amGrallocGetVpuAfrcMask (some hnd)) i) =
      if t.isAfrc then some (t.codingUnitBytes i) else none

/-- **What the mask takes for granted** of a handle with the AFRC modifier: that its planes are
separate for the formats of the list only, and where AFBC comes first, that its options are not
sizes. -/
def MaskFits (hnd : DmaBufHandle) : Prop :=
  hnd.allocFormat.isAfrc = true →
    if hnd.allocFormat.isAfbc = true then
      hnd.allocFormat.getAfrcRgbaCodingSize = 3 ∧
        (hasChromaSize hnd = true → hnd.allocFormat.getAfrcChromaCodingSize = 3)
    else hnd.isMultiPlane = true → isAndroidYuvFormat hnd.format = true

section

variable {hnd : DmaBufHandle}

/-- The fields of the mask, by the sizes of the format. -/
theorem cuField_amGrallocGetVpuAfrcMask (h : hnd.allocFormat.isAfrc = true) (plane : ℕ) :
    cuField (amGrallocGetVpuAfrcMask (some hnd)) plane =
      if plane = 0 then sizeField hnd.allocFormat.getAfrcRgbaCodingSize
      else if hasChromaSize hnd then sizeField hnd.allocFormat.getAfrcChromaCodingSize else 0 := by
  refine Eq.trans ?_ (cuField_mask plane _ (getAfrcCodingSize_lt _ _) _
    (getAfrcCodingSize_lt _ _) (hasChromaSize hnd))
  rw [amGrallocGetVpuAfrcMask]
  simp only [h, Bool.not_true, Bool.false_eq_true, if_false]
  rfl

/-- The fields of the modifier. -/
theorem cuField_getAfrcModifierTags (h : hnd.allocFormat.isAfrc = true) {f : FormatInfo}
    (hf : hnd.allocFormat.getBaseInfo = some f) (plane : ℕ) :
    cuField (getAfrcModifierTags hnd.toPrivateHandle) plane =
      if plane = 0 then sizeField hnd.allocFormat.getAfrcRgbaCodingSize
      else if f.isYuv && hnd.isMultiPlane then sizeField hnd.allocFormat.getAfrcChromaCodingSize
      else 0 := by
  refine Eq.trans ?_ (cuField_armAfrc plane _ (getAfrcCodingSize_lt _ _) _
    (getAfrcCodingSize_lt _ _) (!hnd.allocFormat.getAfrcRotLayout) _)
  rw [getAfrcModifierTags]
  simp only [h, hf, Bool.not_true, Bool.false_eq_true, if_false]
  rfl

/-- A mask without fields. -/
theorem cuField_eq_zero_iff (hafbc : hnd.allocFormat.isAfrc = true →
    hnd.allocFormat.isAfbc = true) :
    (∀ plane, cuField (amGrallocGetVpuAfrcMask (some hnd)) plane = 0) ↔ MaskFits hnd := by
  by_cases h : hnd.allocFormat.isAfrc = true
  · have hluma : hnd.allocFormat.getAfrcRgbaCodingSize < 4 := getAfrcCodingSize_lt _ _
    have hchroma : hnd.allocFormat.getAfrcChromaCodingSize < 4 := getAfrcCodingSize_lt _ _
    simp only [cuField_amGrallocGetVpuAfrcMask h]
    rw [MaskFits, if_pos (hafbc h)]
    constructor
    · intro hzero _
      refine ⟨?_, fun htwo => ?_⟩
      · have hfirst := hzero 0
        rw [if_pos rfl, sizeField_eq_zero_iff] at hfirst
        omega
      · have hsecond := hzero 1
        rw [if_neg Nat.one_ne_zero, if_pos htwo, sizeField_eq_zero_iff] at hsecond
        omega
    · intro hfits plane
      obtain ⟨hfirst, hsecond⟩ := hfits h
      split_ifs with hplane htwo
      · exact sizeField_eq_zero_iff.mpr hfirst.ge
      · exact sizeField_eq_zero_iff.mpr (hsecond htwo).ge
      · rfl
  · refine iff_of_true (fun plane => ?_) fun hafrc => absurd hafrc h
    rw [Bool.not_eq_true] at h
    rw [amGrallocGetVpuAfrcMask]
    simp only [h, Bool.not_false, if_true, cuField, BitVec.toNat_ofNat, Nat.zero_mod,
      Nat.zero_shiftRight]

end

/-! ### The allocation type -/

/-- A size that aligns its plane is one of three. -/
theorem lt_three_of_alignment {size : ℕ} (hlt : size < 4)
    (h : afrcPlaneAlignmentRequirement (InternalFormat.toBytes size) ≠ 0) : size < 3 := by
  by_contra hge
  obtain rfl : size = 3 := by omega
  exact h rfl

/-- The coding units of a layout have the sizes of the format. -/
theorem codingUnitBytes_of_getAfrcAllocType {f : FormatInfo} {a : InternalFormat} {t : AllocType}
    (h : getAfrcAllocType f a = some t) :
    a.getAfrcRgbaCodingSize < 3 ∧ a.getAfrcChromaCodingSize < 3 ∧ t.isAfrc = true ∧
      ∀ i, t.codingUnitBytes i = InternalFormat.toBytes
        (if i = 0 then a.getAfrcRgbaCodingSize else a.getAfrcChromaCodingSize) := by
  unfold getAfrcAllocType at h
  dsimp only at h
  split_ifs at h with hluma hchroma
  obtain ⟨cs, -, rfl⟩ := Option.map_eq_some_iff.mp h
  refine ⟨lt_three_of_alignment (getAfrcCodingSize_lt _ _) hluma,
    lt_three_of_alignment (getAfrcCodingSize_lt _ _) hchroma, rfl, fun i => ?_⟩
  rw [AllocType.codingUnitBytes, apply_ite InternalFormat.toBytes]

/-- AFRC formats of several planes are YUV. -/
theorem isYuv_of_afrc : ∀ f ∈ formats, f.afrc = true → 1 < f.npln → f.isYuv = true := by
  decide

/-- An AFRC layout is the one scheme that has coding units. -/
theorem isAfrc_iff_ofAllocType (t : AllocType) :
    t.isAfrc = true ↔ Scheme.ofAllocType t = .afrc := by
  unfold Scheme.ofAllocType AllocType.isBlockLinear AllocType.isAfrc AllocType.isAfbc
  rcases t.primaryType <;> decide

theorem schemeOf_eq_afrc_iff (a : InternalFormat) :
    Mapper.schemeOf a = .afrc ↔ a.isAfrc = true ∧ ¬a.isAfbc = true := by
  unfold Mapper.schemeOf
  split_ifs with h₁ h₂ h₃
  · exact iff_of_false (by decide) fun h => h.2 h₁
  · exact iff_of_true rfl ⟨h₂, h₁⟩
  · exact iff_of_false (by decide) fun h => h₂ h.1
  · exact iff_of_false (by decide) fun h => h₂ h.1

/-! ### Allocated handles -/

section

variable {usage : Usage} {height : BitVec 32} (c : Choice usage height) {hnd : DmaBufHandle}
  (hformat : hnd.allocFormat = c.format)
include hformat

/-- A buffer that has no coding units. -/
theorem afrcAgrees_iff_of_ne (hs : Mapper.schemeOf c.format ≠ .afrc) :
    AfrcAgrees usage hnd ↔ MaskFits hnd := by
  have hmodifier : Scheme.ofModifier (drmModifierFromHandle hnd.toPrivateHandle) =
      Mapper.schemeOf c.format := (Mapper.classified_of_choice c hformat).modifier
  have hfield (plane : ℕ) : modifierField (drmModifierFromHandle hnd.toPrivateHandle) plane = 0 :=
    if_neg (hmodifier ▸ hs)
  have htype : ¬c.allocType.isAfrc = true := by
    rw [isAfrc_iff_ofAllocType, Mapper.ofAllocType_of_getAllocType c.allocType_eq]
    exact hs
  rw [← cuField_eq_zero_iff fun h => not_not.mp fun hafbc =>
    hs ((schemeOf_eq_afrc_iff _).mpr ⟨hformat ▸ h, hformat ▸ hafbc⟩)]
  constructor
  · intro h plane
    rw [h.fields, hfield]
  · intro h
    refine ⟨fun plane => (h plane).trans (hfield plane).symm,
      c.info, c.allocType, hformat ▸ c.info_eq, hformat ▸ c.allocType_eq, fun i _ => ?_⟩
    rw [h i, if_neg htype]
    rfl

/-- A buffer that has coding units. -/
theorem afrcAgrees_iff_of_eq (hmulti : hnd.isMultiPlane = decide (1 < c.info.npln))
    (hs : Mapper.schemeOf c.format = .afrc) : AfrcAgrees usage hnd ↔ MaskFits hnd := by
  obtain ⟨hafrc, hafbc⟩ := (schemeOf_eq_afrc_iff _).mp hs
  have hinfo : hnd.allocFormat.getBaseInfo = some c.info := hformat ▸ c.info_eq
  have htype : getAfrcAllocType c.info c.format = some c.allocType := by
    have ht := c.allocType_eq
    rwa [getAllocType, c.info_eq, Option.bind_some, if_neg hafbc, if_pos hafrc] at ht
  obtain ⟨hluma, hchroma, hisAfrc, hunits⟩ := codingUnitBytes_of_getAfrcAllocType htype
  rw [← hformat] at hafrc hafbc hluma hchroma hunits
  have hmodifier : Scheme.ofModifier (drmModifierFromHandle hnd.toPrivateHandle) =
      Mapper.schemeOf c.format := (Mapper.classified_of_choice c hformat).modifier
  have htags : drmModifierFromHandle hnd.toPrivateHandle =
      getAfrcModifierTags hnd.toPrivateHandle := by
    rw [drmModifierFromHandle, if_neg hafbc, if_pos hafrc]
  -- the condition of the modifier is the number of planes
  have hyuv : (c.info.isYuv && hnd.isMultiPlane) = hnd.isMultiPlane := by
    rw [Bool.and_eq_right_iff_imp, hmulti, decide_eq_true_eq]
    exact isYuv_of_afrc _ c.info_mem ((supported_of_validateFormat c.valid).2.1 hisAfrc)
  have hfield (plane : ℕ) : modifierField (drmModifierFromHandle hnd.toPrivateHandle) plane =
      if plane = 0 then sizeField hnd.allocFormat.getAfrcRgbaCodingSize
      else if hnd.isMultiPlane then sizeField hnd.allocFormat.getAfrcChromaCodingSize else 0 := by
    rw [modifierField, if_pos (hmodifier.trans hs), htags,
      cuField_getAfrcModifierTags hafrc hinfo, hyuv]
  have hfits : MaskFits hnd ↔
      (hnd.isMultiPlane = true → isAndroidYuvFormat hnd.format = true) := by
    rw [MaskFits, if_neg hafbc]
    exact imp_iff_right hafrc
  rw [hfits]
  constructor
  · intro h hm
    by_contra hlist
    have hother := h.fields 1
    rw [cuField_amGrallocGetVpuAfrcMask hafrc, hfield, if_neg Nat.one_ne_zero,
      if_neg Nat.one_ne_zero, if_pos hm, if_neg (by simp [hasChromaSize, hlist]), eq_comm,
      sizeField_eq_zero_iff] at hother
    omega
  · intro h
    have htwo : hasChromaSize hnd = hnd.isMultiPlane := by
      rw [hasChromaSize, Bool.and_eq_right_iff_imp]
      exact h
    refine ⟨fun plane => ?_, c.info, c.allocType, hinfo, hformat ▸ c.allocType_eq, fun i hi => ?_⟩
    · rw [cuField_amGrallocGetVpuAfrcMask hafrc, hfield, htwo]
    · rw [cuField_amGrallocGetVpuAfrcMask hafrc, if_pos hisAfrc, hunits, htwo]
      by_cases h0 : i = 0
      · rw [if_pos h0, if_pos h0, cuBytes_sizeField hluma]
      · have hm : hnd.isMultiPlane = true := by
          rw [hmulti, decide_eq_true_eq]
          omega
        rw [if_neg h0, if_neg h0, if_pos hm, cuBytes_sizeField hchroma]

end

/-- **The mask of an allocated buffer agrees** with its modifier and its layout exactly if it is
taken of a handle that suits it. -/
theorem afrcAgrees_iff {p : Platform} {e : Attempt} {d d' : BufferDescriptor} {b : DmaBuf}
    (h : DmaBuf.bufferAllocate p e d = .ok (d', some b)) :
    AfrcAgrees d.usage b.handle ↔ MaskFits b.handle := by
  obtain ⟨c, -, -, -, hformat, hmulti⟩ := choose_of_bufferAllocate (DmaBuf.bufferAllocate_refines h)
  by_cases hs : Mapper.schemeOf c.format = .afrc
  · exact afrcAgrees_iff_of_eq c hformat hmulti hs
  · exact afrcAgrees_iff_of_ne c hformat hs

/-! ### NV12 by its own code -/

/-- A product whose GPU has AFRC in scan order. -/
def afrcGpu : Platform :=
  { Platform.plain with caps := ⟨[(.afrcScanLayout, .rw)], none, none, none, none⟩ }

/-- 64 × 64 pixels of a format, for the GPU, with coding units of 16 bytes. -/
def afrcRequest (halFormat : BitVec 64) : BufferDescriptor :=
  .request 64#32 64#32 (0x300#64 ||| Usage.afrcLuma16 ||| Usage.afrcChroma16) halFormat 1#32

/-- A buffer for the GPU with a decoder that is silent. -/
def allocated (p : Platform) (d : BufferDescriptor) : Run (BufferDescriptor × Option DmaBuf) :=
  DmaBuf.bufferAllocate p (.ofNode noDecoder) d

/-- The mask and the modifier of a buffer. -/
def maskAndModifier (b : DmaBuf) : BitVec 32 × DrmModifier :=
  (amGrallocGetVpuAfrcMask (some b.handle), drmModifierFromHandle b.handle.toPrivateHandle)

/-- NV12 by the framework's flexible format. -/
theorem afrcAgrees_iff_flexible : ∃ d' b,
    allocated afrcGpu (afrcRequest 0x23#64) = .ok (d', some b) ∧
      AfrcAgrees (afrcRequest 0x23#64).usage b.handle := by
  have hok : (allocated afrcGpu (afrcRequest 0x23#64)).map (fun r => r.2.map fun b =>
      (b.handle.allocFormat, b.handle.format)) =
        .ok (some (⟨.unorm, 0x100#32, .afrcBasic⟩, 0x23#32)) := by
    decide +kernel
  obtain ⟨⟨d', o⟩, hd, ho⟩ := map_eq_ok.mp hok
  obtain ⟨b, rfl, hb⟩ := Option.map_eq_some_iff.mp ho
  obtain ⟨halloc, hformat⟩ := Prod.mk.inj hb
  refine ⟨d', b, hd, (afrcAgrees_iff hd).mpr fun _ => ?_⟩
  rw [halloc, hformat, if_neg (by decide)]
  exact fun _ => by decide

/-- A chroma size that the modifier has, and not the mask. -/
theorem not_afrcAgrees_of_fields {p : Platform} {d : BufferDescriptor}
    (h : (allocated p d).map (fun r => r.2.map maskAndModifier) =
      .ok (some (0x01#32, 0x0820000000000111#64))) :
    ∃ d' b, allocated p d = .ok (d', some b) ∧
      amGrallocGetVpuAfrcMask (some b.handle) = 0x01#32 ∧
      drmModifierFromHandle b.handle.toPrivateHandle = 0x0820000000000111#64 ∧
      ¬AfrcAgrees d.usage b.handle := by
  obtain ⟨⟨d', o⟩, hd, ho⟩ := map_eq_ok.mp h
  obtain ⟨b, rfl, hb⟩ := Option.map_eq_some_iff.mp ho
  obtain ⟨hmask, hmodifier⟩ := Prod.mk.inj hb
  refine ⟨d', b, hd, hmask, hmodifier, fun hagrees => ?_⟩
  have hchroma := hagrees.fields 1
  rw [hmask, hmodifier] at hchroma
  exact absurd hchroma (by decide)

/-- **The VPU is not told of the chroma** of NV12 that is requested by the code 0x100, on a GPU that
has AFRC, nor of that which is forced. -/
theorem not_afrcAgrees :
    (∃ d' b, allocated afrcGpu (afrcRequest 0x100#64) = .ok (d', some b) ∧
      amGrallocGetVpuAfrcMask (some b.handle) = 0x01#32 ∧
      drmModifierFromHandle b.handle.toPrivateHandle = 0x0820000000000111#64 ∧
      ¬AfrcAgrees (afrcRequest 0x100#64).usage b.handle) ∧
    ∃ d' b, allocated .plain (afrcRequest 0x28100#64) = .ok (d', some b) ∧
      amGrallocGetVpuAfrcMask (some b.handle) = 0x01#32 ∧
      drmModifierFromHandle b.handle.toPrivateHandle = 0x0820000000000111#64 ∧
      ¬AfrcAgrees (afrcRequest 0x28100#64).usage b.handle :=
  ⟨not_afrcAgrees_of_fields (by decide +kernel), not_afrcAgrees_of_fields (by decide +kernel)⟩

end Aml

end Gralloc
