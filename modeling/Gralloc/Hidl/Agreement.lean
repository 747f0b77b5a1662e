import Gralloc.Hidl.FromDescriptor

/-!
# What was said of a request, and what is said of its buffer

A client may rely on what the mapper says of a request if the buffer says the same. There
are 22 types that both answer (`Gralloc.Hidl.commonTypes`), and for each the two answers
are values given to one encoder: they agree if the values do, and for every encoder only
then (`Gralloc.Hidl.metadataAgrees_iff_values`).

Most values are read off handles that differ in their size at most. The others are
compared one by one, and `Gralloc.Hidl.metadataAgrees_iff` puts them together: a client may
rely on the answers exactly when `Gralloc.Hidl.KeptByAllocation` holds of its request. A
name must be short, and without zeros; numbers must fit an `int`; a frame buffer must not
get another size; and the format must have no chroma siting of its own.
-/

namespace Gralloc

open CInt Mapper

namespace Hidl

/-! ### Agreement -/

/-- The standard types that are answered before an allocation and after it. -/
def commonStandardTypes : List StandardMetadataType := [
  .name, .width, .height, .layerCount, .pixelFormatRequested, .pixelFormatFourcc,
  .pixelFormatModifier, .usage, .allocationSize, .protectedContent, .compression, .interlaced,
  .chromaSiting, .planeLayouts, .crop, .dataspace, .blendMode, .smpte2086, .cta861_3,
  .smpte2094_40, .smpte2094_10]

def commonTypes : List MetadataType :=
  commonStandardTypes.map .standard ++ [.arm .formatDataType]

/-- A handle is an import of a buffer. -/
structure IsImport (hnd : MetadataHandle) (b : AllocatedBuffer) : Prop where
  handle : hnd.toPrivateHandle = b.buf.handle.toPrivateHandle
  attr : hnd.attr = some b.metadata

section

variable (caps : Capabilities) (node : ℕ → Option DecoderPara) (flags : DescriptorFlags)
  (info : BufferDescriptorInfo) (hnd : MetadataHandle)

/-- **What was said of a request is what is said of a handle**, whatever the encoders do. -/
def MetadataAgrees : Prop :=
  ∀ gralloc4, ∀ t ∈ commonTypes, ∃ bytes,
    getFromBufferDescriptorInfo gralloc4 caps node flags info t = .ok (.ok bytes) ∧
      get gralloc4 hnd t = .ok (.ok bytes)

end

/-- The value of a type is the same. -/
def ValueAgrees (info : BufferDescriptorInfo) (ph : PrivateHandle) (hnd : MetadataHandle)
    (t : StandardMetadataType) : Prop :=
  ∃ v, standardFromDescriptor info ph t = .ok (.ok v) ∧
    getStandardMetadata hnd false t = .ok (.ok v)

section

variable {caps : Capabilities} {node : ℕ → Option DecoderPara} {flags : DescriptorFlags}
  {info : BufferDescriptorInfo} {hnd : MetadataHandle} {r : BufferDescriptor}
  {m : SharedMetadata} {t : StandardMetadataType}

theorem getFromBufferDescriptorInfo_standard (gralloc4 : Gralloc4)
    (hr : deriveFormatAndSize wrapping caps node (info.toDescriptor flags) = .ok (.success, r))
    (t : StandardMetadataType) :
    getFromBufferDescriptorInfo gralloc4 caps node flags info (.standard t) =
      (standardFromDescriptor info (partialHandle r) t).map (·.map (gralloc4 t)) := by
  rw [getFromBufferDescriptorInfo, hr]
  rfl

/-- **No other type is answered before an allocation.** -/
theorem getFromBufferDescriptorInfo_of_not_mem (gralloc4 : Gralloc4)
    (hr : deriveFormatAndSize wrapping caps node (info.toDescriptor flags) = .ok (.success, r))
    {t : MetadataType} (ht : t ∉ commonTypes) :
    getFromBufferDescriptorInfo gralloc4 caps node flags info t = .ok (.error .unsupported) := by
  rw [getFromBufferDescriptorInfo, hr]
  rcases t with t | t | t | _
  · cases t <;> first | rfl | exact absurd (by decide) ht
  · cases t <;> first | rfl | exact absurd (by decide) ht
  · rfl
  · rfl

theorem get_standard (gralloc4 : Gralloc4) (ha : hnd.attr = some m) (t : StandardMetadataType) :
    get gralloc4 hnd (.standard t) =
      (getStandardMetadata hnd false t).map
        (·.bind (getEncodeFunction gralloc4 (.standard t))) := by
  have hraw : ¬(hnd.attr.isNone ∧ isMutable (.standard t)) := by
    rw [ha]
    rintro ⟨h, -⟩
    cases h
  rw [get, Mapper.get, if_neg hraw]
  rfl

theorem hasEncoder_of_mem (ht : t ∈ commonStandardTypes) : hasEncoder t = true := by
  revert ht
  cases t <;> decide

/-- Encoders that tell a value from all others tell whether two values are one. -/
theorem valueAgrees_of_encoders
    (hr : deriveFormatAndSize wrapping caps node (info.toDescriptor flags) = .ok (.success, r))
    (ha : hnd.attr = some m) (ht : t ∈ commonStandardTypes)
    (h : ∀ gralloc4, ∃ bytes,
      getFromBufferDescriptorInfo gralloc4 caps node flags info (.standard t) = .ok (.ok bytes) ∧
        get gralloc4 hnd (.standard t) = .ok (.ok bytes)) :
    ValueAgrees info (partialHandle r) hnd t := by
  have henc (gralloc4 : Gralloc4) (v : MetadataValue) :
      getEncodeFunction gralloc4 (.standard t) v = .ok (gralloc4 t v) :=
    if_pos (hasEncoder_of_mem ht)
  -- both have a value, which does not depend on the encoder
  obtain ⟨bytes, hpre, hpost⟩ := h fun _ _ => []
  rw [getFromBufferDescriptorInfo_standard _ hr] at hpre
  rw [get_standard _ ha] at hpost
  obtain ⟨x, hx, hxb⟩ := map_eq_ok.mp hpre
  obtain ⟨y, hy, hyb⟩ := map_eq_ok.mp hpost
  cases x with
  | error err => cases hxb
  | ok v =>
    cases y with
    | error err => cases hyb
    | ok w =>
      obtain ⟨bytes, hpre, hpost⟩ := h fun _ u => if u = v then [] else [0#8]
      rw [getFromBufferDescriptorInfo_standard _ hr, hx] at hpre
      rw [get_standard _ ha, hy] at hpost
      simp only [Except.map, Except.ok.injEq, if_true] at hpre
      simp only [Except.map, Except.bind, henc, Except.ok.injEq, ← hpre] at hpost
      have hwv : w = v := by
        by_contra hne
        rw [if_neg hne] at hpost
        cases hpost
      exact ⟨v, hx, hwv ▸ hy⟩

/-- **Bytes agree for every encoder exactly when the values do.** -/
theorem metadataAgrees_iff_values
    (hr : deriveFormatAndSize wrapping caps node (info.toDescriptor flags) = .ok (.success, r))
    (ha : hnd.attr = some m) (hf : hnd.allocFormat = r.allocFormat) :
    MetadataAgrees caps node flags info hnd ↔
      ∀ t ∈ commonStandardTypes, ValueAgrees info (partialHandle r) hnd t := by
  constructor
  · intro h t ht
    have hmem : .standard t ∈ commonTypes := List.mem_append_left _ (List.mem_map_of_mem ht)
    exact valueAgrees_of_encoders hr ha ht fun gralloc4 => h gralloc4 _ hmem
  · intro h gralloc4 t ht
    rcases List.mem_append.mp ht with ht | ht
    · obtain ⟨s, hs, rfl⟩ := List.mem_map.mp ht
      obtain ⟨v, hpre, hpost⟩ := h s hs
      refine ⟨gralloc4 s v, ?_, ?_⟩
      · rw [getFromBufferDescriptorInfo_standard _ hr, hpre]
        rfl
      · rw [get_standard _ ha, hpost]
        exact congrArg Except.ok (if_pos (hasEncoder_of_mem hs))
    · obtain rfl := List.mem_singleton.mp ht
      refine ⟨leBytes 8 (dataTypeInternalToAidl r.allocFormat.dataType).toNat, ?_, ?_⟩
      · rw [getFromBufferDescriptorInfo, hr]
        rfl
      · have hraw : ¬(hnd.attr.isNone ∧ isMutable (.arm .formatDataType)) := by
          rintro ⟨-, h⟩
          cases h
        rw [← hf, get, Mapper.get, if_neg hraw]
        rfl

end

/-! ### Numbers -/

section

variable {a b : ℤ} {n m : ℕ}

/-- Numbers of less than 64 bits are told apart in 64. -/
theorem ofInt_inj (ha : -2 ^ 31 ≤ a ∧ a < 2 ^ 32) (hb : -2 ^ 31 ≤ b ∧ b < 2 ^ 32) :
    BitVec.ofInt 64 a = BitVec.ofInt 64 b ↔ a = b := by
  refine ⟨fun h => ?_, congrArg _⟩
  have hint := congrArg BitVec.toInt h
  rwa [BitVec.toInt_ofInt, BitVec.toInt_ofInt, Int.bmod_eq_of_le_mul_two (by omega) (by omega),
    Int.bmod_eq_of_le_mul_two (by omega) (by omega)] at hint

theorem ofInt_toInt_inj :
    BitVec.ofInt 64 (toInt n) = BitVec.ofInt 64 (toInt m) ↔ toInt n = toInt m := by
  refine ofInt_inj ⟨le_toInt n, ?_⟩ ⟨le_toInt m, ?_⟩
  · have := toInt_lt n
    omega
  · have := toInt_lt m
    omega

/-- **A word in an `int`** is itself exactly when its highest bit is not set. -/
theorem setWidth_eq_ofInt_toInt_iff (w : BitVec 32) :
    w.setWidth 64 = BitVec.ofInt 64 (toInt w.toNat) ↔ w.toNat < 2 ^ 31 := by
  have hw : w.setWidth 64 = BitVec.ofInt 64 w.toNat := by
    rw [BitVec.ofInt_natCast, BitVec.ofNat_toNat]
  have hlt := w.isLt
  have hint := toInt_lt w.toNat
  rw [hw, ofInt_inj ⟨by omega, by omega⟩ ⟨le_toInt _, by omega⟩]
  refine ⟨fun h => by omega, fun h => (toInt_of_lt h).symm⟩

/-- The requested format is kept. -/
theorem ofInt_toInt_signExtend (w : BitVec 32) :
    BitVec.ofInt 32 (toInt (w.signExtend 64).toNat) = w := by
  have hle : 32 ≤ 64 := by decide
  rw [toInt_toNat_congr (truncate_signExtend w), BitVec.toNat_setWidth_of_le hle]
  exact (congrArg _ (BitVec.toInt_eq_toNat_bmod w).symm).trans BitVec.ofInt_toInt

end

/-! ### Chroma siting -/

section

variable {format : InternalFormat} {usage : Usage} {f : FormatInfo}

/-- The sitings that are written. -/
def writtenSitings : List ExtendableType := [
  chromaSitingSitedInterstitial, chromaSitingCositedVertical, chromaSitingCositedHorizontal,
  chromaSitingCositedBoth]

theorem mem_of_lookup {α : Type} [DecidableEq α] {β : Type} {l : List (α × β)} {k : α} {b : β}
    (h : l.lookup k = some b) : b ∈ l.map Prod.snd := by
  obtain ⟨l₁, l₂, rfl, -⟩ := List.lookup_eq_some_iff.mp h
  simp

theorem yuvSiting_mem {c : ExtendableType} (h : yuvSiting format usage = some c) :
    c ∈ writtenSitings := by
  have husage : ∀ c ∈ usageSitings.map Prod.snd, c ∈ writtenSitings := by decide
  have hformat : ∀ c ∈ formatSitings.map Prod.snd, c ∈ writtenSitings := by decide
  unfold yuvSiting at h
  split_ifs at h
  · exact husage c (mem_of_lookup h)
  · exact hformat c (mem_of_lookup h)

/-- The name of a stored siting is found again from its number. -/
theorem getChromaSiting_init (name : List (BitVec 8)) (dataspace : Dataspace)
    (format : InternalFormat) (usage : Usage) :
    (SharedMetadata.init name dataspace (getFormatChromaSiting format usage)).getChromaSiting =
      some (getFormatChromaSiting format usage) := by
  have hnamed : ∀ c ∈ chromaSitingNone :: chromaSitingUnknown :: writtenSitings,
      (⟨if SharedMetadata.chromaSitingIsArmValue c.value then armChromaSiting
        else standardChromaSiting, c.value⟩ : ExtendableType) = c := by decide
  refine congrArg some (hnamed _ ?_)
  unfold getFormatChromaSiting
  split
  · decide
  · split_ifs
    · cases h : yuvSiting format usage with
      | none => decide
      | some c => exact List.mem_cons_of_mem _ (List.mem_cons_of_mem _ (yuvSiting_mem h))
    · decide
    · decide

/-- **The siting that is written is the one that was said** exactly when a YUV format has
none, and other formats are RGB. -/
theorem defaultChromaSiting_eq_iff (hf : format.getBaseInfo = some f) :
    defaultChromaSiting f = getFormatChromaSiting format usage ↔
      if f.isYuv then yuvSiting format usage = none else f.isRgb = true := by
  have hne : chromaSitingUnknown ∉ writtenSitings := by decide
  rw [defaultChromaSiting, getFormatChromaSiting, hf]
  dsimp only
  by_cases hy : f.isYuv = true
  · rw [if_pos hy, if_pos hy, if_pos hy]
    cases h : yuvSiting format usage with
    | none => exact iff_of_true rfl rfl
    | some c =>
      refine iff_of_false (fun heq => hne ?_) nofun
      rw [heq]
      exact yuvSiting_mem h
  · rw [if_neg hy, if_neg hy, if_neg hy]
    by_cases hrgb : f.isRgb = true
    · rw [if_pos hrgb]
      exact iff_of_true rfl hrgb
    · rw [if_neg hrgb]
      exact iff_of_false (by decide) hrgb

end

/-! ### The handle of a buffer -/

theorem partialHandle_final (displays : Displays) (r : BufferDescriptor) :
    partialHandle (r.final displays) =
      { partialHandle r with size := toInt (r.final displays).size } := by
  rw [final_eq]
  simp only [partialHandle]

/-- The import of a buffer: a handle with a size of its own, and its metadata. -/
def importOf (ph : PrivateHandle) (size : ℤ) (m : SharedMetadata) (shareFd : ℤ)
    (backingStoreId : BitVec 64) : MetadataHandle :=
  { ph with
    size := size
    shareFd := shareFd
    backingStoreId := backingStoreId
    attr := some m }

section

variable {displays : Displays} {caps : Capabilities} {node : ℕ → Option DecoderPara}
  {flags : DescriptorFlags} {info : BufferDescriptorInfo} {r : BufferDescriptor}
  {hnd : MetadataHandle} {m : SharedMetadata}

/-- **An import of a buffer** has the handle that its request was answered from, but for the
size. -/
theorem eq_importOf (hhandle : makePrivateHandle (r.final displays) = some hnd.toPrivateHandle)
    (hattr : hnd.attr = some m) :
    hnd = importOf (partialHandle r) (toInt (r.final displays).size) m hnd.shareFd
      hnd.backingStoreId := by
  obtain ⟨ph, fd, id, attr⟩ := hnd
  rw [makePrivateHandle_eq_map] at hhandle
  obtain ⟨f, -, rfl⟩ := Option.map_eq_some_iff.mp hhandle
  cases hattr
  rw [partialHandle_final]
  rfl

/-- The request is still in what it was derived to. -/
theorem request_of_derive
    (hr : deriveFormatAndSize wrapping caps node (info.toDescriptor flags) = .ok (.success, r)) :
    r.width = info.width ∧ r.height = info.height ∧ r.layerCount = info.layerCount ∧
      r.halFormat = info.format.signExtend 64 ∧ r.producerUsage = info.usage ∧
      r.consumerUsage = info.usage := by
  have h : r.fresh = (info.toDescriptor flags).fresh := fresh_of_derive hr
  exact ⟨congrArg BufferDescriptor.width h, congrArg BufferDescriptor.height h,
    congrArg BufferDescriptor.layerCount h, congrArg BufferDescriptor.halFormat h,
    congrArg BufferDescriptor.producerUsage h, congrArg BufferDescriptor.consumerUsage h⟩

/-- The format is the selected one. -/
theorem allocFormat_of_derive
    (hr : deriveFormatAndSize wrapping caps node (info.toDescriptor flags) = .ok (.success, r)) :
    r.allocFormat = selectFormat caps (info.format.signExtend 64) flags info.usage := by
  obtain ⟨c, -, wh, -, s, -, size, -, pitches, -, rfl⟩ := deriveFormatAndSize_eq_success.mp hr
  have husage : (info.toDescriptor flags).usage = info.usage := BitVec.or_self
  rw [← husage]
  exact prepared_allocFormat

/-- The name that is kept. -/
theorem getName_initSharedMetadata (r : BufferDescriptor) (name : List (BitVec 8)) :
    (initSharedMetadata r (pushDescriptorString name)).getName =
      (cString name).take maxNameLength := by
  have hname : cString (pushDescriptorString name) = (cString name).take maxNameLength :=
    cString_pushDescriptorString name
  have hlen : ((cString name).take maxNameLength).length ≤ nameSize :=
    (List.length_take_le _ _).trans (by decide)
  rw [← hname] at hlen ⊢
  exact getName_initSharedMetadata_of_le hlen

end

/-! ### Type by type -/

section

variable {info : BufferDescriptorInfo} {ph : PrivateHandle} {f : FormatInfo} {size fd : ℤ}
  {m : SharedMetadata} {id : BitVec 64} {hnd : MetadataHandle} {t : StandardMetadataType}
  {v w : MetadataValue}

theorem valueAgrees_iff_eq (hpre : standardFromDescriptor info ph t = .ok (.ok v))
    (hpost : getStandardMetadata hnd false t = .ok (.ok w)) :
    ValueAgrees info ph hnd t ↔ v = w := by
  rw [ValueAgrees, hpre, hpost]
  simp only [Except.ok.injEq]
  exact ⟨fun ⟨u, hv, hw⟩ => hv.trans hw.symm, fun h => ⟨v, rfl, h.symm⟩⟩

theorem valueAgrees_name :
    ValueAgrees info ph (importOf ph size m fd id) .name ↔ info.name = m.getName := by
  rw [valueAgrees_iff_eq rfl rfl, MetadataValue.string.injEq]

theorem valueAgrees_width :
    ValueAgrees info ph (importOf ph size m fd id) .width ↔
      info.width.setWidth 64 = BitVec.ofInt 64 ph.width := by
  rw [valueAgrees_iff_eq rfl rfl, MetadataValue.uint64.injEq]
  rfl

theorem valueAgrees_height :
    ValueAgrees info ph (importOf ph size m fd id) .height ↔
      info.height.setWidth 64 = BitVec.ofInt 64 ph.height := by
  rw [valueAgrees_iff_eq rfl rfl, MetadataValue.uint64.injEq]
  rfl

theorem valueAgrees_layerCount :
    ValueAgrees info ph (importOf ph size m fd id) .layerCount ↔
      info.layerCount.setWidth 64 = BitVec.ofInt 64 ph.layerCount := by
  rw [valueAgrees_iff_eq rfl rfl, MetadataValue.uint64.injEq]
  rfl

theorem valueAgrees_allocationSize :
    ValueAgrees info ph (importOf ph size m fd id) .allocationSize ↔
      BitVec.ofInt 64 ph.size = BitVec.ofInt 64 size := by
  rw [valueAgrees_iff_eq rfl rfl, MetadataValue.uint64.injEq]
  rfl

theorem valueAgrees_pixelFormatRequested (h : BitVec.ofInt 32 ph.reqFormat = info.format) :
    ValueAgrees info ph (importOf ph size m fd id) .pixelFormatRequested :=
  (valueAgrees_iff_eq rfl rfl).mpr (congrArg MetadataValue.int32 h.symm)

theorem valueAgrees_usage (h : ph.consumerUsage ||| ph.producerUsage = info.usage) :
    ValueAgrees info ph (importOf ph size m fd id) .usage :=
  (valueAgrees_iff_eq rfl rfl).mpr (congrArg MetadataValue.uint64 h.symm)

theorem valueAgrees_chromaSiting (hf : ph.allocFormat.getBaseInfo = some f) :
    ValueAgrees info ph (importOf ph size m fd id) .chromaSiting ↔
      defaultChromaSiting f = m.getChromaSiting.getD (defaultChromaSiting f) := by
  have hpre : standardFromDescriptor info ph .chromaSiting =
      .ok (.ok (.extendable (defaultChromaSiting f))) := by
    rw [standardFromDescriptor, hf]
  have hpost : getStandardMetadata (importOf ph size m fd id) false .chromaSiting =
      .ok (.ok (.extendable (m.getChromaSiting.getD (defaultChromaSiting f)))) := by
    simp only [getStandardMetadata, importOf, hf]
  rw [valueAgrees_iff_eq hpre hpost, MetadataValue.extendable.injEq]

/-- The planes of a handle with layers have a description. -/
theorem valueAgrees_planeLayouts (hf : ph.allocFormat.getBaseInfo = some f)
    (hl : ph.layerCount ≠ 0) :
    ValueAgrees info ph (importOf ph ph.size m fd id) .planeLayouts := by
  obtain ⟨ls, hls⟩ : ∃ ls, describedPlaneLayouts ph = .ok (.ok ls) := by
    rw [describedPlaneLayouts, getPlaneLayouts_of_layers ph hf hl]
    exact ⟨_, rfl⟩
  have hph : (importOf ph ph.size m fd id).toPrivateHandle = ph := rfl
  refine ⟨.layouts ls, ?_, ?_⟩
  · rw [standardFromDescriptor, hls]
    rfl
  · rw [getStandardMetadata, hph, hls]
    rfl

theorem valueAgrees_dataspace {name : List (BitVec 8)} {siting : ExtendableType} {usage : Usage}
    (husage : ph.consumerUsage ||| ph.producerUsage = usage) :
    ValueAgrees info ph (importOf ph size
      (.init name (getFormatDataspace ph.allocFormat.getBaseInfo usage) siting) fd id)
      .dataspace := by
  rw [← husage]
  exact ⟨_, rfl, rfl⟩

/-- The types that are read off the handle, or were never set. -/
def keptTypes : List StandardMetadataType := [
  .pixelFormatFourcc, .pixelFormatModifier, .protectedContent, .compression, .interlaced, .crop,
  .blendMode, .smpte2086, .cta861_3, .smpte2094_40, .smpte2094_10]

theorem valueAgrees_of_mem_keptTypes {name : List (BitVec 8)} {dataspace : Dataspace}
    {siting : ExtendableType} (ht : t ∈ keptTypes) :
    ValueAgrees info ph (importOf ph size (.init name dataspace siting) fd id) t := by
  simp only [keptTypes, List.mem_cons, List.not_mem_nil, or_false] at ht
  rcases ht with rfl | rfl | rfl | rfl | rfl | rfl | rfl | rfl | rfl | rfl | rfl <;>
    exact ⟨_, rfl, rfl⟩

end

/-! ### What a request must be -/

/-- **A request whose metadata is kept by the allocation.** -/
structure KeptByAllocation (p : Platform) (node : ℕ → Option DecoderPara)
    (flags : DescriptorFlags) (info : BufferDescriptorInfo) : Prop where
  /-- The name is not cut off. -/
  name : info.name.length ≤ maxNameLength ∧ 0#8 ∉ info.name
  width : info.width.toNat < 2 ^ 31
  height : info.height.toNat < 2 ^ 31
  layerCount : info.layerCount.toNat < 2 ^ 31
  /-- A frame buffer keeps its size, as an `int`. -/
  size : ∀ r, deriveFormatAndSize wrapping p.caps node (info.toDescriptor flags) =
      .ok (.success, r) →
    Replaced p.displays r → toInt r.size = toInt p.displays.budget
  /-- No siting is calculated for the format. -/
  chromaSiting : ∀ f,
    (selectFormat p.caps (info.format.signExtend 64) flags info.usage).getBaseInfo = some f →
      if f.isYuv then
        yuvSiting (selectFormat p.caps (info.format.signExtend 64) flags info.usage) info.usage =
          none
      else f.isRgb = true

section

variable {p : Platform} {node : ℕ → Option DecoderPara} {flags : DescriptorFlags}
  {info : BufferDescriptorInfo} {r : BufferDescriptor} {f : FormatInfo} {hnd : MetadataHandle}

theorem toInt_final_size (displays : Displays) (r : BufferDescriptor) :
    toInt r.size = toInt (r.final displays).size ↔
      (Replaced displays r → toInt r.size = toInt displays.budget) := by
  unfold BufferDescriptor.final
  by_cases h : Replaced displays r
  · rw [if_pos h]
    exact ⟨fun heq _ => heq, fun heq => heq h⟩
  · rw [if_neg h]
    exact iff_of_true rfl fun h' => absurd h' h

theorem toInt_ne_zero {w : BitVec 32} (h : w ≠ 0#32) : toInt w.toNat ≠ 0 := by
  intro h0
  have hw : BitVec.ofInt 32 (toInt w.toNat) = w :=
    (congrArg _ (BitVec.toInt_eq_toNat_bmod w).symm).trans BitVec.ofInt_toInt
  rw [h0] at hw
  exact h hw.symm

/-- The format of a handle has properties. -/
theorem getBaseInfo_of_makePrivateHandle {displays : Displays} {ph : PrivateHandle}
    (h : makePrivateHandle (r.final displays) = some ph) :
    ∃ f, r.allocFormat.getBaseInfo = some f := by
  rw [makePrivateHandle_eq_map, final_eq] at h
  obtain ⟨f, hf, -⟩ := Option.map_eq_some_iff.mp h
  exact ⟨f, hf⟩

theorem usage_partialHandle (r : BufferDescriptor) :
    (partialHandle r).consumerUsage ||| (partialHandle r).producerUsage = r.usage :=
  BitVec.or_comm _ _

/-- An import of a buffer, whose request was derived to `r`. -/
structure DerivedImport (p : Platform) (node : ℕ → Option DecoderPara) (flags : DescriptorFlags)
    (info : BufferDescriptorInfo) (r : BufferDescriptor) (hnd : MetadataHandle) : Prop where
  derive : deriveFormatAndSize wrapping p.caps node (info.toDescriptor flags) = .ok (.success, r)
  handle : makePrivateHandle (r.final p.displays) = some hnd.toPrivateHandle
  attr : hnd.attr = some (initSharedMetadata r (pushDescriptorString info.name))

namespace DerivedImport

variable (h : DerivedImport p node flags info r hnd)
include h

theorem eq_importOf : hnd = importOf (partialHandle r) (toInt (r.final p.displays).size)
    (initSharedMetadata r (pushDescriptorString info.name)) hnd.shareFd hnd.backingStoreId :=
  Hidl.eq_importOf h.handle h.attr

theorem usage_eq : r.usage = info.usage := by
  obtain ⟨-, -, -, -, hprod, hcons⟩ := request_of_derive h.derive
  rw [BufferDescriptor.usage, hprod, hcons]
  exact BitVec.or_self

/-! Of six types it takes something to be kept. -/

theorem name_iff : ValueAgrees info (partialHandle r) hnd .name ↔
    info.name.length ≤ maxNameLength ∧ 0#8 ∉ info.name := by
  rw [h.eq_importOf, valueAgrees_name, getName_initSharedMetadata, eq_comm,
    take_cString_eq_self_iff]

theorem width_iff :
    ValueAgrees info (partialHandle r) hnd .width ↔ info.width.toNat < 2 ^ 31 := by
  obtain ⟨hw, -⟩ := request_of_derive h.derive
  rw [h.eq_importOf, valueAgrees_width, partialHandle_width, hw, setWidth_eq_ofInt_toInt_iff]

theorem height_iff :
    ValueAgrees info (partialHandle r) hnd .height ↔ info.height.toNat < 2 ^ 31 := by
  obtain ⟨-, hh, -⟩ := request_of_derive h.derive
  rw [h.eq_importOf, valueAgrees_height, partialHandle_height, hh, setWidth_eq_ofInt_toInt_iff]

theorem layerCount_iff :
    ValueAgrees info (partialHandle r) hnd .layerCount ↔ info.layerCount.toNat < 2 ^ 31 := by
  obtain ⟨-, -, hl, -⟩ := request_of_derive h.derive
  rw [h.eq_importOf, valueAgrees_layerCount, partialHandle_layerCount, hl,
    setWidth_eq_ofInt_toInt_iff]

theorem allocationSize_iff : ValueAgrees info (partialHandle r) hnd .allocationSize ↔
    (Replaced p.displays r → toInt r.size = toInt p.displays.budget) := by
  rw [h.eq_importOf, valueAgrees_allocationSize, partialHandle_size, ofInt_toInt_inj,
    toInt_final_size]

theorem chromaSiting_iff (hf : r.allocFormat.getBaseInfo = some f) :
    ValueAgrees info (partialHandle r) hnd .chromaSiting ↔
      if f.isYuv then yuvSiting r.allocFormat info.usage = none else f.isRgb = true := by
  rw [h.eq_importOf, valueAgrees_chromaSiting hf, initSharedMetadata, getChromaSiting_init,
    ← h.usage_eq]
  exact defaultChromaSiting_eq_iff hf

/-! Of the others it takes nothing but the size. -/

theorem planeLayouts (hl : info.layerCount ≠ 0#32)
    (hs : toInt r.size = toInt (r.final p.displays).size) :
    ValueAgrees info (partialHandle r) hnd .planeLayouts := by
  obtain ⟨f, hf⟩ := getBaseInfo_of_makePrivateHandle h.handle
  obtain ⟨-, -, hlc, -⟩ := request_of_derive h.derive
  have hlayers : (partialHandle r).layerCount ≠ 0 := by
    rw [← hlc] at hl
    rw [partialHandle_layerCount]
    exact toInt_ne_zero hl
  rw [h.eq_importOf, ← hs, ← partialHandle_size]
  exact valueAgrees_planeLayouts hf hlayers

theorem pixelFormatRequested :
    ValueAgrees info (partialHandle r) hnd .pixelFormatRequested := by
  obtain ⟨-, -, -, hformat, -⟩ := request_of_derive h.derive
  rw [h.eq_importOf]
  refine valueAgrees_pixelFormatRequested ?_
  rw [partialHandle_reqFormat, hformat, ofInt_toInt_signExtend]

theorem usage : ValueAgrees info (partialHandle r) hnd .usage := by
  rw [h.eq_importOf]
  exact valueAgrees_usage ((usage_partialHandle r).trans h.usage_eq)

theorem dataspace : ValueAgrees info (partialHandle r) hnd .dataspace := by
  rw [h.eq_importOf]
  exact valueAgrees_dataspace (usage_partialHandle r)

theorem kept {t : StandardMetadataType} (ht : t ∈ keptTypes) :
    ValueAgrees info (partialHandle r) hnd t := by
  rw [h.eq_importOf]
  exact valueAgrees_of_mem_keptTypes ht

/-- **The values of an import agree** with those of the request it was derived from exactly
when the allocation keeps them. -/
theorem valuesAgree_iff (hl : info.layerCount ≠ 0#32) :
    (∀ t ∈ commonStandardTypes, ValueAgrees info (partialHandle r) hnd t) ↔
      KeptByAllocation p node flags info := by
  obtain ⟨f, hf⟩ := getBaseInfo_of_makePrivateHandle h.handle
  have hsel := allocFormat_of_derive h.derive
  constructor
  · intro hv
    refine
      { name := h.name_iff.mp (hv .name (by decide))
        width := h.width_iff.mp (hv .width (by decide))
        height := h.height_iff.mp (hv .height (by decide))
        layerCount := h.layerCount_iff.mp (hv .layerCount (by decide))
        size := fun r' hr' => ?_
        chromaSiting := fun f' hf' => ?_ }
    · cases h.derive.symm.trans hr'
      exact h.allocationSize_iff.mp (hv .allocationSize (by decide))
    · rw [← hsel] at hf' ⊢
      cases hf.symm.trans hf'
      exact (h.chromaSiting_iff hf).mp (hv .chromaSiting (by decide))
  · intro hk t ht
    have hsize := hk.size r h.derive
    cases t
    case name => exact h.name_iff.mpr hk.name
    case width => exact h.width_iff.mpr hk.width
    case height => exact h.height_iff.mpr hk.height
    case layerCount => exact h.layerCount_iff.mpr hk.layerCount
    case allocationSize => exact h.allocationSize_iff.mpr hsize
    case chromaSiting =>
      rw [h.chromaSiting_iff hf, hsel]
      exact hk.chromaSiting f (hsel ▸ hf)
    case planeLayouts => exact h.planeLayouts hl ((toInt_final_size p.displays r).mpr hsize)
    case pixelFormatRequested => exact h.pixelFormatRequested
    case usage => exact h.usage
    case dataspace => exact h.dataspace
    all_goals first | exact h.kept (by decide) | exact absurd ht (by decide)

end DerivedImport

/-- **The metadata of a request agrees with that of its buffer** exactly when the allocation
keeps it, if the decoder answers the allocator as it answered the mapper: for every buffer of
every allocation that succeeds, and every import of it. -/
theorem metadataAgrees_iff {para : DecoderPara} {pitches : ℕ} {bytes : List (BitVec 8)}
    {es : List Attempt} {bs : List AllocatedBuffer} {b : AllocatedBuffer}
    (hnode : ∀ e ∈ es, decoderReply e.node (info.toDescriptor flags) =
      decoderReply node (info.toDescriptor flags))
    (hbytes : createDescriptor info = .ok bytes)
    (halloc : allocate p flags (uninitialised para pitches) bytes es = .ok (.ok bs))
    (hb : b ∈ bs) (himport : IsImport hnd b) :
    MetadataAgrees p.caps node flags info hnd ↔ KeptByAllocation p node flags info := by
  have hl : info.layerCount ≠ 0#32 := by
    unfold createDescriptor at hbytes
    split_ifs at hbytes with hv
    simp only [validateDescriptorInfo, Bool.and_eq_true, bne_iff_ne] at hv
    exact hv.1.2
  obtain ⟨r, hr, hhandle, hmeta⟩ := isDerived_of_allocate hnode hbytes halloc b hb
  have hfresh : (info.toDescriptor flags).fresh = info.toDescriptor flags := rfl
  rw [hfresh] at hr
  have h : DerivedImport p node flags info r hnd :=
    ⟨hr, himport.handle.symm ▸ hhandle, himport.attr.trans (congrArg some hmeta)⟩
  have hf : hnd.allocFormat = r.allocFormat := by
    rw [h.eq_importOf]
    rfl
  rw [metadataAgrees_iff_values hr h.attr hf, h.valuesAgree_iff hl]

end

/-! ### A format with a siting -/

/-- 16 × 16 pixels of a format, for the GPU, by the name of `ui`. -/
def squareInfo (format : BitVec 32) : BufferDescriptorInfo where
  name := [117#8, 105#8]
  width := 16#32
  height := 16#32
  layerCount := 1#32
  format := format
  usage := 0x300#64
  reservedSize := 0#64

/-- The square in RGBA_8888. -/
def rgbaBuffer : AllocatedBuffer where
  buf :=
    { memory := .heap .systemUncached
      handle :=
        { DmaBuf.protectedSquareBuf.handle with
          consumerUsage := 0x300#64
          producerUsage := 0x300#64
          flags := 0#32
          usage := 0x300#32 } }
  metadata := .init [117#8, 105#8] dataspaceUnknown chromaSitingNone

/-- The square in NV21, whose chroma is sited between the samples of luma. -/
def nv21Buffer : AllocatedBuffer where
  buf :=
    { memory := .heap .systemUncached
      handle :=
        { rgbaBuffer.buf.handle with
          size := 768
          reqFormat := 0x11
          allocFormat := ⟨.unorm, 0x101#32, 0#32⟩
          planeInfo := (PlaneLayout.zero.set 0 ⟨0, 32, 16, 16⟩).set 1 ⟨512, 32, 8, 8⟩
          stride := 32
          isMultiPlane := true
          format := 0x11#32 } }
  metadata := .init [117#8, 105#8] 0#32 chromaSitingSitedInterstitial

def imported (b : AllocatedBuffer) : MetadataHandle :=
  { b.buf.handle.toPrivateHandle with
    shareFd := 3
    backingStoreId := 1#64
    attr := some b.metadata }

theorem isImport_imported (b : AllocatedBuffer) : IsImport (imported b) b := ⟨rfl, rfl⟩

/-- The metadata of the square in RGBA_8888. -/
theorem metadataAgrees_iff_rgba :
    MetadataAgrees .gpuOnly noDecoder DescriptorFlags.hwImpCamUsage (squareInfo 1#32)
        (imported rgbaBuffer) ↔
      KeptByAllocation .plain noDecoder DescriptorFlags.hwImpCamUsage (squareInfo 1#32) := by
  have hnode : ∀ e ∈ [Attempt.ofNode noDecoder],
      decoderReply e.node ((squareInfo 1#32).toDescriptor DescriptorFlags.hwImpCamUsage) =
        decoderReply noDecoder
          ((squareInfo 1#32).toDescriptor DescriptorFlags.hwImpCamUsage) := by
    simp [Attempt.ofNode]
  have halloc : allocate .plain DescriptorFlags.hwImpCamUsage (uninitialised .zero 0)
      (encodeBufferDescriptor (squareInfo 1#32)) [.ofNode noDecoder] = .ok (.ok [rgbaBuffer]) := by
    decide +kernel
  exact metadataAgrees_iff (p := .plain) hnode rfl halloc List.mem_cons_self
    (isImport_imported rgbaBuffer)

/-- **A buffer of NV21** is said to have a siting that is not known, and then has one. -/
theorem not_metadataAgrees_nv21 :
    createDescriptor (squareInfo 0x11#32) =
        .ok (encodeBufferDescriptor (squareInfo 0x11#32)) ∧
      allocate .plain DescriptorFlags.hwImpCamUsage (uninitialised .zero 0)
        (encodeBufferDescriptor (squareInfo 0x11#32)) [.ofNode noDecoder] =
        .ok (.ok [nv21Buffer]) ∧
      IsImport (imported nv21Buffer) nv21Buffer ∧
      ¬MetadataAgrees .gpuOnly noDecoder DescriptorFlags.hwImpCamUsage (squareInfo 0x11#32)
        (imported nv21Buffer) := by
  refine ⟨rfl, by decide +kernel, isImport_imported nv21Buffer, fun h => ?_⟩
  -- an encoder that writes the number of an enumeration
  let gralloc4 : Gralloc4
    | _, .extendable e => leBytes 8 e.value.toNat
    | _, _ => []
  obtain ⟨bytes, hpre, hpost⟩ := h gralloc4 (.standard .chromaSiting) (by decide)
  have hunknown : getFromBufferDescriptorInfo gralloc4 .gpuOnly noDecoder
      DescriptorFlags.hwImpCamUsage (squareInfo 0x11#32) (.standard .chromaSiting) =
        .ok (.ok (leBytes 8 1)) := by decide +kernel
  have hsited : get gralloc4 (imported nv21Buffer) (.standard .chromaSiting) =
      .ok (.ok (leBytes 8 2)) := by decide +kernel
  rw [hunknown] at hpre
  rw [hsited] at hpost
  cases hpre
  cases hpost

end Hidl

end Gralloc
