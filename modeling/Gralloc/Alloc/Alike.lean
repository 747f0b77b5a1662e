import Gralloc.Alloc.Fresh

/-!
# Usages that are read alike

Nothing but the number of a decoder slot is kept in bits 60 and 61 of a usage, and the bit
of a cursor matters less than it seems: where the bit of a sensor is set, permissions and
producers do not depend on it any more. Usages that differ in no other way are *read alike*
(`Gralloc.Usage.ReadAlike`).

Every test that the selection and the sizing make on a usage is made here on two of them,
up to the derivation as a whole (`Gralloc.deriveFormatAndSize_congr`): two requests whose
usages are read alike, and whose decoders answer alike, have the same outcome.
-/

namespace Gralloc

open CInt

namespace Usage

/-- The bits that are not read, or not always. -/
def hiddenBits : Usage := cursor ||| 1#64 <<< 60 ||| 1#64 <<< 61

/-- **Two usages that are read alike**. They differ in the cursor only where a sensor and a
quarter-size buffer are named as well. -/
structure ReadAlike (x y : Usage) : Prop where
  and_eq : x &&& ~~~hiddenBits = y &&& ~~~hiddenBits
  cursor : x &&& cursor = y &&& cursor ∨ x.getLsbD 23 = true ∧ x.getLsbD 30 = true

theorem and_congr {x y M m : Usage} (h : x &&& M = y &&& M) (hm : M &&& m = m) :
    x &&& m = y &&& m := by
  rw [← hm, ← BitVec.and_assoc, h, BitVec.and_assoc]

/-- A bit that is set in both words is found. -/
theorem has_of_getLsbD {x m : Usage} {n : ℕ} (hx : x.getLsbD n = true) (hm : m.getLsbD n = true) :
    x.has m = true := by
  rw [has, bne_iff_ne]
  intro h
  have hn : (x &&& m).getLsbD n = true := by rw [BitVec.getLsbD_and, hx, hm, Bool.and_self]
  rw [h] at hn
  simp at hn

/-- One bit that is set is all of its mask. -/
theorem hasAll_of_getLsbD {x : Usage} {n : ℕ} (hx : x.getLsbD n = true) :
    x.hasAll (1#64 <<< n) = true := by
  rw [hasAll, beq_iff_eq]
  refine BitVec.eq_of_getLsbD_eq fun i hi => ?_
  rw [BitVec.getLsbD_and]
  rcases eq_or_ne i n with rfl | hne
  · rw [hx, Bool.true_and]
  · have hi' : (1#64 <<< n).getLsbD i = false := by
      simp only [BitVec.getLsbD_shiftLeft, BitVec.getLsbD_one]
      grind
    rw [hi', Bool.and_false]

namespace ReadAlike

variable {x y : Usage} (h : ReadAlike x y)

include h

/-- A mask without the hidden bits finds the same. -/
theorem and_mask (m : Usage) (hm : ~~~hiddenBits &&& m = m) : x &&& m = y &&& m :=
  and_congr h.and_eq hm

theorem has_eq (m : Usage) (hm : ~~~hiddenBits &&& m = m) : x.has m = y.has m := by
  rw [has, has, h.and_mask m hm]

theorem hasAll_eq (m : Usage) (hm : ~~~hiddenBits &&& m = m) : x.hasAll m = y.hasAll m := by
  rw [hasAll, hasAll, h.and_mask m hm]

theorem getLsbD_eq {n : ℕ} (hn : (~~~hiddenBits).getLsbD n = true) :
    x.getLsbD n = y.getLsbD n := by
  have := congrArg (fun w : Usage => w.getLsbD n) h.and_eq
  simpa only [BitVec.getLsbD_and, hn, Bool.and_true] using this

/-- Either the cursor's bit is the same, or a sensor and a quarter are named in both. -/
theorem cases : (∀ m, ~~~(1#64 <<< 60 ||| 1#64 <<< 61) &&& m = m → x &&& m = y &&& m) ∨
    ((x.getLsbD 23 = true ∧ y.getLsbD 23 = true) ∧
      (x.getLsbD 30 = true ∧ y.getLsbD 30 = true)) := by
  rcases h.cursor with hc | ⟨h23, h30⟩
  · have heq : x &&& (~~~hiddenBits ||| Usage.cursor) = y &&& (~~~hiddenBits ||| Usage.cursor) := by
      rw [BitVec.and_or_distrib_left, BitVec.and_or_distrib_left, h.and_eq, hc]
    have hmask : ~~~hiddenBits ||| Usage.cursor = ~~~(1#64 <<< 60 ||| 1#64 <<< 61) := by decide
    exact Or.inl fun m hm => and_congr (hmask ▸ heq) hm
  · have hn := fun n hn => h.getLsbD_eq (n := n) hn
    exact Or.inr ⟨⟨h23, hn 23 (by decide) ▸ h23⟩, h30, hn 30 (by decide) ▸ h30⟩

/-! ### Tests -/

theorem hasCpu_eq : x.hasCpu = y.hasCpu := h.has_eq _ (by decide)

/-- A sensor is hardware, with or without a cursor. -/
theorem hasHw_eq : x.hasHw = y.hasHw := by
  rcases h.cases with hm | ⟨⟨hx, hy⟩, -⟩
  · rw [hasHw, hasHw, has, has, hm _ (by decide)]
  · exact (has_of_getLsbD hx (by decide)).trans (has_of_getLsbD hy (by decide)).symm

theorem isFrontbuffer_eq : x.isFrontbuffer = y.isFrontbuffer := by
  rw [isFrontbuffer, isFrontbuffer, h.has_eq _ (by decide), h.has_eq maliFrontbuffer (by decide),
    h.has_eq afrcLumaSentinel (by decide)]

theorem isNoAfbc_eq : x.isNoAfbc = y.isNoAfbc := by
  rw [isNoAfbc, isNoAfbc, h.hasAll_eq _ (by decide), h.has_eq _ (by decide)]

theorem isOmxMetadataExtend_eq : x.isOmxMetadataExtend = y.isOmxMetadataExtend := by
  rw [isOmxMetadataExtend, isOmxMetadataExtend, h.hasAll_eq _ (by decide), h.has_eq _ (by decide)]

theorem isOmxOsdExtend_eq : x.isOmxOsdExtend = y.isOmxOsdExtend := h.hasAll_eq _ (by decide)

theorem isVideoDecoderQuarter_eq : x.isVideoDecoderQuarter = y.isVideoDecoderQuarter := by
  rw [isVideoDecoderQuarter, isVideoDecoderQuarter, h.isOmxMetadataExtend_eq,
    h.hasAll_eq _ (by decide)]

theorem isVideoDecoderFull_eq : x.isVideoDecoderFull = y.isVideoDecoderFull := by
  rw [isVideoDecoderFull, isVideoDecoderFull, h.isOmxMetadataExtend_eq, h.hasAll_eq _ (by decide)]

theorem isVideoDecoderOsd_eq : x.isVideoDecoderOsd = y.isVideoDecoderOsd := by
  rw [isVideoDecoderOsd, isVideoDecoderOsd, h.isOmxOsdExtend_eq, h.hasAll_eq _ (by decide)]

theorem isVideoDecoderReplace_eq : x.isVideoDecoderReplace = y.isVideoDecoderReplace := by
  rw [isVideoDecoderReplace, isVideoDecoderReplace, h.isOmxMetadataExtend_eq,
    h.hasAll_eq _ (by decide)]

/-- One-sixteenth buffers are told apart only where full-size and quarter-size ones are named
as well. -/
theorem isVideoDecoderOneSixteenth_cases :
    x.isVideoDecoderOneSixteenth = y.isVideoDecoderOneSixteenth ∨
      y.isVideoDecoderFull = true ∧ y.isVideoDecoderQuarter = true := by
  cases ho : y.isOmxMetadataExtend with
  | false =>
    refine Or.inl ?_
    rw [isVideoDecoderOneSixteenth, isVideoDecoderOneSixteenth, h.isOmxMetadataExtend_eq, ho,
      Bool.false_and, Bool.false_and]
  | true =>
    rcases h.cases with hm | ⟨⟨-, hy⟩, -, hy'⟩
    · refine Or.inl ?_
      rw [isVideoDecoderOneSixteenth, isVideoDecoderOneSixteenth, h.isOmxMetadataExtend_eq,
        hasAll, hasAll, hm _ (by decide)]
    · refine Or.inr ⟨?_, ?_⟩
      · rw [isVideoDecoderFull, ho, Bool.true_and]
        exact hasAll_of_getLsbD hy
      · rw [isVideoDecoderQuarter, ho, Bool.true_and]
        exact hasAll_of_getLsbD hy'

theorem needDoWidthHeightAlign_eq (width height : ℤ) :
    x.needDoWidthHeightAlign width height = y.needDoWidthHeightAlign width height := by
  rw [needDoWidthHeightAlign, needDoWidthHeightAlign, h.isOmxOsdExtend_eq, h.isVideoDecoderFull_eq,
    h.isVideoDecoderOsd_eq]

/-! ### Producers and consumers -/

theorem has_ipUsage (m : Usage)
    (hm : ~~~hiddenBits &&& (~~~privateMask &&& ~~~protectedContent &&& m) =
      ~~~privateMask &&& ~~~protectedContent &&& m) :
    (ipUsage x).has m = (ipUsage y).has m := by
  simp only [has, ipUsage, BitVec.and_assoc] at hm ⊢
  rw [h.and_mask _ hm]

theorem hasAll_ipUsage (m : Usage)
    (hm : ~~~hiddenBits &&& (~~~privateMask &&& ~~~protectedContent &&& m) =
      ~~~privateMask &&& ~~~protectedContent &&& m) :
    (ipUsage x).hasAll m = (ipUsage y).hasAll m := by
  simp only [hasAll, ipUsage, BitVec.and_assoc] at hm ⊢
  rw [h.and_mask _ hm]

/-- A word with a sensor is not composition alone, whether it has a cursor or not. -/
theorem ipUsage_beq_hwComposer :
    (ipUsage x == hwComposer) = (ipUsage y == hwComposer) := by
  rcases h.cases with hm | ⟨⟨hx, hy⟩, -⟩
  · rw [ipUsage, ipUsage, BitVec.and_assoc, BitVec.and_assoc, hm _ (by decide)]
  · have hne : ∀ w : Usage, w.getLsbD 23 = true → (ipUsage w == hwComposer) = false := by
      intro w hw
      rw [beq_eq_false_iff_ne]
      intro he
      have h23 : (ipUsage w).getLsbD 23 = true := by
        rw [ipUsage, BitVec.getLsbD_and, BitVec.getLsbD_and, hw]
        decide
      rw [he] at h23
      exact absurd h23 (by decide)
    rw [hne x hx, hne y hy]

theorem getProducers_eq : getProducers x = getProducers y := by
  simp only [getProducers, h.ipUsage_beq_hwComposer, h.has_ipUsage swWriteMask (by decide),
    h.hasAll_ipUsage decoder (by decide),
    h.hasAll_ipUsage (hwComposer ||| hwVideoEncoder) (by decide),
    h.has_ipUsage (hwRender ||| gpuDataBuffer) (by decide),
    h.has_ipUsage hwCameraWrite (by decide)]

theorem getConsumers_eq : getConsumers x = getConsumers y := by
  simp only [getConsumers, h.ipUsage_beq_hwComposer, h.has_ipUsage swReadMask (by decide),
    h.has_ipUsage hwFb (by decide), h.has_ipUsage hwVideoEncoder (by decide),
    h.hasAll_ipUsage (hwTexture ||| hwComposer) (by decide),
    h.has_ipUsage (hwTexture ||| gpuDataBuffer) (by decide),
    h.has_ipUsage (hwCameraRead ||| sensorDirectData) (by decide),
    h.has_ipUsage hwComposer (by decide)]

end ReadAlike

end Usage

/-! ### Selection -/

/-- The bits of a usage that are not permitted make the test fail. -/
theorem or_and_bne (p x v : Usage) :
    ((p ||| x) &&& ~~~v != p &&& ~~~v) = x.has (~~~v &&& ~~~p) := by
  rw [Bool.eq_iff_iff, bne_iff_ne, Usage.has, bne_iff_ne, not_iff_not,
    BitVec.eq_of_getLsbD_eq_iff, BitVec.eq_of_getLsbD_eq_iff]
  refine forall₂_congr fun i hi => ?_
  simp only [BitVec.getLsbD_and, BitVec.getLsbD_or, BitVec.getLsbD_not, hi]
  cases p.getLsbD i <;> cases x.getLsbD i <;> cases v.getLsbD i <;> simp

/-- A format that permits a sensor permits a cursor. -/
theorem denied_of_mem_formats : ∀ f ∈ formats,
    (~~~Usage.vendorUsage &&& ~~~f.permittedUsage).getLsbD 23 = true ∨
      ~~~Usage.hiddenBits &&& (~~~Usage.vendorUsage &&& ~~~f.permittedUsage) =
        ~~~Usage.vendorUsage &&& ~~~f.permittedUsage := by
  decide +kernel

section

variable {x y : Usage} (h : Usage.ReadAlike x y) (caps : Capabilities)

include h

/-- **Usages that are read alike are permitted alike.** -/
theorem permitted_congr {f : FormatInfo} (hf : f ∈ formats) :
    ((f.permittedUsage ||| x) &&& ~~~Usage.vendorUsage !=
        f.permittedUsage &&& ~~~Usage.vendorUsage) =
      ((f.permittedUsage ||| y) &&& ~~~Usage.vendorUsage !=
        f.permittedUsage &&& ~~~Usage.vendorUsage) := by
  rw [or_and_bne, or_and_bne]
  rcases h.cases with hm | ⟨⟨hx, hy⟩, -⟩
  · refine congrArg (fun w => w != 0#64) (hm _ ?_)
    rw [← BitVec.and_assoc]
    exact congrArg (· &&& _) (by decide)
  · rcases denied_of_mem_formats f hf with hd | hd
    · exact (Usage.has_of_getLsbD hx hd).trans (Usage.has_of_getLsbD hy hd).symm
    · exact h.has_eq _ hd

theorem getAllocType_congr (format : InternalFormat) :
    getAllocType format x = getAllocType format y := by
  simp only [getAllocType, getAfbcAllocType, h.has_eq Usage.afbcPadding (by decide)]

theorem isFormatSupported_congr (f : FormatInfo) (ip : FormatIpSupport) (producers consumers : Ip) :
    isFormatSupported caps f ip x producers consumers =
      isFormatSupported caps f ip y producers consumers := by
  have husage (flags : SupportFlags) :
      usageSupportsBaseFormat x flags = usageSupportsBaseFormat y flags := by
    rw [usageSupportsBaseFormat, usageSupportsBaseFormat, h.has_eq _ (by decide)]
  have hafbc (flags : SupportFlags) :
      restrictAfbc caps f x producers consumers flags =
        restrictAfbc caps f y producers consumers flags := by
    rw [restrictAfbc, restrictAfbc, h.isFrontbuffer_eq]
  rw [isFormatSupported, isFormatSupported, husage, hafbc]

theorem getAfrcFormat_congr (f : FormatInfo) (producers consumers : Ip) :
    getAfrcFormat caps f x producers consumers = getAfrcFormat caps f y producers consumers := by
  simp only [getAfrcFormat, afrcLumaCodingSize, afrcChromaCodingSize,
    h.and_mask Usage.afrcLumaMask (by decide), h.and_mask Usage.afrcChromaMask (by decide),
    h.has_eq Usage.afrcChromaMask (by decide)]

theorem getAfbcFormat_congr (f : FormatInfo) (producers consumers : Ip) :
    getAfbcFormat caps f x producers consumers = getAfbcFormat caps f y producers consumers := by
  simp only [getAfbcFormat, h.isFrontbuffer_eq]

theorem getSupportedFormat_congr (f : FormatInfo) (producers consumers : Ip)
    (flags : DescriptorFlags) :
    getSupportedFormat caps f x producers consumers flags =
      getSupportedFormat caps f y producers consumers flags := by
  simp only [getSupportedFormat, isFormatSupported_congr h, getAfrcFormat_congr h,
    getAfbcFormat_congr h, getAllocType_congr h, h.isNoAfbc_eq, h.has_eq Usage.hwFb (by decide)]

theorem getBestFormat_congr (req : FormatInfo) (producers consumers : Ip)
    (flags : DescriptorFlags) :
    getBestFormat caps req x producers consumers flags =
      getBestFormat caps req y producers consumers flags := by
  have hstep : BestFormat.step caps x producers consumers flags req =
      BestFormat.step caps y producers consumers flags req := by
    funext b f
    rw [BestFormat.step, BestFormat.step, getSupportedFormat_congr h]
  rw [getBestFormat, getBestFormat, hstep]

theorem selectBestFormat_congr (reqFormat : BitVec 32) (flags : DescriptorFlags) :
    selectBestFormat caps reqFormat flags x = selectBestFormat caps reqFormat flags y := by
  have hreq : getInternalFormatWithUsage reqFormat x flags =
      getInternalFormatWithUsage reqFormat y flags := by
    rw [getInternalFormatWithUsage, getInternalFormatWithUsage, h.has_eq _ (by decide)]
  simp only [selectBestFormat, hreq]
  cases hf : getFormatInfo (getInternalFormatWithUsage reqFormat y flags) with
  | none => rfl
  | some f =>
    simp only [permitted_congr h (mem_formats_of_getFormatInfo hf), h.getProducers_eq,
      h.getConsumers_eq, h.isNoAfbc_eq, h.hasCpu_eq, h.has_eq Usage.gpuDataBuffer (by decide),
      h.has_eq Usage.frontbuffer (by decide), h.has_eq Usage.hwFb (by decide),
      getBestFormat_congr h]

/-- **The same format is selected.** -/
theorem selectFormat_congr (halFormat : BitVec 64) (flags : DescriptorFlags) :
    selectFormat caps halFormat flags x = selectFormat caps halFormat flags y := by
  rw [selectFormat, selectFormat, h.has_eq (~~~Usage.validUsage) (by decide),
    selectBestFormat_congr h]

/-! ### Sizing -/

theorem sizePlanes_congr (A : Arith) (f : FormatInfo) (t : AllocType) (onLuma : ℕ → Run ℤ)
    (width height : ℤ) (s : SizeState) (n : ℕ) :
    sizePlanes A f t x onLuma width height s n = sizePlanes A f t y onLuma width height s n := by
  have halign (plane : ℕ) : strideAlign A f x plane = strideAlign A f y plane := by
    rw [strideAlign, strideAlign, h.hasHw_eq, h.hasCpu_eq]
  have hshared : isSharedYv12 f x = isSharedYv12 f y := by
    rw [isSharedYv12, isSharedYv12, h.hasHw_eq, h.hasCpu_eq]
  have hlinear (plane width lumaStride : ℕ) :
      linearByteStride A f x plane width lumaStride =
        linearByteStride A f y plane width lumaStride := by
    rw [linearByteStride, linearByteStride, halign, hshared]
  have hstride (plane : ℕ) (planeInfo : PlaneLayout) :
      byteStride A f t x plane planeInfo = byteStride A f t y plane planeInfo := by
    rw [byteStride, byteStride, hlinear]
  induction n with
  | zero => rfl
  | succ n ih => simp only [sizePlanes, sizePlane, ih, hstride, h.hasCpu_eq]

theorem adjustDimensions_congr (A : Arith) (format : InternalFormat) (width height : ℤ) :
    adjustDimensions A format x width height = adjustDimensions A format y width height := by
  have hpad : videoPadding format x = videoPadding format y := by
    rw [videoPadding, videoPadding, h.getProducers_eq]
  have htile : padsToGpuTile format x = padsToGpuTile format y := by
    rw [padsToGpuTile, padsToGpuTile, h.getProducers_eq]
  have hneed : x.needDoWidthHeightAlign = y.needDoWidthHeightAlign := by
    funext w h'
    exact h.needDoWidthHeightAlign_eq w h'
  have hdecoder : alignForDecoder A x = alignForDecoder A y := by
    funext w h'
    rw [alignForDecoder, alignForDecoder, h.has_eq _ (by decide)]
  rw [adjustDimensions, adjustDimensions, hpad, htile, hneed, hdecoder]

/-- A choice for one usage is a choice for the other. -/
def Choice.forUsage {height : BitVec 32} (c : Choice x height) : Choice y height where
  format := c.format
  info := c.info
  allocType := c.allocType
  info_eq := c.info_eq
  allocType_eq := getAllocType_congr h c.format ▸ c.allocType_eq
  valid := c.valid

end

theorem chooseFormat_congr {x y : Usage} (h : Usage.ReadAlike x y) (format : InternalFormat)
    (height : BitVec 32) :
    chooseFormat format y height =
      (chooseFormat format x height).map (Choice.forUsage h) := by
  refine Option.ext fun c => ?_
  rw [Option.map_eq_some_iff]
  constructor
  · intro hc
    obtain ⟨hu, rfl⟩ := chooseFormat_eq_some_iff.mp hc
    let c' : Choice x height :=
      { c with allocType_eq := getAllocType_congr h c.format ▸ c.allocType_eq }
    exact ⟨c', chooseFormat_eq_some_iff.mpr ⟨hu, rfl⟩, rfl⟩
  · rintro ⟨c', hc, rfl⟩
    obtain ⟨hu, hf⟩ := chooseFormat_eq_some_iff.mp hc
    exact chooseFormat_eq_some_iff.mpr ⟨hu, hf⟩

/-! ### Derivation -/

/-- The same request for another usage. -/
def BufferDescriptor.withUsage (d : BufferDescriptor) (u : Usage) : BufferDescriptor :=
  { d with producerUsage := u, consumerUsage := u }

@[simp] theorem BufferDescriptor.usage_withUsage (d : BufferDescriptor) (u : Usage) :
    (d.withUsage u).usage = u := BitVec.or_self

section

variable {d : BufferDescriptor} {u : Usage}

/-- What the derivation prepares, for a decoder that answers both usages alike. -/
theorem prepared_withUsage (caps : Capabilities) {node : ℕ → Option DecoderPara}
    (h : Usage.ReadAlike d.usage (d.withUsage u).usage)
    (hn : decoderReply node d = decoderReply node (d.withUsage u)) :
    prepared caps node (d.withUsage u) = (prepared caps node d).withUsage u := by
  have hsel : selectFormat caps (d.withUsage u).halFormat (d.withUsage u).flags
      (d.withUsage u).usage = selectFormat caps d.halFormat d.flags d.usage :=
    (selectFormat_congr h caps _ _).symm
  cases hr : decoderReply node d with
  | none => rw [prepared_of_none hr, prepared_of_none (hn.symm.trans hr), hsel]; rfl
  | some p => rw [prepared_of_some hr, prepared_of_some (hn.symm.trans hr), hsel]; rfl

theorem allocDimensions_withUsage (A : Arith) (format : InternalFormat) {r : BufferDescriptor}
    (h : Usage.ReadAlike r.usage (r.withUsage u).usage) :
    allocDimensions A format (r.withUsage u) = allocDimensions A format r := by
  have hadjust : adjustDimensions A format (r.withUsage u).usage =
      adjustDimensions A format r.usage := by
    funext w h'
    exact (adjustDimensions_congr h A format w h').symm
  unfold allocDimensions
  rw [hadjust]
  rfl

/-- **The derivation reads a usage no closer**: for one that is read alike, and whose decoder
answers alike, it does the same. -/
theorem deriveFormatAndSize_congr (A : Arith) (caps : Capabilities) {node : ℕ → Option DecoderPara}
    (h : Usage.ReadAlike d.usage (d.withUsage u).usage)
    (hn : decoderReply node d = decoderReply node (d.withUsage u)) :
    deriveFormatAndSize A caps node (d.withUsage u) =
      (deriveFormatAndSize A caps node d).map fun r => (r.1, r.2.withUsage u) := by
  have hsel : selectFormat caps (d.withUsage u).halFormat (d.withUsage u).flags
      (d.withUsage u).usage = selectFormat caps d.halFormat d.flags d.usage :=
    (selectFormat_congr h caps _ _).symm
  have hchoose : choose caps (d.withUsage u) = (choose caps d).map (Choice.forUsage h) := by
    rw [choose, choose, hsel]
    exact chooseFormat_congr h _ _
  cases hc : choose caps d with
  | none =>
    rw [hc, Option.map_none] at hchoose
    simp only [deriveFormatAndSize, hc, hchoose, hsel]
    rfl
  | some c =>
    obtain ⟨c', hc', hformat, hinfo, htype⟩ :
        ∃ c' : Choice (d.withUsage u).usage (d.withUsage u).height,
          choose caps (d.withUsage u) = some c' ∧ c'.format = c.format ∧ c'.info = c.info ∧
            c'.allocType = c.allocType := by
      rw [hc, Option.map_some] at hchoose
      exact ⟨_, hchoose, rfl, rfl, rfl⟩
    have husage : Usage.ReadAlike (prepared caps node d).usage
        ((prepared caps node d).withUsage u).usage := by
      rw [prepared_usage, BufferDescriptor.usage_withUsage]
      rwa [BufferDescriptor.usage_withUsage] at h
    have hlayout (wh : ℤ × ℤ) :
        c'.layout A ((prepared caps node d).withUsage u) (Gralloc.pixelStride A c.info) wh =
          c.layout A (prepared caps node d) (Gralloc.pixelStride A c.info) wh := by
      unfold Choice.layout calcAllocationSizeWith
      rw [hformat, hinfo, htype, ← sizePlanes_congr h]
      rfl
    have hpitches (w : ℤ) : c'.pitches A w = c.pitches A w := by
      rw [Choice.pitches, Choice.pitches, hformat, hinfo]
    rw [deriveFormatAndSize_of_choose hc, deriveFormatAndSize_of_choose hc',
      prepared_withUsage caps h hn, hformat, hinfo, allocDimensions_withUsage A _ husage]
    simp only [map_bind, hlayout, hpitches]
    rfl

end

end Gralloc
