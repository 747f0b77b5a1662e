import Gralloc.Heap.Batch
import Gralloc.Idl.Descriptor
import Gralloc.Mapper.Metadata

/-!
# Buffers with their metadata

The allocator writes the shared metadata of every buffer that it hands out
(`Gralloc.initSharedMetadata`): the name, the dataspace and the chroma siting, the last two
calculated from the format and the usage. The buffers of a batch are made from one
descriptor (`Gralloc.allocateBuffers`), which a client has sent (`Gralloc.Hidl.allocate`).

If the decoder gives one answer throughout, the buffers of a batch are all alike: each has
the handle and the metadata of a derivation of the request alone
(`Gralloc.isDerived_of_allocateBuffers`). What an earlier buffer left in the descriptor is
there, but not in the handle.
-/

namespace Gralloc

open CInt Mapper

/-! ### What is written -/

namespace Usage

def yuvColorSpaceBt601 : Usage := 1#64 <<< 49
def yuvColorSpaceBt709 : Usage := 1#64 <<< 48
def yuvColorSpaceBt2020 : Usage := yuvColorSpaceBt601 ||| yuvColorSpaceBt709
def yuvColorSpaceMask : Usage := yuvColorSpaceBt2020

def rangeNarrow : Usage := 1#64 <<< 51
def rangeWide : Usage := 1#64 <<< 50
def rangeMask : Usage := rangeNarrow ||| rangeWide

def chromaSitingCenter : Usage := 1#64 <<< 59
def chromaSitingCosited : Usage := 1#64 <<< 58
def chromaSitingCenterX : Usage := 1#64 <<< 57
def chromaSitingCenterY : Usage := chromaSitingCenter ||| chromaSitingCosited
def chromaSitingMask : Usage := chromaSitingCenter ||| chromaSitingCosited ||| chromaSitingCenterX

end Usage

/-- The standards that a usage may ask for: BT.601, BT.709 and BT.2020. -/
def usageColorSpaces : List (Usage × Dataspace) := [
  (.yuvColorSpaceBt601, 2#32 <<< 16),
  (.yuvColorSpaceBt709, 1#32 <<< 16),
  (.yuvColorSpaceBt2020, 6#32 <<< 16)]

/-- Limited and full range. -/
def usageRanges : List (Usage × Dataspace) := [
  (.rangeNarrow, 2#32 <<< 27),
  (.rangeWide, 1#32 <<< 27)]

/-- The dataspace of a format: that of its usage if it is YUV. -/
def getFormatDataspace (f : Option FormatInfo) (usage : Usage) : Dataspace :=
  match f with
  | none => dataspaceUnknown
  | some f =>
    if f.isYuv then
      (usageColorSpaces.lookup (usage &&& Usage.yuvColorSpaceMask)).getD 0#32 |||
        (usageRanges.lookup (usage &&& Usage.rangeMask)).getD 0#32
    else dataspaceUnknown

/-- The sitings that a usage may ask for. -/
def usageSitings : List (Usage × ExtendableType) := [
  (.chromaSitingCenter, chromaSitingSitedInterstitial),
  (.chromaSitingCenterX, chromaSitingCositedVertical),
  (.chromaSitingCenterY, chromaSitingCositedHorizontal),
  (.chromaSitingCosited, chromaSitingCositedBoth)]

/-- The sitings of the formats that have one. -/
def formatSitings : List (PixelFormat × ExtendableType) := [
  (.nv12, chromaSitingSitedInterstitial),
  (.nv15, chromaSitingSitedInterstitial),
  (.nv21, chromaSitingSitedInterstitial),
  (.p010, chromaSitingSitedInterstitial),
  (.yuv420_8bitI, chromaSitingSitedInterstitial),
  (.yuv420_10bitI, chromaSitingSitedInterstitial),
  (.y0l2, chromaSitingSitedInterstitial),
  (.y210, chromaSitingCositedVertical),
  (.p210, chromaSitingCositedVertical),
  (.nv16, chromaSitingCositedBoth),
  (.y410, chromaSitingCositedBoth),
  (.yuv444, chromaSitingCositedBoth),
  (.q410, chromaSitingCositedBoth),
  (.q401, chromaSitingCositedBoth),
  (.yuv422_8bit, chromaSitingCositedBoth)]

/-- The siting of a YUV format, if there is one for its usage or itself. -/
def yuvSiting (format : InternalFormat) (usage : Usage) : Option ExtendableType :=
  if usage &&& Usage.chromaSitingMask ≠ 0#64 then
    usageSitings.lookup (usage &&& Usage.chromaSitingMask)
  else formatSitings.lookup format.getBase

/-- **The chroma siting of a format.** -/
def getFormatChromaSiting (format : InternalFormat) (usage : Usage) : ExtendableType :=
  match format.getBaseInfo with
  | none => chromaSitingUnknown
  | some f =>
    if f.isYuv then (yuvSiting format usage).getD chromaSitingUnknown
    else if f.isRgb then chromaSitingNone
    else chromaSitingUnknown

/-- **The metadata of a new buffer**, whose name is read up to its first zero. -/
def initSharedMetadata (d : BufferDescriptor) (name : List (BitVec 8)) : SharedMetadata :=
  .init (cString name) (getFormatDataspace d.allocFormat.getBaseInfo d.usage)
    (getFormatChromaSiting d.allocFormat d.usage)

/-- The metadata of a buffer has the name that was read, if it fits. -/
theorem getName_initSharedMetadata_of_le {r : BufferDescriptor} {name : List (BitVec 8)}
    (h : (cString name).length ≤ nameSize) :
    (initSharedMetadata r name).getName = cString name := by
  change (List.take nameSize (cString name) ++ _).take
    (List.take nameSize (cString name)).length = _
  rw [List.take_left' rfl, List.take_of_length_le h]

/-! ### Batches -/

/-- A buffer, with the metadata behind it. -/
structure AllocatedBuffer where
  buf : DmaBuf
  metadata : SharedMetadata
  deriving DecidableEq, Repr

section

variable (p : Platform) (name : List (BitVec 8))

/-- **The buffers of a batch**, with their metadata. -/
def allocateBuffers : List Attempt → ℤ → BufferDescriptor →
    Run (BufferDescriptor × Except AllocError (List AllocatedBuffer))
  | [], _, d => .ok (d, .ok [])
  | e :: es, stride, d => do
    let (d, r) ← allocateOne p e stride d
    match r with
    | .error err => .ok (d, .error err)
    | .ok (b, stride) => do
      let buffer : AllocatedBuffer := ⟨b, initSharedMetadata d name⟩
      let (d, rest) ← allocateBuffers es stride d
      .ok (d, rest.map (buffer :: ·))

/-- Without their metadata they are the buffers of `Gralloc.allocateLoop`. -/
theorem allocateLoop_eq_map (es : List Attempt) (stride : ℤ) (d : BufferDescriptor) :
    allocateLoop p es stride d =
      (allocateBuffers p name es stride d).map fun r =>
        (r.1, r.2.map (List.map AllocatedBuffer.buf)) := by
  induction es generalizing stride d with
  | nil => rfl
  | cons e es ih =>
    simp only [allocateLoop, allocateBuffers, map_bind]
    refine bind_congr fun r => ?_
    rcases r with ⟨d, err | ⟨b, stride⟩⟩
    · rfl
    · simp only [ih]
      cases allocateBuffers p name es stride d with
      | error e => rfl
      | ok r => rcases r with ⟨d, _ | bs⟩ <;> rfl

end

/-! ### The buffers of a batch are alike -/

section

variable {p : Platform} {node : ℕ → Option DecoderPara} {e : Attempt} {d d' : BufferDescriptor}
  {b : DmaBuf}

/-- The number of planes of the format that is chosen, if one is. -/
def formatPlanes (caps : Capabilities) (d : BufferDescriptor) : ℕ :=
  (choose caps d).elim 3 fun c => c.info.npln

/-- The planes that the format does not have were never written. -/
def Unwritten (caps : Capabilities) (d : BufferDescriptor) : Prop :=
  ∀ i < 3, formatPlanes caps d ≤ i → d.planeInfo.get i = PlaneLayout.zero.get i

/-- A descriptor as the heap gets it: a frame buffer has its own size. -/
def BufferDescriptor.final (displays : Displays) (d : BufferDescriptor) : BufferDescriptor :=
  if Replaced displays d then { d with size := displays.budget } else d

/-- **A buffer is that of the request**: its handle and its metadata are those of a
derivation of a fresh descriptor. -/
def IsDerived (p : Platform) (node : ℕ → Option DecoderPara) (name : List (BitVec 8))
    (d : BufferDescriptor) (b : AllocatedBuffer) : Prop :=
  ∃ r, deriveFormatAndSize wrapping p.caps node d.fresh = .ok (.success, r) ∧
    makePrivateHandle (r.final p.displays) = some b.buf.handle.toPrivateHandle ∧
    b.metadata = initSharedMetadata r name

theorem formatPlanes_fresh (caps : Capabilities) (d : BufferDescriptor) :
    formatPlanes caps d.fresh = formatPlanes caps d := rfl

/-- Nothing but the size is replaced. -/
theorem final_eq (displays : Displays) (r : BufferDescriptor) :
    r.final displays = { r with size := (r.final displays).size } := by
  unfold BufferDescriptor.final
  split_ifs <;> rfl

/-- The size depends on the dimensions, the usage and the derived size. -/
theorem final_size_congr (displays : Displays) {r s : BufferDescriptor} (hu : r.usage = s.usage)
    (hw : r.width = s.width) (hh : r.height = s.height) (hs : r.size = s.size) :
    (r.final displays).size = (s.final displays).size := by
  have hiff : Replaced displays r ↔ Replaced displays s := by
    constructor
    · rintro ⟨h₁, h₂, h₃, h₄⟩
      exact ⟨hu ▸ h₁, hh ▸ h₂, hw ▸ h₃, hs ▸ h₄⟩
    · rintro ⟨h₁, h₂, h₃, h₄⟩
      exact ⟨hu ▸ h₁, hh ▸ h₂, hw ▸ h₃, hs ▸ h₄⟩
  by_cases hr : Replaced displays r
  · rw [BufferDescriptor.final, if_pos hr, BufferDescriptor.final, if_pos (hiff.mp hr)]
  · rw [BufferDescriptor.final, if_neg hr, BufferDescriptor.final, if_neg fun h => hr (hiff.mpr h),
      hs]

/-- Where nothing was written, nothing but the decoder's fields is put back. -/
theorem putBack_of_unwritten {caps : Capabilities} {c : Choice d.usage d.height}
    (hc : choose caps d = some c) (hd : Unwritten caps d) {r : Status × BufferDescriptor}
    (hr : deriveFormatAndSize wrapping caps node d.fresh = .ok r) :
    (prepared caps node d).putBack c.info.npln r.2 =
      { r.2 with
        decoderPara := (prepared caps node d).decoderPara
        decoderParaType := (prepared caps node d).decoderParaType } := by
  obtain ⟨-, -, hplanes⟩ := of_derive_fresh hc hr
  have hnpln : formatPlanes caps d = c.info.npln := by rw [formatPlanes, hc, Option.elim_some]
  have hsplice : r.2.planeInfo.splice c.info.npln d.planeInfo = r.2.planeInfo :=
    Planes.splice_eq_iff.mpr fun i hi hn => (hd i hi (hnpln ▸ hn)).trans (hplanes i hi hn).symm
  rw [BufferDescriptor.putBack, prepared_planeInfo, hsplice]

/-- **The allocation of one buffer**, from a descriptor with nothing written that the format
does not have: what is left in the descriptor differs from a fresh derivation in the
decoder's fields. -/
theorem derived_of_dmaBufAllocate (hd : Unwritten p.caps d)
    (h : DmaBuf.bufferAllocate p e d = .ok (d', some b)) :
    ∃ r para type, deriveFormatAndSize wrapping p.caps e.node d.fresh = .ok (.success, r) ∧
      makePrivateHandle (r.final p.displays) = some b.handle.toPrivateHandle ∧
      d' = { r with
        size := (r.final p.displays).size
        decoderPara := para
        decoderParaType := type } ∧
      Unwritten p.caps d' := by
  have hfresh : d'.fresh = d.fresh := DmaBuf.fresh_of_bufferAllocate h
  obtain ⟨⟨st, r'⟩, hr', h⟩ := bind_eq_ok.mp h
  cases st with
  | einval => cases h
  | success =>
    obtain ⟨c, hc, -⟩ := deriveFormatAndSize_eq_success.mp hr'
    obtain ⟨⟨st, r⟩, hr, hput⟩ := map_eq_ok.mp (deriveFormatAndSize_eq_map hc ▸ hr')
    obtain ⟨rfl, rfl⟩ := Prod.mk.inj hput
    have hplanes := (of_derive_fresh hc hr).2.2
    have hnpln : formatPlanes p.caps d = c.info.npln := by rw [formatPlanes, hc, Option.elim_some]
    obtain ⟨d'', hfinal, h⟩ := bind_eq_ok.mp h
    obtain ⟨o, ho, h⟩ := bind_eq_ok.mp h
    obtain ⟨rfl, hb⟩ := Prod.mk.inj (Except.ok.inj h)
    rw [putBack_of_unwritten hc hd hr, finalDescriptor_wrapping, Except.ok.injEq] at hfinal
    let left : BufferDescriptor := { r with
      decoderPara := (prepared p.caps e.node d).decoderPara
      decoderParaType := (prepared p.caps e.node d).decoderParaType }
    have hleft : d'' = { left with size := (r.final p.displays).size } := by
      have hfinal' : left.final p.displays = d'' := hfinal
      have hsize : (left.final p.displays).size = (r.final p.displays).size :=
        final_size_congr p.displays rfl rfl rfl rfl
      rw [← hfinal', final_eq, hsize]
    obtain ⟨got, -, hdesc⟩ := DmaBuf.obtained_of_allocatorAllocate ho hb
    refine ⟨r, _, _, hr, ?_, hleft, fun i hi hn => ?_⟩
    · -- the handle has none of the decoder's fields
      rw [← (DmaBuf.of_describeMemory hdesc).1, hleft, final_eq]
      rfl
    · rw [← formatPlanes_fresh, hfresh, formatPlanes_fresh, hnpln] at hn
      rw [hleft]
      exact hplanes i hi hn

/-- A batch that is allocated is a buffer, with the metadata of what the descriptor then is, and
a batch. -/
theorem of_allocateBuffers_cons {name : List (BitVec 8)} {es : List Attempt} {stride : ℤ}
    {bs : List AllocatedBuffer}
    (h : allocateBuffers p name (e :: es) stride d = .ok (d', .ok bs)) :
    ∃ d₁ b stride' bs', allocateOne p e stride d = .ok (d₁, .ok (b, stride')) ∧
      allocateBuffers p name es stride' d₁ = .ok (d', .ok bs') ∧
      bs = ⟨b, initSharedMetadata d₁ name⟩ :: bs' := by
  obtain ⟨⟨d₁, r⟩, hone, h⟩ := bind_eq_ok.mp h
  rcases r with err | ⟨b, stride'⟩
  · cases h
  · obtain ⟨⟨d₂, rest⟩, hrest, h⟩ := bind_eq_ok.mp h
    rcases rest with err | bs'
    · cases h
    · cases h
      exact ⟨d₁, b, stride', bs', hone, hrest, rfl⟩

/-- **The buffers of a batch are those of the request**, each with the reply that its decoder
gave, by induction on the batch: no buffer writes a plane that the format does not have. -/
theorem forall₂_isDerived {name : List (BitVec 8)} {es : List Attempt} {stride : ℤ}
    {bs : List AllocatedBuffer} (hd : Unwritten p.caps d)
    (h : allocateBuffers p name es stride d = .ok (d', .ok bs)) :
    List.Forall₂ (fun e b => IsDerived p e.node name d b) es bs := by
  induction es generalizing stride d bs with
  | nil =>
    cases h
    exact .nil
  | cons e es ih =>
    obtain ⟨d₁, b₁, stride', bs', hone, hrest, rfl⟩ := of_allocateBuffers_cons h
    have hbuf := bufferAllocate_of_allocateOne hone
    obtain ⟨r, para, type, hr, hhandle, hd₁, hun⟩ := derived_of_dmaBufAllocate hd hbuf
    refine .cons ⟨r, hr, hhandle, ?_⟩ ?_
    · -- the metadata is made of the derived format and the usage
      rw [hd₁]
      rfl
    · have hfresh : d₁.fresh = d.fresh := DmaBuf.fresh_of_bufferAllocate hbuf
      refine (ih hun hrest).imp ?_
      rintro e' b' ⟨r', hr', hrest'⟩
      exact ⟨r', hfresh ▸ hr', hrest'⟩

/-- Related lists have a partner for each of their members. -/
theorem exists_of_forall₂ {α β : Type} {R : α → β → Prop} {l : List α} {l' : List β}
    (h : List.Forall₂ R l l') :
    (∀ a ∈ l, ∃ b ∈ l', R a b) ∧ ∀ b ∈ l', ∃ a ∈ l, R a b := by
  induction h with
  | nil => simp
  | cons hab _ ih =>
    simp only [List.mem_cons, forall_eq_or_imp, exists_eq_or_imp]
    exact ⟨⟨.inl hab, fun a ha => .inr (ih.1 a ha)⟩, .inl hab, fun b hb => .inr (ih.2 b hb)⟩

/-- **Every buffer of a batch is that of the request**, if the decoder gives one reply. -/
theorem isDerived_of_allocateBuffers {name : List (BitVec 8)} {es : List Attempt} {stride : ℤ}
    {bs : List AllocatedBuffer} (hnode : ∀ e ∈ es, decoderReply e.node d = decoderReply node d)
    (hd : Unwritten p.caps d) (h : allocateBuffers p name es stride d = .ok (d', .ok bs)) :
    ∀ b ∈ bs, IsDerived p node name d b := by
  intro b hb
  obtain ⟨e, he, r, hr, hrest⟩ := (exists_of_forall₂ (forall₂_isDerived hd h)).2 b hb
  have hreply : decoderReply e.node d.fresh = decoderReply node d.fresh := hnode e he
  rw [deriveFormatAndSize_congr_node hreply] at hr
  exact ⟨r, hr, hrest⟩

end

/-! ### The interface -/

namespace Hidl

/-- The descriptor that the allocator decodes into: nothing is in it, but for the fields that
no initialiser clears. -/
def uninitialised (para : DecoderPara) (pitches : ℕ) : BufferDescriptor :=
  { BufferDescriptor.request 0#32 0#32 0#64 0#64 0#32 with
    decoderPara := para
    pitches := pitches }

/-- **The allocation of a batch** for a client: `bytes` are what the mapper encoded, and
`flags` belong to the service. -/
def allocate (p : Platform) (flags : DescriptorFlags) (d : BufferDescriptor)
    (bytes : List (BitVec 8)) (es : List Attempt) :
    Run (Except MapperError (List AllocatedBuffer)) :=
  match decodeBufferDescriptor bytes d with
  | none => .ok (.error .badDescriptor)
  | some r => do
    let result ← allocateBuffers p r.name es 0 { r.descriptor with flags := flags }
    .ok (match result.2 with
      | .ok bs => .ok bs
      | .error .noMemory => .error .noResources
      | .error .badValue => .error .unsupported)

/-- The bytes of a request, if it is one that may be encoded. -/
def createDescriptor (info : BufferDescriptorInfo) : Except MapperError (List (BitVec 8)) :=
  if validateDescriptorInfo info then .ok (encodeBufferDescriptor info) else .error .badValue

end Hidl

end Gralloc
