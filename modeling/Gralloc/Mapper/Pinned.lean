import Gralloc.Alloc.Fresh
import Gralloc.Format.Again
import Gralloc.Mapper.Drm

/-!
# The same buffer again

A layout depends on a request in two ways: through the format that is selected for it, and through
its dimensions, its usage and the reply of its decoder. The first way is the only one that the
features of a platform and the flags of an allocator go, and a private code cuts it off. So whoever
has the handle of a buffer can have a second one that is laid out in the same way, of any allocator
and whatever its features: with the request of the first, but for its format, which spells out what
the first was given (`Gralloc.bufferAllocate_pinned`).

A buffer that exists is none of the exceptions of `Gralloc.selectFormat_again_iff`, but for the type
of its data: the format that cannot be forced has no bits per pixel, and is never sized.
-/

namespace Gralloc

open CInt

/-! ### The derivation -/

section

variable {A : Arith} {caps caps' : Capabilities} {node : ℕ → Option DecoderPara}
  {d r : BufferDescriptor} {x : BitVec 64} {flags : DescriptorFlags} {t : FormatDataType}

/-- The descriptor with another type of data. -/
def BufferDescriptor.retyped (d : BufferDescriptor) (t : FormatDataType) : BufferDescriptor :=
  { d with allocFormat := { d.allocFormat with dataType := t } }

/-- The descriptor with another format requested, of an allocator with other flags. -/
def BufferDescriptor.asking (d : BufferDescriptor) (x : BitVec 64) (flags : DescriptorFlags) :
    BufferDescriptor :=
  { d with halFormat := x, flags := flags }

/-- A choice with another type of data. -/
def Choice.retyped {usage : Usage} {height : BitVec 32} (c : Choice usage height)
    (t : FormatDataType) : Choice usage height where
  format := { c.format with dataType := t }
  info := c.info
  allocType := c.allocType
  info_eq := c.info_eq
  allocType_eq := c.allocType_eq
  valid := c.valid

theorem prepared_asking
    (hsel : selectFormat caps' x flags d.usage =
      { selectFormat caps d.halFormat d.flags d.usage with dataType := t }) :
    prepared caps' node (d.asking x flags) =
      ((prepared caps node d).retyped t).asking x flags := by
  rcases hr : decoderReply node d with - | p
  · rw [prepared_of_none hr, prepared_of_none (d := d.asking x flags) hr]
    exact congrArg (fun format => { d.asking x flags with
      allocFormat := format
      decoderPara := { d.decoderPara with wAlign := 0#32, hAlign := 0#32 } }) hsel
  · rw [prepared_of_some hr, prepared_of_some (d := d.asking x flags) hr]
    exact congrArg (fun format => { d.asking x flags with
      allocFormat := format
      decoderPara := p
      decoderParaType := p.paraType }) hsel

/-- **A derivation reads the request through the selection**, and of what is selected not the type
of its data. -/
theorem deriveFormatAndSize_asking
    (hsel : selectFormat caps' x flags d.usage =
      { selectFormat caps d.halFormat d.flags d.usage with dataType := t })
    (hd : deriveFormatAndSize A caps node d = .ok (.success, r)) :
    deriveFormatAndSize A caps' node (d.asking x flags) =
      .ok (.success, (r.retyped t).asking x flags) := by
  obtain ⟨c, hc, wh, hwh, s, hs, size, hsize, pitches, hpitches, rfl⟩ :=
    deriveFormatAndSize_eq_success.mp hd
  obtain ⟨hdefined, hformat⟩ := chooseFormat_eq_some_iff.mp hc
  have hc' : choose caps' (d.asking x flags) = some (c.retyped t) := by
    refine chooseFormat_eq_some_iff.mpr ⟨?_, ?_⟩
    · exact (congrArg InternalFormat.isUndefined hsel).trans hdefined
    · refine Eq.trans ?_ hsel.symm
      rw [← hformat]
      rfl
  refine deriveFormatAndSize_eq_success.mpr
    ⟨c.retyped t, hc', wh, ?_, s, hs, size, hsize, pitches, hpitches, ?_⟩
  · rw [prepared_asking hsel]
    exact hwh
  · rw [prepared_asking hsel]
    rfl

end

/-! ### The handle -/

/-- The handle of the buffer that is asked for in another way. -/
def PrivateHandle.asking (hnd : PrivateHandle) (reqFormat : ℤ) (t : FormatDataType) :
    PrivateHandle :=
  { hnd with reqFormat := reqFormat, allocFormat := { hnd.allocFormat with dataType := t } }

section

variable {displays : Displays} {heap : ℕ → Bool} {caps caps' : Capabilities}
  {node : ℕ → Option DecoderPara} {d : BufferDescriptor} {hnd : PrivateHandle} {x : BitVec 64}
  {flags : DescriptorFlags} {t : FormatDataType}

/-- The size of a frame buffer is replaced whatever its format. -/
theorem finalDescriptor_asking (r : BufferDescriptor) :
    finalDescriptor wrapping displays ((r.retyped t).asking x flags) =
      (finalDescriptor wrapping displays r).map fun d => (d.retyped t).asking x flags := by
  have hreplaced : Replaced displays ((r.retyped t).asking x flags) ↔ Replaced displays r :=
    ⟨fun h => ⟨h.1, h.2, h.3, h.4⟩, fun h => ⟨h.1, h.2, h.3, h.4⟩⟩
  rw [finalDescriptor_wrapping, finalDescriptor_wrapping]
  by_cases h : Replaced displays r
  · rw [if_pos h, if_pos (hreplaced.mpr h)]
    rfl
  · rw [if_neg h, if_neg (mt hreplaced.mp h)]
    rfl

theorem makePrivateHandle_asking (r : BufferDescriptor) :
    makePrivateHandle ((r.retyped t).asking x flags) =
      (makePrivateHandle r).map fun hnd => hnd.asking (toInt x.toNat) t := by
  have hinfo : ((r.retyped t).asking x flags).allocFormat.getBaseInfo =
      r.allocFormat.getBaseInfo := rfl
  rw [makePrivateHandle, makePrivateHandle, hinfo]
  rcases r.allocFormat.getBaseInfo with - | f
  · rfl
  · simp only [Option.map_some, PrivateHandle.asking, BufferDescriptor.asking,
      BufferDescriptor.retyped]

theorem allocatorAllocate_asking (heap : ℕ → Bool) (x : BitVec 64) (flags : DescriptorFlags)
    (t : FormatDataType) (r : BufferDescriptor) :
    allocatorAllocate heap ((r.retyped t).asking x flags) =
      (allocatorAllocate heap r).map fun hnd => hnd.asking (toInt x.toNat) t := by
  have hsize : ((r.retyped t).asking x flags).size = r.size := rfl
  rw [allocatorAllocate, allocatorAllocate, hsize, makePrivateHandle_asking]
  split
  · rfl
  · rfl

/-- **An allocation reads the request through the selection**, but for what the handle repeats. -/
theorem bufferAllocate_asking
    (hsel : selectFormat caps' x flags d.usage =
      { selectFormat caps d.halFormat d.flags d.usage with dataType := t })
    (ha : bufferAllocate wrapping displays heap caps node d = .ok (some hnd)) :
    bufferAllocate wrapping displays heap caps' node (d.asking x flags) =
      .ok (some (hnd.asking (toInt x.toNat) t)) := by
  obtain ⟨⟨status, r⟩, hd, hrest⟩ := bind_eq_ok.mp ha
  rcases status with - | -
  · obtain ⟨final, hfinal, hheap⟩ := bind_eq_ok.mp hrest
    refine bind_eq_ok.mpr ⟨_, deriveFormatAndSize_asking hsel hd, ?_⟩
    dsimp only
    rw [finalDescriptor_asking, hfinal]
    have hmade : allocatorAllocate heap final = some hnd := Except.ok.inj hheap
    have hasked := allocatorAllocate_asking heap x flags t final
    rw [hmade] at hasked
    exact congrArg Except.ok hasked
  · cases hrest

/-- **The handles of two buffers that are laid out alike**, as their readers see them. -/
structure PrivateHandle.LaidOutAs (hnd hnd' : PrivateHandle) : Prop where
  size : hnd'.size = hnd.size
  width : hnd'.width = hnd.width
  height : hnd'.height = hnd.height
  layerCount : hnd'.layerCount = hnd.layerCount
  stride : hnd'.stride = hnd.stride
  planeInfo : hnd'.planeInfo = hnd.planeInfo
  numPlanes : hnd'.getNumPlanes = hnd.getNumPlanes
  baseInfo : hnd'.allocFormat.getBaseInfo = hnd.allocFormat.getBaseInfo
  modifiers : hnd'.allocFormat.modifiers = hnd.allocFormat.modifiers
  fourcc : drmFourccFromHandle hnd' = drmFourccFromHandle hnd
  modifier : drmModifierFromHandle hnd' = drmModifierFromHandle hnd

/-- Only readers of the type of the data see another handle. -/
theorem PrivateHandle.laidOutAs_asking (hnd : PrivateHandle) (reqFormat : ℤ) (t : FormatDataType) :
    hnd.LaidOutAs (hnd.asking reqFormat t) :=
  ⟨rfl, rfl, rfl, rfl, rfl, rfl, rfl, rfl, rfl, rfl, rfl⟩

/-- The format that cannot be forced has no bits per pixel. -/
theorem bpp_of_depthStencil :
    ∀ f ∈ formats, f.id = .depth24Stencil8Afbc → f.bpp.p0 = 0 := by
  decide

/-- **What a buffer was given** was selected, and is not the format that cannot be forced. -/
theorem selected_of_bufferAllocate
    (ha : bufferAllocate wrapping displays heap caps node d = .ok (some hnd)) :
    selectFormat caps d.halFormat d.flags d.usage = hnd.allocFormat ∧
      hnd.allocFormat.isUndefined = false ∧ ¬hnd.allocFormat.TiledDepthStencil := by
  obtain ⟨c, d', hc, hd, hformat, -⟩ := choose_of_bufferAllocate ha
  obtain ⟨hdefined, hselected⟩ := chooseFormat_eq_some_iff.mp hc
  rw [hformat, hselected]
  refine ⟨rfl, hdefined, ?_⟩
  rintro ⟨-, -, hbase⟩
  refine bpp_ne_zero_of_success hc hd (bpp_of_depthStencil c.info c.info_mem ?_)
  rw [← hbase, ← hselected]
  exact id_of_getFormatInfo c.info_eq

end

/-! ### A texture with tiled headers -/

/-- A texture for a GPU that has AFBC with tiled headers. -/
def tiledTexture : BufferDescriptor := .request 16#32 16#32 Usage.hwRender 1#64 1#32

/-- Its handle: a header of 4096 bytes, and a body of eight by eight superblocks. -/
def tiledTextureHandle : PrivateHandle where
  size := 69632
  consumerUsage := Usage.hwRender
  producerUsage := Usage.hwRender
  reqFormat := 1
  allocFormat := ⟨.unorm, .rgba8888, 0x6210000#32⟩
  width := 16
  height := 16
  layerCount := 1
  planeInfo := PlaneLayout.zero.set 0 ⟨0, 512, 128, 128⟩
  stride := 128
  isMultiPlane := false

end Gralloc
