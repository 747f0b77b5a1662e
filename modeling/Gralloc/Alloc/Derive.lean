import Gralloc.Alloc.Size
import Gralloc.Format.Select

/-!
# From a descriptor to a layout

A buffer descriptor holds what a client requested and, once
`Gralloc.deriveFormatAndSize` has succeeded on it, what the buffer will look like: its
internal format, the layout of its planes, its pixel stride and its size.

The derivation has two halves. The first chooses a format and checks it, in exact
arithmetic throughout; its outcome is a `Gralloc.Choice`, which carries the checks it has
passed, so that the second half is only ever run on a format that exists, with an
allocation type that suits it. The second half (`Gralloc.Choice.sizing`) adjusts the
dimensions to the decoder's or the producer's alignment, sizes the planes and multiplies
by the number of layers, and is where machine arithmetic matters.

The parameters of a video decoder are read from a device node that is not part of this
code; the reply of the node for each slot is the parameter `node`.
-/

namespace Gralloc

open CInt

/-! ### Descriptors -/

/-- The parameters of a video decoder, as its device node reports them. -/
structure DecoderPara where
  width : BitVec 32
  height : BitVec 32
  wAlign : BitVec 32
  hAlign : BitVec 32
  size : BitVec 32
  compress : BitVec 32
  deriving DecidableEq, Repr

def DecoderPara.zero : DecoderPara := ⟨0, 0, 0, 0, 0, 0⟩

def DecoderPara.validWh (p : DecoderPara) : Bool :=
  p.width != 0#32 && p.height != 0#32 && p.wAlign != 0#32 && p.hAlign != 0#32

/-- Which of a decoder's parameters are in use. -/
inductive DecoderParaType where
  | none
  | wxh
  | size
  | both
  deriving DecidableEq, Repr

/-- A buffer descriptor: the request, then the values calculated from it. -/
structure BufferDescriptor where
  width : BitVec 32
  height : BitVec 32
  producerUsage : Usage
  consumerUsage : Usage
  halFormat : BitVec 64
  layerCount : BitVec 32
  flags : DescriptorFlags
  size : ℕ
  pixelStride : ℤ
  allocFormat : InternalFormat
  planeInfo : PlaneLayout
  decoderParaType : DecoderParaType
  decoderPara : DecoderPara
  pitches : ℕ
  deriving DecidableEq, Repr

/-- A request whose calculated fields were never written. -/
def BufferDescriptor.request (width height : BitVec 32) (usage : Usage) (halFormat : BitVec 64)
    (layerCount : BitVec 32) : BufferDescriptor where
  width := width
  height := height
  producerUsage := usage
  consumerUsage := usage
  halFormat := halFormat
  layerCount := layerCount
  flags := 0#32
  size := 0
  pixelStride := 0
  allocFormat := .invalid
  planeInfo := .zero
  decoderParaType := .none
  decoderPara := .zero
  pitches := 0

def BufferDescriptor.usage (d : BufferDescriptor) : Usage := d.producerUsage ||| d.consumerUsage

/-- The return values of the derivation. -/
inductive Status where
  | success
  | einval
  deriving DecidableEq, Repr

/-! ### Choosing a format -/

/-- **A format that passed every check**, with its properties and its allocation type. -/
structure Choice (usage : Usage) (height : BitVec 32) where
  format : InternalFormat
  info : FormatInfo
  allocType : AllocType
  info_eq : format.getBaseInfo = some info
  allocType_eq : getAllocType format usage = some allocType
  valid : validateFormat info allocType height = true

namespace Choice

variable {usage : Usage} {height : BitVec 32} (c : Choice usage height)

theorem info_mem : c.info ∈ formats := mem_formats_of_getFormatInfo c.info_eq

theorem info_wellFormed : c.info.WellFormed := wellFormed_of_mem_formats _ c.info_mem

theorem allocType_wellFormed : c.allocType.WellFormed c.info :=
  getAllocType_wellFormed c.info_eq c.info_wellFormed.npln_le c.allocType_eq

theorem blockLinear_of_isBlockLinear (h : c.allocType.isBlockLinear = true) :
    c.info.blockLinear = true := (supported_of_validateFormat c.valid).2.2.1 h

/-- The planes of an uncompressed format have bits. -/
theorem bpp_pos (ha : c.allocType.isAfbc ≠ true) (hr : c.allocType.isAfrc ≠ true) {i : ℕ}
    (hi : i < c.info.npln) : 0 < c.info.bpp.get i := by
  obtain ⟨-, -, hb, hl⟩ := supported_of_validateFormat c.valid
  have h : c.info.linear = true ∨ c.info.blockLinear = true := by
    by_cases hbl : c.allocType.isBlockLinear = true
    · exact Or.inr (hb hbl)
    · exact Or.inl (hl (AllocType.isLinear_iff.mpr ⟨ha, hr, hbl⟩))
  have := c.info_wellFormed.bpp_pos h i hi
  omega

theorem isAfbc_eq : c.allocType.isAfbc = c.format.isAfbc := isAfbc_of_getAllocType c.allocType_eq

/-- **The allocation type of an AFBC choice**, field by field from the modifiers. -/
theorem allocType_of_isAfbc (ha : c.allocType.isAfbc = true) :
    c.allocType =
        { primaryType := afbcPrimaryType c.format
          isMultiPlane := afbcIsMultiPlane c.info c.format
          isTiled := c.format.getAfbcTiledHeaders
          isPadded := usage.has Usage.afbcPadding
          isFrontbufferSafe := c.format.getAfbcTiledHeaders && c.format.getAfbcDoubleBody
          afrc := .none } ∧
      (c.format.getAfbc64x4 = true → c.format.getAfbcTiledHeaders = true) := by
  have h := c.allocType_eq
  rw [getAllocType, c.info_eq, Option.bind_some, if_pos (c.isAfbc_eq ▸ ha), getAfbcAllocType] at h
  split_ifs at h with h₁ h₂
  refine ⟨(Option.some.inj h).symm, fun h64 => ?_⟩
  simpa [h64] using h₁

/-- The planes of an AFBC choice are separate buffers exactly when there are several. -/
theorem isMultiPlane_of_isAfbc (ha : c.allocType.isAfbc = true) :
    c.allocType.isMultiPlane = decide (1 < c.info.npln) := by
  have hv := c.valid
  have hp := c.info_wellFormed.npln_pos
  simp only [validateFormat, ha, if_true, Bool.and_eq_true, Bool.not_eq_true',
    Bool.or_eq_false_iff] at hv
  obtain ⟨⟨⟨-, h₁, h₂⟩, -⟩, -⟩ := hv
  rcases Nat.lt_or_ge 1 c.info.npln with hn | hn
  · simpa [hn] using h₂
  · have : c.info.npln = 1 := le_antisymm hn hp
    simpa [this] using h₁

/-- Several planes under linear headers are not those of a YUV format. -/
theorem isYuv_of_linearHeaders (ha : c.allocType.isAfbc = true) (hn : 1 < c.info.npln)
    (ht : c.allocType.isTiled ≠ true) : c.info.isYuv = false := by
  obtain ⟨heq, -⟩ := c.allocType_of_isAfbc ha
  have hm := c.isMultiPlane_of_isAfbc ha
  rw [heq] at hm ht
  have htl : c.format.getAfbcTiledHeaders = false := Bool.eq_false_of_not_eq_true ht
  simpa [afbcIsMultiPlane, htl, hn] using hm

end Choice

/-- The checks on a selected format. -/
def chooseFormat (format : InternalFormat) (usage : Usage) (height : BitVec 32) :
    Option (Choice usage height) :=
  if format.isUndefined then none
  else
    match info_eq : format.getBaseInfo with
    | none => none
    | some info =>
      match allocType_eq : getAllocType format usage with
      | none => none
      | some allocType =>
        if valid : validateFormat info allocType height = true
        then some { format, info, allocType, info_eq, allocType_eq, valid }
        else none

/-- The first half of the derivation. -/
def choose (caps : Capabilities) (d : BufferDescriptor) : Option (Choice d.usage d.height) :=
  chooseFormat (selectFormat caps d.halFormat d.flags d.usage) d.usage d.height

theorem format_of_chooseFormat {format : InternalFormat} {usage : Usage} {height : BitVec 32}
    {c : Choice usage height} (h : chooseFormat format usage height = some c) :
    c.format = format := by
  unfold chooseFormat at h
  split_ifs at h
  split at h
  · cases h
  · split at h
    · cases h
    · split_ifs at h
      cases h
      rfl

/-- A choice is its format. -/
theorem chooseFormat_eq_some_iff {format : InternalFormat} {usage : Usage} {height : BitVec 32}
    {c : Choice usage height} :
    chooseFormat format usage height = some c ↔ format.isUndefined = false ∧ c.format = format := by
  constructor
  · intro h
    refine ⟨?_, format_of_chooseFormat h⟩
    unfold chooseFormat at h
    split_ifs at h with hu
    exact Bool.eq_false_of_not_eq_true hu
  · rintro ⟨hu, rfl⟩
    obtain ⟨format, info, allocType, hi, ht, hv⟩ := c
    unfold chooseFormat
    rw [if_neg (by simpa using hu)]
    split
    · next hi' => simp [hi'] at hi
    · next info' hi' =>
      obtain rfl : info' = info := Option.some.inj (hi'.symm.trans hi)
      split
      · next ht' => simp [ht'] at ht
      · next t' ht' =>
        obtain rfl : t' = allocType := Option.some.inj (ht'.symm.trans ht)
        rw [dif_pos hv]

/-- A choice keeps the selected format. -/
theorem format_of_choose {caps : Capabilities} {d : BufferDescriptor}
    {c : Choice d.usage d.height} (h : choose caps d = some c) :
    c.format = selectFormat caps d.halFormat d.flags d.usage := format_of_chooseFormat h

/-! ### Decoder parameters -/

/-- The reply of the decoder node for a slot. -/
def getParaFromNode (node : ℕ → Option DecoderPara) (slotId : ℕ) : Option DecoderPara :=
  if slotId < 32 then node slotId else none

/-- A node that answers no slot. -/
def noDecoder (_ : ℕ) : Option DecoderPara := none

/-- The decoder parameters a usage refers to. -/
def withDecoderPara (node : ℕ → Option DecoderPara) (d : BufferDescriptor) : BufferDescriptor :=
  -- of what an earlier derivation may have left, only the alignments are cleared
  let d := { d with decoderPara := { d.decoderPara with wAlign := 0#32, hAlign := 0#32 } }
  if d.usage.has Usage.usingSlot then
    match getParaFromNode node d.usage.decodeSlotId with
    | none => d
    | some p =>
      { d with
        decoderPara := p
        decoderParaType :=
          if p.size == 0#32 then (if p.validWh then .wxh else .none)
          else if p.validWh then .both
          else .size }
  else d

/-- The decoder aligns the dimensions itself. -/
def BufferDescriptor.hasDecoderAlign (d : BufferDescriptor) : Bool :=
  d.decoderPara.wAlign != 0#32 && d.decoderPara.hAlign != 0#32

/-! ### Dimensions -/

section

variable (A : Arith)

/-- The rows a video producer adds below a 4:2:0 AFBC buffer. -/
def videoPadding (format : InternalFormat) (usage : Usage) : ℕ :=
  let is420 := match format.getBaseInfo with
    | some f => f.isYuv && f.hsub == 2 && f.vsub == 2
    | none => false
  if (getProducers usage).contains Ip.vpu && format.isAfbc && is420 then
    if format.getAfbcTiledHeaders then 16 else 32
  else 0

/-- AFBC buffers written by the GPU are padded to its tiles. -/
def padsToGpuTile (format : InternalFormat) (usage : Usage) : Bool :=
  (getProducers usage).contains Ip.gpu && format.isAfbc

/-- The alignment of decoder buffers. -/
def alignForDecoder (usage : Usage) (width height : ℤ) : Run (ℤ × ℤ) := do
  let w ← A.alignI32 width 64
  let h ← stepIf (!usage.has Usage.consumerPrivate3) (A.alignI32 height 64) height
  .ok (w, h)

/-- The dimensions, adjusted for their producers and consumers. -/
def adjustDimensions (format : InternalFormat) (usage : Usage) (width height : ℤ) :
    Run (ℤ × ℤ) := do
  -- the padding comes first, so that it is rounded up with the rest
  let h ← A.i32 (height + videoPadding format usage)
  let w ← stepIf (padsToGpuTile format usage) (A.alignI32 width 16) width
  let h ← stepIf (padsToGpuTile format usage) (A.alignI32 h 16) h
  stepIf (usage.needDoWidthHeightAlign w h) (alignForDecoder A usage w h) (w, h)

/-- The alignment a decoder asks for. -/
def alignByDecoder (d : BufferDescriptor) (width height : ℤ) : Run (ℤ × ℤ) := do
  let w ← A.alignU32 width d.decoderPara.wAlign.toNat
  let w ← A.i32 w
  let h ← A.alignU32 height d.decoderPara.hAlign.toNat
  let h ← A.i32 h
  .ok (w, h)

/-- The dimensions to size, of a descriptor with its decoder parameters. -/
def allocDimensions (format : InternalFormat) (d : BufferDescriptor) : Run (ℤ × ℤ) := do
  let w ← A.i32 d.width.toNat
  let h ← A.i32 d.height.toNat
  if d.hasDecoderAlign then alignByDecoder A d w h else adjustDimensions A format d.usage w h

/-! ### Layers -/

/-- The alignment of an AFBC layer: that of a tiled header, or less. -/
def layerAlign (format : InternalFormat) : ℕ := if format.getAfbcTiledHeaders then 4096 else 128

/-- The size of all the layers. -/
def allLayers (format : InternalFormat) (layerCount : BitVec 32) (size : ℕ) : Run ℕ :=
  -- no layers at all are sized like one
  stepIf (1 < layerCount.toNat) (do
    let size ← stepIf format.isAfbc (A.alignU64 size (layerAlign format)) size
    A.u64 (size * layerCount.toNat : ℕ)) size

/-! ### The derivation -/

section Choice

variable {usage : Usage} {height : BitVec 32} (c : Choice usage height) (d : BufferDescriptor)

/-- The planes and the layers, at given dimensions. -/
def Choice.layout (onLuma : ℕ → Run ℤ) (wh : ℤ × ℤ) : Run SizeState := do
  let s ← calcAllocationSizeWith A c.info c.allocType usage onLuma wh.1 wh.2 d.planeInfo
  let size ← allLayers A c.format d.layerCount s.size
  .ok { s with size := size }

/-- One layer, at the adjusted dimensions. -/
def Choice.layer (onLuma : ℕ → Run ℤ) : Run SizeState := do
  let wh ← allocDimensions A c.format d
  calcAllocationSizeWith A c.info c.allocType usage onLuma wh.1 wh.2 d.planeInfo

/-- **The second half of the derivation**, up to the size. -/
def Choice.sizing (onLuma : ℕ → Run ℤ) : Run SizeState := do
  let s ← c.layer A d onLuma
  let size ← allLayers A c.format d.layerCount s.size
  .ok { s with size := size }

/-- The row of an AFRC buffer that a display driver is told. -/
def Choice.pitches (width : ℤ) : Run ℕ :=
  if c.format.isAfrc then do
    let bits ← A.i32 (width * c.info.bpp.p0)
    let pitches ← sdiv bits c.info.bps
    A.u32 pitches
  else .ok 0

end Choice

/-- **The derivation of format and size.** A descriptor is returned in every case; a
rejected one has had its format written. -/
def deriveFormatAndSize (caps : Capabilities) (node : ℕ → Option DecoderPara)
    (d : BufferDescriptor) : Run (Status × BufferDescriptor) :=
  let format := selectFormat caps d.halFormat d.flags d.usage
  match choose caps d with
  | none => .ok (.einval, { d with allocFormat := format })
  | some c => do
    let d := withDecoderPara node { d with allocFormat := format }
    let wh ← allocDimensions A c.format d
    let s ← c.layout A d (pixelStride A c.info) wh
    let pitches ← c.pitches A wh.1
    .ok (.success,
      { d with
        size := s.size
        pixelStride := s.pixelStride
        planeInfo := s.planeInfo
        pitches := pitches })

end

end Gralloc
