import Gralloc.Alloc.Derive

/-!
# The dma-buf heap of a request

Memory comes from one of seven dma-buf heaps (`Gralloc.DmaBufHeap`), and the usage of a
request decides from which: protected content, frame buffers, and what the camera or the
video blocks touch each have theirs; what the display composes may be given contiguous
memory; the rest is system memory, cached or not (`Gralloc.pickDmaBufHeap`).

The heap in turn decides what the handle says about the memory (`Gralloc.setBufferFlags`).
The two are separate functions, called one after the other, before any memory was asked
for. What a bit of the result says of the heap and the usage is collected here, one
equation a bit (`Gralloc.setBufferFlags_has_coherent`, `Gralloc.setBufferFlags_has_secure`).

How a product is built is a parameter, `Gralloc.HeapConfig`.
-/

namespace Gralloc

/-! ### Heaps -/

inductive DmaBufHeap where
  | system
  | systemUncached
  | protectedMemory
  | physicallyContiguousGfx
  | physicallyContiguousFb
  | physicallyContiguousCodecMm
  | physicallyContiguousCodecMmUncached
  deriving DecidableEq, Repr

namespace DmaBufHeap

/-- The name of a heap in the device tree. -/
def name : DmaBufHeap → String
  | system => "system"
  | systemUncached => "system-uncached"
  | protectedMemory => "heap-secure"
  | physicallyContiguousGfx => "heap-gfx"
  | physicallyContiguousFb => "heap-fb"
  | physicallyContiguousCodecMm => "heap-cached-codecmm"
  | physicallyContiguousCodecMmUncached => "heap-codecmm"

/-- The heaps of ordinary system memory. -/
def IsSystem (h : DmaBufHeap) : Prop := h = system ∨ h = systemUncached

instance (h : DmaBufHeap) : Decidable h.IsSystem := inferInstanceAs (Decidable (_ ∨ _))

/-- The heaps of the video codec. -/
def IsCodecMm (h : DmaBufHeap) : Prop :=
  h = physicallyContiguousCodecMm ∨ h = physicallyContiguousCodecMmUncached

instance (h : DmaBufHeap) : Decidable h.IsCodecMm := inferInstanceAs (Decidable (_ ∨ _))

/-- The heaps of contiguous memory: neither the system's nor the protected one. -/
def IsContiguous (h : DmaBufHeap) : Prop := ¬h.IsSystem ∧ h ≠ protectedMemory

instance (h : DmaBufHeap) : Decidable h.IsContiguous := inferInstanceAs (Decidable (_ ∧ _))

end DmaBufHeap

/-- How the heaps of a product are configured. -/
structure HeapConfig where
  /-- The display composes from contiguous memory. -/
  contiguousDisplay : Bool
  boardResolutionRatio : ℕ
  /-- The three buffers of a layer are kept in one heap. -/
  allocFromSameHeap : Bool
  /-- Protected memory is not replaced by system memory. -/
  heapSecureDonotFallback : Bool
  deriving DecidableEq, Repr

/-- The configuration of a plain build. -/
def HeapConfig.default : HeapConfig where
  contiguousDisplay := false
  boardResolutionRatio := 1080
  allocFromSameHeap := false
  heapSecureDonotFallback := false

/-- The largest buffer that is composed from contiguous memory. -/
def HeapConfig.maxComposerBuf (cfg : HeapConfig) : BitVec 32 × BitVec 32 :=
  if cfg.boardResolutionRatio = 720 then (1280#32, 720#32)
  else if cfg.boardResolutionRatio = 2160 then (3840#32, 2160#32)
  else (1920#32, 1080#32)

/-! ### Choosing a heap -/

/-- The framework's YUV and raw formats, and those it does not describe. -/
def androidYuvFormats : List PixelFormat := [
  Hal.yv12, Hal.y8, Hal.y16, Hal.ycbcr420_888, Hal.ycbcr422_888, Hal.ycbcr444_888,
  Hal.ycrcb420Sp, Hal.ycbcr422Sp, Hal.ycbcr422I, Hal.raw16, Hal.raw12, Hal.raw10,
  Hal.rawOpaque, Hal.blob, Hal.implementationDefined, Hal.ycbcrP010]

def isAndroidYuvFormat (reqFormat : PixelFormat) : Bool := androidYuvFormats.contains reqFormat

/-- The requested format, as the `int` that is tested. -/
def BufferDescriptor.isAndroidYuv (d : BufferDescriptor) : Bool :=
  isAndroidYuvFormat (d.halFormat.setWidth 32)

section

variable (cfg : HeapConfig) (layerOnGfx : Bool)

/-- Contiguous memory for the display. Where layers are kept in one heap, `layerOnGfx` is
what the bookkeeping says of the layer at hand. -/
def pickHeapGfx (usage : Usage) : Bool :=
  if usage.hasCpu then false
  else if cfg.allocFromSameHeap then layerOnGfx
  else true

/-- The request is composed by the display, and small enough for contiguous memory. -/
def usesComposerHeap (d : BufferDescriptor) (usage : Usage) : Bool :=
  let (w, h) := cfg.maxComposerBuf
  cfg.contiguousDisplay && usage.has Usage.hwComposer &&
    (if cfg.allocFromSameHeap then d.width == w && d.height == h
     else decide (d.width ≤ w) && decide (d.height ≤ h)) &&
    !d.isAndroidYuv

/-- **The heap of a request**. -/
def pickDmaBufHeap (d : BufferDescriptor) (usage : Usage) : DmaBufHeap :=
  if usage.has Usage.protectedContent then
    if d.isAndroidYuv then .physicallyContiguousCodecMm else .protectedMemory
  else if usage.has Usage.hwFb then .physicallyContiguousFb
  else if usage.isOmxOsdExtend || usage.has Usage.hwCameraWrite || usage.has Usage.hwVideoEncoder
  then
    if usage.hasCpu then .physicallyContiguousCodecMm else .physicallyContiguousCodecMmUncached
  else if usesComposerHeap cfg d usage then
    if pickHeapGfx cfg layerOnGfx usage then .physicallyContiguousGfx else .system
  -- SW_READ_OFTEN, all of it
  else if usage &&& Usage.swReadMask == 3#64 || usage.isOmxMetadataExtend then .system
  else .systemUncached

variable {cfg layerOnGfx} {d : BufferDescriptor} {usage : Usage}

/-- **Protected content has heaps of its own**: its format decides between them, and
nothing else of the product, the request or earlier requests matters. -/
theorem pickDmaBufHeap_of_protected (h : usage.has Usage.protectedContent = true) :
    pickDmaBufHeap cfg layerOnGfx d usage =
      if d.isAndroidYuv then .physicallyContiguousCodecMm else .protectedMemory := if_pos h

/-- Protected content is not put into system memory. -/
theorem not_isSystem_of_protected (h : usage.has Usage.protectedContent = true) :
    ¬(pickDmaBufHeap cfg layerOnGfx d usage).IsSystem := by
  rw [pickDmaBufHeap_of_protected h]
  split <;> decide

end

/-! ### Flags -/

/-- The flags of a handle. -/
abbrev Flags : Type := BitVec 32

namespace Flags

def usesIonDmaHeap : Flags := 8#32
def videoOverlay : Flags := 0x10#32
def videoOmx : Flags := 0x20#32
def continuousBuf : Flags := 0x100#32
def secureProtected : Flags := 0x200#32
def uvmBuffer : Flags := 0x800#32

/-- Some bit of the mask is set. -/
def has (f mask : Flags) : Bool := f &&& mask != 0#32

def omxMetadataExtend : Flags := videoOverlay ||| videoOmx
def coherentExtend : Flags := usesIonDmaHeap ||| continuousBuf
def secureExtend : Flags := secureProtected ||| continuousBuf

theorem has_eq_false_iff {f mask : Flags} : f.has mask = false ↔ f &&& mask = 0#32 := by
  simp [has]

theorem has_or (f g mask : Flags) : (f ||| g).has mask = (f.has mask || g.has mask) := by
  have h : (f ||| g) &&& mask = f &&& mask ||| g &&& mask := BitVec.and_or_distrib_right
  rw [Bool.eq_iff_iff]
  simp only [has, h, bne_iff_ne, ne_eq, BitVec.or_eq_zero_iff, Bool.or_eq_true]
  exact Decidable.not_and_iff_or_not

/-- Bits of a mask that are cleared are not found. -/
theorem has_and_not_self (f mask : Flags) : (f &&& ~~~mask).has mask = false := by
  rw [has_eq_false_iff, BitVec.and_assoc, BitVec.and_comm (~~~mask)]
  simp

/-- Clearing a mask leaves the bits outside of it. -/
theorem has_and_not_of_disjoint {f mask m : Flags} (h : m &&& ~~~mask = m) :
    (f &&& ~~~mask).has m = f.has m := by
  rw [has, has, BitVec.and_assoc, BitVec.and_comm (~~~mask), h]

end Flags

/-- The flags of a request that was given a heap. -/
def setBufferFlags (heap : DmaBufHeap) (usage : Usage) (flags : Flags) : Flags :=
  let flags :=
    match heap with
    | .system | .systemUncached => flags &&& ~~~Flags.coherentExtend
    | .physicallyContiguousGfx | .physicallyContiguousCodecMm
    | .physicallyContiguousCodecMmUncached | .physicallyContiguousFb =>
      flags ||| Flags.coherentExtend
    | .protectedMemory => flags
  -- the usage of a decoder is tested first: it shares bits with the video overlay's
  let flags := if usage.isOmxMetadataExtend then flags ||| Flags.omxMetadataExtend else flags
  if usage.has Usage.protectedContent then flags ||| Flags.secureExtend else flags

/-- **Memory is called coherent** when its heap is contiguous or the content protected. -/
theorem setBufferFlags_has_coherent (heap : DmaBufHeap) (usage : Usage) :
    (setBufferFlags heap usage 0#32).has Flags.coherentExtend =
      (decide heap.IsContiguous || usage.has Usage.protectedContent) := by
  cases hp : usage.has Usage.protectedContent <;> cases ho : usage.isOmxMetadataExtend <;>
    cases heap <;> simp only [setBufferFlags, hp, ho] <;> decide

/-- **Memory is called secure** when the content is protected. -/
theorem setBufferFlags_has_secure (heap : DmaBufHeap) (usage : Usage) :
    (setBufferFlags heap usage 0#32).has Flags.secureProtected =
      usage.has Usage.protectedContent := by
  cases hp : usage.has Usage.protectedContent <;> cases ho : usage.isOmxMetadataExtend <;>
    cases heap <;> simp only [setBufferFlags, hp, ho] <;> decide

end Gralloc
