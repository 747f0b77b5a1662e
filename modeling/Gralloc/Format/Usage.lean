import Mathlib.Tactic

/-!
# Buffer usages, producers and consumers

A client says what it will do with a buffer in a 64-bit word, `Gralloc.Usage`: the low
nibbles are the CPU's reads and writes, single bits name the hardware blocks, and two
ranges are left to the vendor. Everything the allocator decides starts from the word
alone, and this file collects the tests it makes on it: the IP blocks that produce and
consume the buffer (`Gralloc.getProducers`, `Gralloc.getConsumers`), the front-buffer
and “no AFBC” requests, and the video-decoder combinations of the vendor extension.

The vendor part reuses bits of the framework: a decoder slot is scattered over bits
15, 23, 30, 60 and 61 of the same word (`Gralloc.Usage.compSlotId`,
`Gralloc.Usage.decodeSlotId`).
-/

namespace Gralloc

/-- A usage word: the union of the producer's and the consumer's. -/
abbrev Usage : Type := BitVec 64

namespace Usage

/-- Some bit of the mask is set, the `usage & mask` of a condition. -/
def has (u mask : Usage) : Bool := u &&& mask != 0#64

/-- Every bit of the mask is set, the `(usage & mask) == mask` of a condition. -/
def hasAll (u mask : Usage) : Bool := u &&& mask == mask

/-! ### The bits of the framework -/

def swReadMask : Usage := 0xf#64
def swWriteMask : Usage := 0xf0#64
def hwTexture : Usage := 1#64 <<< 8
def hwRender : Usage := 1#64 <<< 9
def hw2d : Usage := 1#64 <<< 10
def hwComposer : Usage := 1#64 <<< 11
def hwFb : Usage := 1#64 <<< 12
def externalDisp : Usage := 1#64 <<< 13
def protectedContent : Usage := 1#64 <<< 14
def cursor : Usage := 1#64 <<< 15
def hwVideoEncoder : Usage := 1#64 <<< 16
def hwCameraWrite : Usage := 1#64 <<< 17
def hwCameraRead : Usage := 1#64 <<< 18
def renderscript : Usage := 1#64 <<< 20
def decoder : Usage := 1#64 <<< 22
def sensorDirectData : Usage := 1#64 <<< 23
def gpuDataBuffer : Usage := 1#64 <<< 24
def frontbuffer : Usage := 1#64 <<< 32

/-! ### The vendor bits -/

def privateMask : Usage := 0xffff0000f0000000#64

/-- The front-buffer request of the older allocators, vendor bit 0. -/
def maliFrontbuffer : Usage := 1#64 <<< 28
/-- The request not to compress, vendor bit 1. -/
def noAfbc : Usage := 1#64 <<< 29
/-- Padding of the AFBC header stride, vendor bit 14. -/
def afbcPadding : Usage := 1#64 <<< 53

/-- The bit that turns vendor bits 0 and 1 into an AFRC coding size. -/
def afrcLumaSentinel : Usage := 1#64 <<< 30
def afrcLuma16 : Usage := afrcLumaSentinel ||| 1#64 <<< 28
def afrcLuma24 : Usage := afrcLumaSentinel ||| 1#64 <<< 29
def afrcLuma32 : Usage := afrcLumaSentinel
def afrcLumaMask : Usage := 1#64 <<< 30 ||| 1#64 <<< 29 ||| 1#64 <<< 28
def afrcChroma16 : Usage := 1#64 <<< 56
def afrcChroma24 : Usage := 1#64 <<< 55
def afrcChroma32 : Usage := 1#64 <<< 56 ||| 1#64 <<< 55
def afrcChromaMask : Usage := afrcChroma32

/-- A decoder slot is encoded in the word. -/
def usingSlot : Usage := 1#64 <<< 48
/-- The consumer bit that suppresses the height alignment of decoder buffers. -/
def consumerPrivate3 : Usage := 1#64 <<< 31

def standardUsage : Usage :=
  swReadMask ||| swWriteMask ||| hwTexture ||| hwRender ||| hw2d ||| hwComposer ||| hwFb |||
    externalDisp ||| protectedContent ||| cursor ||| hwVideoEncoder ||| hwCameraWrite |||
    hwCameraRead ||| renderscript ||| decoder ||| sensorDirectData ||| gpuDataBuffer |||
    frontbuffer

/-- All the vendor bits, 28–31 and 48–63. -/
def vendorUsage : Usage := 0xffff0000f0000000#64

def validUsage : Usage := standardUsage ||| vendorUsage

def universalUsages : Usage := protectedContent ||| swReadMask ||| swWriteMask

def addUniversalUsages (u : Usage) : Usage := u ||| universalUsages

/-! ### Tests on the word -/

/-- The CPU reads or writes the buffer. -/
def hasCpu (u : Usage) : Bool := u.has (swReadMask ||| swWriteMask)

theorem hasCpu_eq (u : Usage) : u.hasCpu = (u.has swReadMask || u.has swWriteMask) := by
  have h : u &&& (swReadMask ||| swWriteMask) = u &&& swReadMask ||| u &&& swWriteMask :=
    BitVec.and_or_distrib_left
  rw [Bool.eq_iff_iff]
  simp only [hasCpu, has, h, bne_iff_ne, ne_eq, BitVec.or_eq_zero_iff, Bool.or_eq_true]
  exact Decidable.not_and_iff_or_not

/-- Some hardware block accesses the buffer: a bit outside the vendor's, the CPU's and
the front buffer's is set. -/
def hasHw (u : Usage) : Bool :=
  u.has (~~~(privateMask ||| swReadMask ||| swWriteMask ||| frontbuffer))

def isFrontbuffer (u : Usage) : Bool :=
  u.has frontbuffer || (u.has maliFrontbuffer && !u.has afrcLumaSentinel)

def isNoAfbc (u : Usage) : Bool := u.hasAll noAfbc && !u.has afrcLumaSentinel

/-! ### Video decoder buffers -/

def isOmxMetadataExtend (u : Usage) : Bool := u.hasAll decoder && !u.has hwRender

def isOmxOsdExtend (u : Usage) : Bool := u.hasAll (decoder ||| hwRender)

/-- A quarter-size decoder buffer. -/
def isVideoDecoderQuarter (u : Usage) : Bool :=
  u.isOmxMetadataExtend && u.hasAll (1#64 <<< 30)

/-- A one-sixteenth-size decoder buffer. -/
def isVideoDecoderOneSixteenth (u : Usage) : Bool := u.isOmxMetadataExtend && u.hasAll cursor

def isVideoDecoderFull (u : Usage) : Bool := u.isOmxMetadataExtend && u.hasAll sensorDirectData

def isVideoDecoderOsd (u : Usage) : Bool := u.isOmxOsdExtend && u.hasAll sensorDirectData

def isVideoDecoderReplace (u : Usage) : Bool := u.isOmxMetadataExtend && u.hasAll (1#64 <<< 51)

/-- Decoder buffers, and the 100 × 100 probes of the player, are aligned to 64. -/
def needDoWidthHeightAlign (u : Usage) (width height : ℤ) : Bool :=
  (u.isOmxOsdExtend && width == 100 && height == 100) || u.isVideoDecoderFull ||
    u.isVideoDecoderOsd

/-- One bit of the word, as a number. -/
def bitN (u : Usage) (n : ℕ) : ℕ := (u.getLsbD n).toNat

/-- The decoder slot encoded in the word. -/
def decodeSlotId (u : Usage) : ℕ :=
  u.bitN 15 ||| u.bitN 23 <<< 1 ||| u.bitN 30 <<< 2 ||| u.bitN 60 <<< 3 ||| u.bitN 61 <<< 4

/-- One bit of a slot's number. -/
def slotBitN (slotId n : ℕ) : Usage := BitVec.ofNat 64 ((slotId >>> n) &&& 1)

/-- The bits of a slot's number, spread over a word, and the bit that says so. -/
def compSlotId (slotId : ℕ) : Usage :=
  slotBitN slotId 0 <<< 15 ||| slotBitN slotId 1 <<< 23 ||| slotBitN slotId 2 <<< 30 |||
    slotBitN slotId 3 <<< 60 ||| slotBitN slotId 4 <<< 61 ||| usingSlot

/-- The bits that a slot's number is spread over. -/
def slotBits : Usage := 1#64 <<< 15 ||| 1#64 <<< 23 ||| 1#64 <<< 30 ||| 1#64 <<< 60 ||| 1#64 <<< 61

end Usage

/-! ### IP blocks -/

/-- A set of IP blocks. -/
abbrev Ip : Type := BitVec 32

namespace Ip

def none : Ip := 0#32
def cpu : Ip := 1#32 <<< 0
def gpu : Ip := 1#32 <<< 1
def dpu : Ip := 1#32 <<< 2
def dpuAeu : Ip := 1#32 <<< 3
def vpu : Ip := 1#32 <<< 4
def cam : Ip := 1#32 <<< 5

def contains (ips ip : Ip) : Bool := ip &&& ips != 0#32

def empty (ips : Ip) : Bool := ips == 0#32

def add (ips ip : Ip) : Ip := ips ||| ip

def remove (ips ip : Ip) : Ip := ips &&& ~~~ip

/-- `add`, under a condition. -/
def addIf (ips : Ip) (c : Bool) (ip : Ip) : Ip := if c then ips.add ip else ips

end Ip

/-- The usage bits that say something about producers and consumers. -/
def ipUsage (usage : Usage) : Usage := usage &&& ~~~Usage.privateMask &&& ~~~Usage.protectedContent

/-- The IP blocks that consume a buffer of this usage. -/
def getConsumers (usage : Usage) : Ip :=
  let u := ipUsage usage
  -- composition and nothing else: the display reads what it wrote
  if u == Usage.hwComposer then Ip.dpu
  else
    let c := Ip.none
      |>.addIf (u.has Usage.swReadMask) Ip.cpu
      |>.addIf (u.has Usage.hwFb) Ip.dpu
      |>.addIf (u.has Usage.hwVideoEncoder) Ip.vpu
      |>.addIf (u.hasAll (Usage.hwTexture ||| Usage.hwComposer)) Ip.dpu
      |>.addIf (u.has (Usage.hwTexture ||| Usage.gpuDataBuffer)) Ip.gpu
      |>.addIf (u.has (Usage.hwCameraRead ||| Usage.sensorDirectData)) Ip.cam
    -- the composer reads with the display only when nobody else reads
    c.addIf (c.empty && u.has Usage.hwComposer) Ip.dpu

/-- The IP blocks that produce a buffer of this usage. -/
def getProducers (usage : Usage) : Ip :=
  let u := ipUsage usage
  if u == Usage.hwComposer then Ip.dpu
  else
    Ip.none
      |>.addIf (u.has Usage.swWriteMask) Ip.cpu
      |>.addIf (!u.hasAll Usage.decoder && u.hasAll (Usage.hwComposer ||| Usage.hwVideoEncoder))
        Ip.dpu
      |>.addIf (u.has (Usage.hwRender ||| Usage.gpuDataBuffer)) Ip.gpu
      |>.addIf (u.has Usage.hwCameraWrite) Ip.cam
      |>.addIf (u.hasAll Usage.decoder) Ip.vpu

example : Usage.decodeSlotId (1#64 <<< 48 ||| 1#64 <<< 23 ||| 1#64 <<< 61) = 18 := by decide

end Gralloc
