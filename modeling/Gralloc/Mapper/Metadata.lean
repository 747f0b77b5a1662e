import Gralloc.CInt.Bytes
import Gralloc.Mapper.Drm
import Gralloc.Mapper.SharedMetadata

/-!
# Asking for metadata

What a client wants to know of a buffer it asks for by type (`Gralloc.Mapper.getMetadata`).
Some types are read off the handle; the ones that clients may change, and the name, are in
the shared metadata, which only an imported handle maps. A raw handle is asked all the same,
by clients that should not, and answers for the types that never change
(`Gralloc.Mapper.get_of_raw`): what it says is what its import would have said.

The value that is found is turned into bytes by an encoder, which is not part of this code.
Here the value is the result, and the encoder comes last (`Gralloc.Mapper.get`).
-/

namespace Gralloc

namespace Mapper

open CInt

/-! ### Types -/

/-- The types that the framework defines; a number that it does not define is invalid. -/
inductive StandardMetadataType where
  | invalid
  | bufferId
  | name
  | width
  | height
  | layerCount
  | pixelFormatRequested
  | pixelFormatFourcc
  | pixelFormatModifier
  | usage
  | allocationSize
  | protectedContent
  | compression
  | interlaced
  | chromaSiting
  | planeLayouts
  | crop
  | dataspace
  | blendMode
  | smpte2086
  | cta861_3
  | smpte2094_40
  | smpte2094_10
  | stride
  deriving DecidableEq, Repr

inductive ArmMetadataType where
  | invalid
  | planeFds
  | formatDataType
  deriving DecidableEq, Repr

inductive AmlMetadataType where
  | invalid
  | amOmxTunnel
  | amOmxFlag
  | amOmxVideoType
  | amOmxBufferSequence
  deriving DecidableEq, Repr

/-- A type: the name of an enumeration, and a number of it. -/
inductive MetadataType where
  | standard (t : StandardMetadataType)
  | arm (t : ArmMetadataType)
  | aml (t : AmlMetadataType)
  | other
  deriving DecidableEq, Repr

/-- The types that clients may set. -/
def settableTypes : List MetadataType := [
  .standard .chromaSiting, .standard .dataspace, .standard .blendMode, .standard .smpte2086,
  .standard .cta861_3, .standard .smpte2094_40, .standard .crop, .standard .smpte2094_10,
  .aml .amOmxTunnel, .aml .amOmxFlag, .aml .amOmxVideoType, .aml .amOmxBufferSequence]

def isMutable (t : MetadataType) : Bool := settableTypes.contains t

/-! ### Numbers of enumerations -/

def armCompression : String := "arm.graphics.Compression"

def compressionAfbc : ExtendableType := ⟨armCompression, 0#64⟩
def compressionAfrc : ExtendableType := ⟨armCompression, 1#64⟩
def compressionNone : ExtendableType := ⟨"android.hardware.graphics.common.Compression", 0#64⟩

def interlacedNone : ExtendableType := ⟨"android.hardware.graphics.common.Interlaced", 0#64⟩

def chromaSitingNone : ExtendableType := ⟨standardChromaSiting, 0#64⟩
def chromaSitingUnknown : ExtendableType := ⟨standardChromaSiting, 1#64⟩
def chromaSitingSitedInterstitial : ExtendableType := ⟨standardChromaSiting, 2#64⟩
def chromaSitingCositedHorizontal : ExtendableType := ⟨standardChromaSiting, 3#64⟩
def chromaSitingCositedVertical : ExtendableType := ⟨armChromaSiting, 256#64⟩
def chromaSitingCositedBoth : ExtendableType := ⟨armChromaSiting, 512#64⟩

def dataspaceUnknown : Dataspace := 0#32

def blendModeInvalid : BlendMode := 0#32

/-- The framework's number of a data type. -/
def dataTypeInternalToAidl : FormatDataType → BitVec 64
  | .unorm => 0#64
  | .snorm => 1#64
  | .uint => 2#64
  | .sint => 3#64
  | .sfloat => 4#64
  | .unknown => 0xff#64

/-! ### Components of planes -/

/-- A component of a plane: its type, and its bits in a sample. -/
structure PlaneLayoutComponent where
  type : ExtendableType
  offsetInBits : ℤ
  sizeInBits : ℤ
  deriving DecidableEq, Repr

namespace PlaneLayoutComponent

/-- A component that the framework defines. -/
def standard (value : BitVec 64) (offset size : ℤ) : PlaneLayoutComponent :=
  ⟨⟨"android.hardware.graphics.common.PlaneLayoutComponentType", value⟩, offset, size⟩

def y : ℤ → ℤ → PlaneLayoutComponent := standard (1#64 <<< 0)
def cb : ℤ → ℤ → PlaneLayoutComponent := standard (1#64 <<< 1)
def cr : ℤ → ℤ → PlaneLayoutComponent := standard (1#64 <<< 2)
def r : ℤ → ℤ → PlaneLayoutComponent := standard (1#64 <<< 10)
def g : ℤ → ℤ → PlaneLayoutComponent := standard (1#64 <<< 11)
def b : ℤ → ℤ → PlaneLayoutComponent := standard (1#64 <<< 12)
def raw : ℤ → ℤ → PlaneLayoutComponent := standard (1#64 <<< 20)
def a : ℤ → ℤ → PlaneLayoutComponent := standard (1#64 <<< 30)

/-- A component that the framework does not define. -/
def arm (value : BitVec 64) (offset size : ℤ) : PlaneLayoutComponent :=
  ⟨⟨"arm.graphics.PlaneLayoutComponentType", value⟩, offset, size⟩

def depth : ℤ → ℤ → PlaneLayoutComponent := arm 0#64
def stencil : ℤ → ℤ → PlaneLayoutComponent := arm 1#64

end PlaneLayoutComponent

open PlaneLayoutComponent in
/-- The components of the planes of each FourCC code. -/
def componentTable : List (BitVec 32 × List (List PlaneLayoutComponent)) := [
  (fourccCode 'R' 'G' '1' '6', [[b 0 5, g 5 6, r 11 5]]),
  (fourccCode 'B' 'G' '1' '6', [[r 0 5, g 5 6, b 11 5]]),
  (fourccCode 'B' 'G' '2' '4', [[r 0 8, g 8 8, b 16 8]]),
  (fourccCode 'A' 'R' '2' '4', [[b 0 8, g 8 8, r 16 8, a 24 8]]),
  (fourccCode 'A' 'B' '2' '4', [[r 0 8, g 8 8, b 16 8, a 24 8]]),
  (fourccCode 'X' 'B' '2' '4', [[r 0 8, g 8 8, b 16 8]]),
  (fourccCode 'A' 'B' '3' '0', [[r 0 10, g 10 10, b 20 10, a 30 2]]),
  (fourccCode 'A' 'B' '4' 'H', [[r 0 16, g 16 16, b 32 16, a 48 16]]),
  (fourccCode 'A' 'B' '1' '0', [[r 6 10, g 22 10, b 38 10, a 54 10]]),
  (fourccCode 'Y' 'U' 'Y' 'V', [[y 0 8, cb 8 8, y 16 8, cr 24 8]]),
  (fourccCode 'Y' '4' '1' '0', [[cb 0 10, y 10 10, cr 20 10, a 30 2]]),
  (fourccCode 'Y' '2' '1' '0', [[y 6 10, cb 22 10, y 38 10, cr 54 10]]),
  (fourccCode 'Y' '0' 'L' '2',
    [[y 0 10, cb 10 10, y 20 10, a 30 1, a 31 1, y 32 10, cr 42 10, y 52 10, a 62 1, a 63 1]]),
  (fourccCode 'N' 'V' '1' '6', [[y 0 8], [cb 0 8, cr 8 8]]),
  (fourccCode 'N' 'V' '1' '2', [[y 0 8], [cb 0 8, cr 8 8]]),
  (fourccCode 'N' 'V' '2' '1', [[y 0 8], [cr 0 8, cb 8 8]]),
  (fourccCode 'P' '2' '1' '0', [[y 6 10], [cb 6 10, cr 22 10]]),
  (fourccCode 'P' '0' '1' '0', [[y 6 10], [cb 6 10, cr 22 10]]),
  (fourccCode 'Y' 'V' '1' '2', [[y 0 8], [cr 0 8], [cb 0 8]]),
  (fourccCode 'Y' 'U' '1' '2', [[y 0 8], [cb 0 8], [cr 0 8]]),
  (fourccCode 'Y' 'U' '2' '4', [[y 0 8], [cb 0 8], [cr 0 8]]),
  -- compressed formats without components
  (fourccCode 'Y' 'U' '0' '8', [[]]),
  (fourccCode 'Y' 'U' '1' '0', [[]]),
  (fourccCode 'R' '8' ' ' ' ', [[r 0 8]]),
  (fourccCode 'R' '1' '6' ' ', [[r 0 16]]),
  (fourccCode 'G' 'R' '3' '2', [[r 0 16, g 16 16]])]

/-- The components of the planes of a handle. -/
def planeLayoutComponents (hnd : PrivateHandle) : List (List PlaneLayoutComponent) :=
  let base := hnd.allocFormat.getBase
  let fourcc := drmFourccFromHandle hnd
  if base = .depth16 then [[.depth 0 16]]
  else if base = .depth24Stencil8 then [[.depth 0 24, .stencil 24 8]]
  else if base = .depth24Stencil8Afbc then [[.depth 0 24], [.stencil 0 8]]
  else if base = .depth32f then [[.depth 0 32]]
  else if hnd.allocFormat.hasModifiers = false ∧ [PixelFormat.raw10, .raw12].contains base then
    [[.raw 0 (-1)]]
  else if fourcc ≠ drmFormatInvalid then (componentTable.lookup fourcc).getD []
  else []

/-- The layout of each plane, with its components. -/
def describedPlaneLayouts (hnd : PrivateHandle) :
    Run (Except MapperError (List (List PlaneLayoutComponent × PlaneLayout))) := do
  let layouts ← getPlaneLayouts wrapping hnd
  let components := planeLayoutComponents hnd
  .ok (layouts.map fun ls => ls.zipIdx.map fun l => (components.getD l.2 [], l.1))

/-- **The planes of a handle with layers**, whose format has properties. -/
theorem describedPlaneLayouts_of_layers {hnd : PrivateHandle} {f : FormatInfo}
    (hf : hnd.allocFormat.getBaseInfo = some f) (hl : hnd.layerCount ≠ 0) :
    describedPlaneLayouts hnd = .ok (.ok ((List.range hnd.getNumPlanes).map fun i =>
      ((planeLayoutComponents hnd).getD i [], layoutAt hnd f i))) := by
  rw [describedPlaneLayouts, getPlaneLayouts_of_layers hnd hf hl, ok_bind]
  simp only [Except.map, Except.ok.injEq]
  refine List.ext_getElem? fun i => ?_
  simp only [List.getElem?_map, List.getElem?_zipIdx]
  cases hr : (List.range hnd.getNumPlanes)[i]? with
  | none => rfl
  | some j =>
    obtain ⟨hi, rfl⟩ := List.getElem?_eq_some_iff.mp hr
    simp

/-! ### Values -/

/-- What an encoder is given. -/
inductive MetadataValue where
  | string (s : List (BitVec 8))
  | uint64 (n : BitVec 64)
  | int64 (n : BitVec 64)
  | uint32 (n : BitVec 32)
  | int32 (n : BitVec 32)
  | extendable (v : ExtendableType)
  | layouts (ls : List (List PlaneLayoutComponent × PlaneLayout))
  | rects (rs : List ARect)
  | smpte2086 (s : Option Smpte2086)
  | cta861_3 (c : Option Cta861_3)
  | blob (b : Option (List (BitVec 8)))
  | int64s (ns : List (BitVec 64))
  deriving DecidableEq, Repr

/-- What is asked of: a handle, with the metadata that it maps if it was imported. -/
structure MetadataHandle extends PrivateHandle where
  shareFd : ℤ
  backingStoreId : BitVec 64
  attr : Option SharedMetadata
  deriving DecidableEq, Repr

/-- The same handle, not imported. -/
def MetadataHandle.raw (hnd : MetadataHandle) : MetadataHandle := { hnd with attr := none }

section

variable (hnd : PrivateHandle)

def compressionOf : ExtendableType :=
  if hnd.allocFormat.isAfbc then compressionAfbc
  else if hnd.allocFormat.isAfrc then compressionAfrc
  else compressionNone

/-- Protected content is 1, any other 0. -/
def isProtected : BitVec 64 :=
  if (hnd.consumerUsage ||| hnd.producerUsage).has Usage.protectedContent then 1#64 else 0#64

/-- The siting of a format that none is stored for. -/
def defaultChromaSiting (f : FormatInfo) : ExtendableType :=
  if f.isYuv then chromaSitingUnknown else chromaSitingNone

/-- The crop of the first plane, and the extent of the others. -/
def cropRects (crop : Option ARect) : List ARect :=
  (List.range hnd.getNumPlanes).map fun plane =>
    let p := hnd.planeInfo.get plane
    if plane = 0 then
      crop.getD ⟨0#32, 0#32, BitVec.ofInt 32 hnd.width, BitVec.ofInt 32 hnd.height⟩
    else ⟨0#32, 0#32, BitVec.ofNat 32 p.allocWidth, BitVec.ofNat 32 p.allocHeight⟩

end

/-! ### Getting -/

section

variable (hnd : MetadataHandle)

/-- A value of the shared metadata, if the handle maps it. -/
def fromAttr (k : SharedMetadata → MetadataValue) : Run (Except MapperError MetadataValue) :=
  match hnd.attr with
  | none => .ok (.error .badValue)
  | some m => .ok (.ok (k m))

/-- The value of a type that the framework defines; the stride only the new mapper tells. -/
def getStandardMetadata (stablec : Bool) :
    StandardMetadataType → Run (Except MapperError MetadataValue)
  | .bufferId => .ok (.ok (.uint64 hnd.backingStoreId))
  | .name => fromAttr hnd fun m => .string m.getName
  | .width => .ok (.ok (.uint64 (BitVec.ofInt 64 hnd.width)))
  | .height => .ok (.ok (.uint64 (BitVec.ofInt 64 hnd.height)))
  | .layerCount => .ok (.ok (.uint64 (BitVec.ofInt 64 hnd.layerCount)))
  | .pixelFormatRequested => .ok (.ok (.int32 (BitVec.ofInt 32 hnd.reqFormat)))
  | .pixelFormatFourcc => .ok (.ok (.uint32 (drmFourccFromHandle hnd.toPrivateHandle)))
  | .pixelFormatModifier => .ok (.ok (.uint64 (drmModifierFromHandle hnd.toPrivateHandle)))
  | .usage => .ok (.ok (.uint64 (hnd.consumerUsage ||| hnd.producerUsage)))
  | .allocationSize => .ok (.ok (.uint64 (BitVec.ofInt 64 hnd.size)))
  | .protectedContent => .ok (.ok (.uint64 (isProtected hnd.toPrivateHandle)))
  | .compression => .ok (.ok (.extendable (compressionOf hnd.toPrivateHandle)))
  | .interlaced => .ok (.ok (.extendable interlacedNone))
  | .chromaSiting =>
    match hnd.attr, hnd.allocFormat.getBaseInfo with
    | none, _ => .ok (.error .badValue)
    | _, none => .ok (.error .badValue)
    | some m, some f => .ok (.ok (.extendable (m.getChromaSiting.getD (defaultChromaSiting f))))
  | .planeLayouts => do
    let layouts ← describedPlaneLayouts hnd.toPrivateHandle
    .ok (layouts.map .layouts)
  | .dataspace => fromAttr hnd fun m => .int32 (m.getDataspace.getD dataspaceUnknown)
  | .blendMode => fromAttr hnd fun m => .int32 (m.getBlendMode.getD blendModeInvalid)
  | .crop => fromAttr hnd fun m => .rects (cropRects hnd.toPrivateHandle m.getCropRect)
  | .smpte2086 => fromAttr hnd fun m => .smpte2086 m.getSmpte2086
  | .cta861_3 => fromAttr hnd fun m => .cta861_3 m.getCta861_3
  | .smpte2094_40 => fromAttr hnd fun m => .blob m.getSmpte2094_40
  | .smpte2094_10 => fromAttr hnd fun m => .blob m.getSmpte2094_10
  | .stride =>
    if stablec then .ok (.ok (.uint32 (BitVec.ofInt 32 hnd.stride))) else .ok (.error .unsupported)
  | .invalid => .ok (.error .unsupported)

/-- The memory of every plane is that of the buffer. -/
def planeFds : List (BitVec 64) := List.replicate hnd.getNumPlanes (BitVec.ofInt 64 hnd.shareFd)

/-- **The value of a type of metadata.** -/
def getMetadata (stablec : Bool) : MetadataType → Run (Except MapperError MetadataValue)
  | .standard t => getStandardMetadata hnd stablec t
  | .arm .planeFds => .ok (.ok (.int64s (planeFds hnd)))
  | .arm .formatDataType =>
    .ok (.ok (.int64 (dataTypeInternalToAidl hnd.allocFormat.dataType)))
  | .arm .invalid => .ok (.error .badValue)
  | .aml .amOmxTunnel => fromAttr hnd fun m => .int32 m.amOmxTunnel
  | .aml .amOmxFlag => fromAttr hnd fun m => .int32 m.amOmxFlag
  | .aml .amOmxVideoType => fromAttr hnd fun m => .int32 m.amOmxVideoType
  | .aml .amOmxBufferSequence => fromAttr hnd fun m => .int32 m.amOmxBufferSequence
  | .aml .invalid => .ok (.error .badValue)
  | .other => .ok (.error .unsupported)

/-- An encoder: the bytes of a value, or an error. -/
abbrev Encoder : Type := MetadataValue → Except MapperError (List (BitVec 8))

/-- **The bytes of a type of metadata.** A raw handle is asked about what never changes. -/
def get (stablec : Bool) (t : MetadataType) (encode : Encoder) :
    Run (Except MapperError (List (BitVec 8))) :=
  if hnd.attr.isNone ∧ isMutable t then .ok (.error .badBuffer)
  else do
    let v ← getMetadata hnd stablec t
    .ok (v.bind encode)

end

/-! ### Raw handles -/

section

variable (hnd : MetadataHandle) (stablec : Bool) (encode : Encoder)

/-- **A raw handle** is refused what may change, and its name; of the rest it says what an
imported one says. -/
theorem get_of_raw (t : MetadataType) :
    get hnd.raw stablec t encode =
      if isMutable t then .ok (.error .badBuffer)
      else if t = .standard .name then .ok (.error .badValue)
      else get hnd stablec t encode := by
  by_cases hm : isMutable t = true
  · rw [get, if_pos ⟨rfl, hm⟩, if_pos hm]
  · have hget (h : MetadataHandle) : get h stablec t encode =
        (getMetadata h stablec t >>= fun v => .ok (v.bind encode)) := if_neg fun h => hm h.2
    rw [if_neg hm, hget, hget]
    by_cases hn : t = .standard .name
    · rw [if_pos hn, hn]
      rfl
    · rw [if_neg hn]
      -- every other type that is in the shared metadata may change
      have heq : getMetadata hnd.raw stablec t = getMetadata hnd stablec t := by
        rcases t with t | t | t | _
        · cases t <;> first | rfl | exact absurd rfl hn | exact absurd rfl hm
        · cases t <;> rfl
        · cases t <;> first | rfl | exact absurd rfl hm
        · rfl
      rw [heq]

end

end Mapper

end Gralloc
