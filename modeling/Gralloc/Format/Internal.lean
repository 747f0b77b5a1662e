import Gralloc.Format.Info

/-!
# Internal formats

The format a buffer is allocated in is a base format together with modifier bits that
say how its data is laid out: compressed by AFBC or AFRC, block linear, and the options
of the first two. `Gralloc.InternalFormat` keeps the two apart, with the data type of a
component beside them.

A client can also ask for a precise internal format. Such a *private* format is a
framework format code with a sentinel bit set, and carries its modifiers in the upper
half of the word (`Gralloc.formatIsPrivate`, `Gralloc.InternalFormat.fromPrivate`).

The options of AFBC and of AFRC share bits: bit 19 is the split block of the one and the
rotation layout of the other, and the AFRC coding sizes lie over three of the AFBC flags.
-/

namespace Gralloc

/-- The type of a component's data. -/
inductive FormatDataType where
  | unorm
  | snorm
  | uint
  | sint
  | sfloat
  | unknown
  deriving DecidableEq, Repr

/-- Modifier bits. -/
abbrev Modifiers : Type := BitVec 32

namespace Modifiers

def fmtMask : BitVec 32 := 0x1ff#32
def extMask : BitVec 32 := 0xffff0000#32
/-- The bit that makes a format code private. -/
def sentinel : BitVec 32 := 1#32 <<< 15

def afbcBasic : Modifiers := 1#32 <<< 16
def afrcBasic : Modifiers := 1#32 <<< 17
def blockLinearBasic : Modifiers := 1#32 <<< 18

def afbcSplitblk : Modifiers := 1#32 <<< 19
def afbcWideblk : Modifiers := 1#32 <<< 20
def afbcTiledHeaders : Modifiers := 1#32 <<< 21
def afbcExtrawideblk : Modifiers := 1#32 <<< 22
def afbcDoubleBody : Modifiers := 1#32 <<< 23
def afbcBch : Modifiers := 1#32 <<< 24
def afbcYuvTransform : Modifiers := 1#32 <<< 25
def afbcSparse : Modifiers := 1#32 <<< 26
def afbcUsm : Modifiers := 1#32 <<< 27

def afrcRotLayout : Modifiers := 1#32 <<< 19
def afrcCodingMask : Modifiers := 3#32
def afrcRgbaCodingShift : ℕ := 20
def afrcChromaCodingShift : ℕ := 22

end Modifiers

/-- The coding unit sizes of AFRC. -/
inductive AfrcCodingUnitSize where
  | bytes16
  | bytes24
  | bytes32
  deriving DecidableEq, Repr

/-- The two bits that encode a coding unit size. -/
def AfrcCodingUnitSize.code : AfrcCodingUnitSize → Modifiers
  | bytes16 => 0#32
  | bytes24 => 1#32
  | bytes32 => 2#32

/-- An internal format: a base and its modifiers. -/
structure InternalFormat where
  dataType : FormatDataType
  format : PixelFormat
  modifiers : Modifiers
  deriving DecidableEq, Repr

namespace InternalFormat

/-- The invalid format. -/
def invalid : InternalFormat := ⟨.unorm, .undefined, 0#32⟩

/-- Splitting a format code into base and modifiers. -/
def ofValue (value : BitVec 32) (dataType : FormatDataType) : InternalFormat where
  dataType := dataType
  format := value &&& Modifiers.fmtMask
  modifiers := value &&& Modifiers.extMask

/-- The format without modifiers of a framework code, or of a code of the format table. -/
def fromAndroid (f : PixelFormat) (dataType : FormatDataType) : InternalFormat :=
  ofValue f dataType

/-- The format a private code spells out. -/
def fromPrivate (privateFormat : BitVec 32) : InternalFormat :=
  let base : PixelFormat := privateFormat &&& Modifiers.fmtMask
  let dataType : FormatDataType :=
    if [PixelFormat.stencil8, .blob, .rg16, .raw16].contains base then .uint
    else if base == .rgba16161616 then .sfloat
    else .unorm
  ofValue (privateFormat &&& ~~~Modifiers.sentinel) dataType

def getBase (f : InternalFormat) : PixelFormat := f.format &&& Modifiers.fmtMask

def getBaseInfo (f : InternalFormat) : Option FormatInfo := getFormatInfo f.getBase

def isUndefined (f : InternalFormat) : Bool := f.format == .undefined

def hasModifiers (f : InternalFormat) : Bool := f.modifiers != 0#32

def clearModifiers (f : InternalFormat) : InternalFormat := { f with modifiers := 0#32 }

def getModifier (f : InternalFormat) (flag : Modifiers) : Bool := f.modifiers &&& flag != 0#32

def setModifier (f : InternalFormat) (flag : Modifiers) (value : Bool) :
    InternalFormat :=
  { f with modifiers := if value then f.modifiers ||| flag else f.modifiers &&& ~~~flag }

def isAfbc (f : InternalFormat) : Bool := f.getModifier .afbcBasic
def isAfrc (f : InternalFormat) : Bool := f.getModifier .afrcBasic
def isBlockLinear (f : InternalFormat) : Bool := f.getModifier .blockLinearBasic

def getAfbc32x8 (f : InternalFormat) : Bool := f.getModifier .afbcWideblk
def getAfbc64x4 (f : InternalFormat) : Bool := f.getModifier .afbcExtrawideblk
def getAfbcBlockSplit (f : InternalFormat) : Bool := f.getModifier .afbcSplitblk
def getAfbcTiledHeaders (f : InternalFormat) : Bool := f.getModifier .afbcTiledHeaders
def getAfbcDoubleBody (f : InternalFormat) : Bool := f.getModifier .afbcDoubleBody
def getAfbcSparse (f : InternalFormat) : Bool := f.getModifier .afbcSparse
def getAfbcBch (f : InternalFormat) : Bool := f.getModifier .afbcBch
def getAfbcYuvTransform (f : InternalFormat) : Bool := f.getModifier .afbcYuvTransform
def getAfbcUsm (f : InternalFormat) : Bool := f.getModifier .afbcUsm
def getAfrcRotLayout (f : InternalFormat) : Bool := f.getModifier .afrcRotLayout

/-- Writing a coding unit size at its place. -/
def setAfrcCodingSize (shift : ℕ) (f : InternalFormat) (size : AfrcCodingUnitSize) :
    InternalFormat :=
  { f with modifiers :=
      f.modifiers &&& ~~~(Modifiers.afrcCodingMask <<< shift) ||| size.code <<< shift }

def setAfrcLumaCodingSize : InternalFormat → AfrcCodingUnitSize → InternalFormat :=
  setAfrcCodingSize Modifiers.afrcRgbaCodingShift

def setAfrcChromaCodingSize : InternalFormat → AfrcCodingUnitSize → InternalFormat :=
  setAfrcCodingSize Modifiers.afrcChromaCodingShift

/-- The two bits of a coding unit size; the fourth combination names no size. -/
def getAfrcCodingSize (shift : ℕ) (f : InternalFormat) : ℕ :=
  (f.modifiers >>> shift &&& Modifiers.afrcCodingMask).toNat

def getAfrcRgbaCodingSize : InternalFormat → ℕ := getAfrcCodingSize Modifiers.afrcRgbaCodingShift

def getAfrcChromaCodingSize : InternalFormat → ℕ :=
  getAfrcCodingSize Modifiers.afrcChromaCodingShift

/-- The bytes of a coding unit. -/
def toBytes (size : ℕ) : ℕ := 16 + 8 * size

end InternalFormat

/-- The code asks for a precise internal format. -/
def formatIsPrivate (androidFormat : BitVec 32) : Bool :=
  androidFormat &&& Modifiers.sentinel != 0#32

/-- The data type of a base format's components. -/
def calcFormatDataType (f : FormatInfo) : FormatDataType :=
  if [PixelFormat.stencil8, .blob, .rg16, .raw16].contains f.id then .uint
  else if f.id == .rgba16161616 then .sfloat
  else if f.id == .depth32f then .sfloat
  else .unorm

end Gralloc
