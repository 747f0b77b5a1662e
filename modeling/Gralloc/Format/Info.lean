import Gralloc.Format.Usage

/-!
# The format tables

A base format is a 32-bit code, and three tables say what the allocator knows about it:
`Gralloc.formats` holds its properties – planes, bits per pixel, sub-sampling,
alignments, the layouts it admits – `Gralloc.formatsIpSupport` the layouts each IP block
can read and write, and `Gralloc.halToInternalFormat` the internal format a framework
format stands for.

The tables are data of the source and are kept entry for entry. What the rest of the
development uses of them is not the entries but a handful of facts about all of them,
stated together in `Gralloc.FormatInfo.WellFormed`: the divisors of the size computation
are not zero, the alignments are small, the rounding of a YUV format respects its
sub-sampling, and only the formats without a linear form lack their bits per pixel.
`Gralloc.wellFormed_of_mem_formats` hands them to whoever looked a format up.
-/

namespace Gralloc

/-- A base format, of the framework or internal. -/
abbrev PixelFormat : Type := BitVec 32

/-! ### Format codes -/

namespace Hal

def rgba8888 : PixelFormat := 1#32
def rgbx8888 : PixelFormat := 2#32
def rgb888 : PixelFormat := 3#32
def rgb565 : PixelFormat := 4#32
def bgra8888 : PixelFormat := 5#32
def ycbcr422Sp : PixelFormat := 16#32
def ycrcb420Sp : PixelFormat := 17#32
def ycbcr422I : PixelFormat := 20#32
def rgbaFp16 : PixelFormat := 22#32
def raw16 : PixelFormat := 32#32
def blob : PixelFormat := 33#32
def implementationDefined : PixelFormat := 34#32
def ycbcr420_888 : PixelFormat := 35#32
def rawOpaque : PixelFormat := 36#32
def raw10 : PixelFormat := 37#32
def raw12 : PixelFormat := 38#32
def ycbcr422_888 : PixelFormat := 39#32
def ycbcr444_888 : PixelFormat := 40#32
def flexRgb888 : PixelFormat := 41#32
def flexRgba8888 : PixelFormat := 42#32
def rgba1010102 : PixelFormat := 43#32
def depth16 : PixelFormat := 48#32
def depth24 : PixelFormat := 49#32
def depth24Stencil8 : PixelFormat := 50#32
def depth32f : PixelFormat := 51#32
def depth32fStencil8 : PixelFormat := 52#32
def stencil8 : PixelFormat := 53#32
def ycbcrP010 : PixelFormat := 54#32
def r8 : PixelFormat := 56#32
def r16Uint : PixelFormat := 57#32
def r16g16Uint : PixelFormat := 58#32
def rgba10101010 : PixelFormat := 59#32
def y8 : PixelFormat := 0x20203859#32
def y16 : PixelFormat := 0x20363159#32
def yv12 : PixelFormat := 0x32315659#32

end Hal

namespace PixelFormat

def undefined : PixelFormat := 0#32
def rgba8888 : PixelFormat := Hal.rgba8888
def rgbx8888 : PixelFormat := Hal.rgbx8888
def rgb888 : PixelFormat := Hal.rgb888
def rgb565 : PixelFormat := Hal.rgb565
def bgra8888 : PixelFormat := Hal.bgra8888
def rgba1010102 : PixelFormat := Hal.rgba1010102
def rgba16161616 : PixelFormat := Hal.rgbaFp16
def nv16 : PixelFormat := Hal.ycbcr422Sp
def raw16 : PixelFormat := Hal.raw16
def raw12 : PixelFormat := Hal.raw12
def raw10 : PixelFormat := Hal.raw10
def blob : PixelFormat := Hal.blob
def depth16 : PixelFormat := Hal.depth16
def depth24 : PixelFormat := Hal.depth24
def depth24Stencil8 : PixelFormat := Hal.depth24Stencil8
def depth32f : PixelFormat := Hal.depth32f
def depth32fStencil8 : PixelFormat := Hal.depth32fStencil8
def stencil8 : PixelFormat := Hal.stencil8
def r8 : PixelFormat := Hal.r8
def rg16 : PixelFormat := Hal.r16g16Uint
def rgba10101010 : PixelFormat := Hal.rgba10101010
def nv12 : PixelFormat := 0x100#32
def nv21 : PixelFormat := 0x101#32
def yuv422_8bit : PixelFormat := 0x102#32
def y0l2 : PixelFormat := 0x103#32
def p010 : PixelFormat := 0x104#32
def p210 : PixelFormat := 0x105#32
def y210 : PixelFormat := 0x106#32
def y410 : PixelFormat := 0x107#32
def yu12 : PixelFormat := 0x108#32
def yuv444 : PixelFormat := 0x109#32
def q410 : PixelFormat := 0x10a#32
def q401 : PixelFormat := 0x10b#32
def yuv420_8bitI : PixelFormat := 0x10c#32
def yuv420_10bitI : PixelFormat := 0x10d#32
def yv12 : PixelFormat := 0x10e#32
def y8 : PixelFormat := 0x10f#32
def y16 : PixelFormat := 0x110#32
def nv15 : PixelFormat := 0x111#32
def depth24Stencil8Afbc : PixelFormat := 0x112#32
def yuv444_8bitI : PixelFormat := 0x113#32

end PixelFormat

/-! ### Format properties -/

/-- One value for each of the (at most three) planes of a format. -/
structure Planes (α : Type) where
  p0 : α
  p1 : α
  p2 : α
  deriving DecidableEq, Repr

namespace Planes

variable {α : Type}

/-- Indexing; the code never indexes past the last plane. -/
def get (ps : Planes α) : ℕ → α
  | 0 => ps.p0
  | 1 => ps.p1
  | _ => ps.p2

def set (ps : Planes α) (i : ℕ) (a : α) : Planes α :=
  match i with
  | 0 => { ps with p0 := a }
  | 1 => { ps with p1 := a }
  | _ => { ps with p2 := a }

@[simp] theorem get_set_self (ps : Planes α) (i : ℕ) (a : α) : (ps.set i a).get i = a := by
  rcases i with _ | _ | i <;> rfl

theorem get_set_of_ne (ps : Planes α) {i j : ℕ} (a : α) (hi : i < 3) (hj : j < 3) (h : j ≠ i) :
    (ps.set i a).get j = ps.get j := by
  interval_cases i <;> interval_cases j <;> first | rfl | exact absurd rfl h

@[simp] theorem set_set (ps : Planes α) (i : ℕ) (a b : α) : (ps.set i a).set i b = ps.set i b := by
  rcases i with _ | _ | i <;> rfl

end Planes

/-- The properties of a base format. -/
structure FormatInfo where
  id : PixelFormat
  /-- Number of planes. -/
  npln : ℕ
  /-- Number of components in each plane. -/
  ncmp : Planes ℕ
  /-- Bits per sample. -/
  bps : ℕ
  /-- Bits per pixel in AFBC, without implicit padding. -/
  bppAfbc : Planes ℕ
  /-- Bits per pixel in linear layouts, with implicit padding. -/
  bpp : Planes ℕ
  /-- Horizontal sub-sampling. -/
  hsub : ℕ
  /-- Vertical sub-sampling. -/
  vsub : ℕ
  alignW : ℕ
  alignH : ℕ
  /-- Alignment of the width under CPU access, in pixels. -/
  alignWCpu : ℕ
  tileSize : ℕ
  hasAlpha : Bool
  isRgb : Bool
  isYuv : Bool
  afbc : Bool
  linear : Bool
  yuvTransform : Bool
  blockLinear : Bool
  afrc : Bool
  permittedUsage : Usage
  deriving DecidableEq, Repr

/-- The number of components in all the planes. -/
def FormatInfo.totalComponents (f : FormatInfo) : ℕ := f.ncmp.p0 + f.ncmp.p1 + f.ncmp.p2

/-- The formats are the same, or differ in the order of their components. -/
def isSameOrComponentsReordered (x y : FormatInfo) : Bool :=
  x.npln == y.npln && x.totalComponents == y.totalComponents && x.bps == y.bps &&
    x.isYuv == y.isYuv && x.hsub == y.hsub && x.vsub == y.vsub

/-- Which layouts are supported: a set of bits. -/
abbrev SupportFlags : Type := BitVec 8

namespace SupportFlags

def fNone : SupportFlags := 0#8
def fLin : SupportFlags := 1#8 <<< 0
def fAfbc : SupportFlags := 1#8 <<< 1
def fAfrc : SupportFlags := 1#8 <<< 2
def fBlYuv : SupportFlags := 1#8 <<< 3

def has (f g : SupportFlags) : Bool := f &&& g != 0#8

def without (f g : SupportFlags) : SupportFlags := f &&& ~~~g

end SupportFlags

/-- What each producer and consumer supports of a format. -/
structure FormatIpSupport where
  id : PixelFormat
  cpuWr : SupportFlags
  cpuRd : SupportFlags
  gpuWr : SupportFlags
  gpuRd : SupportFlags
  dpuWr : SupportFlags
  dpuRd : SupportFlags
  dpuAeuWr : SupportFlags
  vpuWr : SupportFlags
  vpuRd : SupportFlags
  camWr : SupportFlags
  deriving DecidableEq, Repr

/-! ### The tables -/

/-- The format table. -/
def formats : List FormatInfo := [
  { id := .rgb565, npln := 1, ncmp := ⟨3, 0, 0⟩, bps := 6
    bppAfbc := ⟨16, 0, 0⟩, bpp := ⟨16, 0, 0⟩, hsub := 0, vsub := 0, alignW := 1, alignH := 1
    alignWCpu := 1, tileSize := 1, hasAlpha := false, isRgb := true, isYuv := false
    afbc := true, linear := true, yuvTransform := true, blockLinear := false, afrc := false
    permittedUsage := Usage.addUniversalUsages Usage.standardUsage },
  { id := .rgb888, npln := 1, ncmp := ⟨3, 0, 0⟩, bps := 8
    bppAfbc := ⟨24, 0, 0⟩, bpp := ⟨24, 0, 0⟩, hsub := 0, vsub := 0, alignW := 1, alignH := 1
    alignWCpu := 1, tileSize := 1, hasAlpha := false, isRgb := true, isYuv := false
    afbc := true, linear := true, yuvTransform := true, blockLinear := false, afrc := true
    permittedUsage := Usage.addUniversalUsages Usage.standardUsage },
  { id := .rgba8888, npln := 1, ncmp := ⟨4, 0, 0⟩, bps := 8
    bppAfbc := ⟨32, 0, 0⟩, bpp := ⟨32, 0, 0⟩, hsub := 0, vsub := 0, alignW := 1, alignH := 1
    alignWCpu := 1, tileSize := 1, hasAlpha := true, isRgb := true, isYuv := false
    afbc := true, linear := true, yuvTransform := true, blockLinear := false, afrc := true
    permittedUsage := Usage.addUniversalUsages Usage.standardUsage },
  { id := .bgra8888, npln := 1, ncmp := ⟨4, 0, 0⟩, bps := 8
    bppAfbc := ⟨32, 0, 0⟩, bpp := ⟨32, 0, 0⟩, hsub := 0, vsub := 0, alignW := 1, alignH := 1
    alignWCpu := 1, tileSize := 1, hasAlpha := true, isRgb := true, isYuv := false
    afbc := true, linear := true, yuvTransform := false, blockLinear := false, afrc := false
    permittedUsage := Usage.addUniversalUsages Usage.standardUsage },
  { id := .rgbx8888, npln := 1, ncmp := ⟨3, 0, 0⟩, bps := 8
    bppAfbc := ⟨32, 0, 0⟩, bpp := ⟨32, 0, 0⟩, hsub := 0, vsub := 0, alignW := 1, alignH := 1
    alignWCpu := 1, tileSize := 1, hasAlpha := false, isRgb := true, isYuv := false
    afbc := true, linear := true, yuvTransform := true, blockLinear := false, afrc := false
    permittedUsage := Usage.addUniversalUsages Usage.standardUsage },
  { id := .rgba1010102, npln := 1, ncmp := ⟨4, 0, 0⟩, bps := 10
    bppAfbc := ⟨32, 0, 0⟩, bpp := ⟨32, 0, 0⟩, hsub := 0, vsub := 0, alignW := 1, alignH := 1
    alignWCpu := 1, tileSize := 1, hasAlpha := true, isRgb := true, isYuv := false
    afbc := true, linear := true, yuvTransform := true, blockLinear := false, afrc := false
    permittedUsage := Usage.addUniversalUsages Usage.standardUsage },
  { id := .rgba16161616, npln := 1, ncmp := ⟨4, 0, 0⟩, bps := 16
    bppAfbc := ⟨64, 0, 0⟩, bpp := ⟨64, 0, 0⟩, hsub := 0, vsub := 0, alignW := 1, alignH := 1
    alignWCpu := 1, tileSize := 1, hasAlpha := true, isRgb := true, isYuv := false
    afbc := true, linear := true, yuvTransform := true, blockLinear := false, afrc := false
    permittedUsage := Usage.addUniversalUsages Usage.standardUsage },
  { id := .rgba10101010, npln := 1, ncmp := ⟨4, 0, 0⟩, bps := 10
    bppAfbc := ⟨40, 0, 0⟩, bpp := ⟨64, 0, 0⟩, hsub := 0, vsub := 0, alignW := 1, alignH := 1
    alignWCpu := 1, tileSize := 1, hasAlpha := true, isRgb := true, isYuv := false
    afbc := true, linear := true, yuvTransform := true, blockLinear := false, afrc := true
    permittedUsage := Usage.addUniversalUsages Usage.standardUsage &&& ~~~Usage.hwComposer },
  { id := .y8, npln := 1, ncmp := ⟨1, 0, 0⟩, bps := 8
    bppAfbc := ⟨8, 0, 0⟩, bpp := ⟨8, 0, 0⟩, hsub := 1, vsub := 1, alignW := 2, alignH := 2
    alignWCpu := 16, tileSize := 1, hasAlpha := false, isRgb := false, isYuv := true
    afbc := true, linear := true, yuvTransform := false, blockLinear := false, afrc := true
    permittedUsage := Usage.addUniversalUsages (Usage.hwCameraWrite ||| Usage.hwCameraRead |||
      Usage.hwTexture ||| Usage.hwRender) },
  { id := .y16, npln := 1, ncmp := ⟨1, 0, 0⟩, bps := 16
    bppAfbc := ⟨16, 0, 0⟩, bpp := ⟨16, 0, 0⟩, hsub := 1, vsub := 1, alignW := 2, alignH := 2
    alignWCpu := 16, tileSize := 1, hasAlpha := false, isRgb := false, isYuv := true
    afbc := true, linear := true, yuvTransform := false, blockLinear := false, afrc := false
    permittedUsage := Usage.addUniversalUsages (Usage.hwCameraWrite ||| Usage.hwCameraRead |||
      Usage.hwTexture ||| Usage.hwRender) },
  { id := .yuv420_8bitI, npln := 1, ncmp := ⟨3, 0, 0⟩, bps := 8
    bppAfbc := ⟨12, 0, 0⟩, bpp := ⟨0, 0, 0⟩, hsub := 2, vsub := 2, alignW := 2, alignH := 2
    alignWCpu := 1, tileSize := 1, hasAlpha := false, isRgb := false, isYuv := true
    afbc := true, linear := false, yuvTransform := false, blockLinear := false, afrc := false
    permittedUsage := Usage.addUniversalUsages Usage.standardUsage },
  { id := .rg16, npln := 1, ncmp := ⟨2, 0, 0⟩, bps := 16
    bppAfbc := ⟨32, 0, 0⟩, bpp := ⟨32, 0, 0⟩, hsub := 0, vsub := 0, alignW := 1, alignH := 1
    alignWCpu := 1, tileSize := 1, hasAlpha := false, isRgb := true, isYuv := false
    afbc := true, linear := true, yuvTransform := false, blockLinear := false, afrc := false
    permittedUsage := Usage.addUniversalUsages Usage.standardUsage },
  { id := .nv12, npln := 2, ncmp := ⟨1, 2, 0⟩, bps := 8
    bppAfbc := ⟨8, 16, 0⟩, bpp := ⟨8, 16, 0⟩, hsub := 2, vsub := 2, alignW := 2, alignH := 2
    alignWCpu := 1, tileSize := 1, hasAlpha := false, isRgb := false, isYuv := true
    afbc := true, linear := true, yuvTransform := false, blockLinear := true, afrc := true
    permittedUsage := Usage.addUniversalUsages Usage.standardUsage },
  { id := .nv21, npln := 2, ncmp := ⟨1, 2, 0⟩, bps := 8
    bppAfbc := ⟨8, 16, 0⟩, bpp := ⟨8, 16, 0⟩, hsub := 2, vsub := 2, alignW := 2, alignH := 2
    alignWCpu := 1, tileSize := 1, hasAlpha := false, isRgb := false, isYuv := true
    afbc := true, linear := true, yuvTransform := false, blockLinear := false, afrc := true
    permittedUsage := Usage.addUniversalUsages Usage.standardUsage },
  { id := .yv12, npln := 3, ncmp := ⟨1, 1, 1⟩, bps := 8
    bppAfbc := ⟨8, 8, 8⟩, bpp := ⟨8, 8, 8⟩, hsub := 2, vsub := 2, alignW := 2, alignH := 2
    alignWCpu := 16, tileSize := 1, hasAlpha := false, isRgb := false, isYuv := true
    afbc := true, linear := true, yuvTransform := false, blockLinear := false, afrc := false
    permittedUsage := Usage.addUniversalUsages (Usage.hwCameraWrite ||| Usage.hwCameraRead |||
      Usage.hwTexture ||| Usage.hwRender ||| Usage.hwComposer ||| Usage.hwFb |||
      Usage.hwVideoEncoder ||| Usage.decoder ||| Usage.externalDisp ||| Usage.frontbuffer) },
  { id := .yu12, npln := 3, ncmp := ⟨1, 1, 1⟩, bps := 8
    bppAfbc := ⟨0, 0, 0⟩, bpp := ⟨8, 8, 8⟩, hsub := 2, vsub := 2, alignW := 2, alignH := 2
    alignWCpu := 16, tileSize := 1, hasAlpha := false, isRgb := false, isYuv := true
    afbc := false, linear := true, yuvTransform := false, blockLinear := false, afrc := true
    permittedUsage := Usage.addUniversalUsages Usage.standardUsage },
  { id := .yuv422_8bit, npln := 1, ncmp := ⟨3, 0, 0⟩, bps := 8
    bppAfbc := ⟨16, 0, 0⟩, bpp := ⟨16, 0, 0⟩, hsub := 2, vsub := 1, alignW := 2, alignH := 1
    alignWCpu := 1, tileSize := 1, hasAlpha := false, isRgb := false, isYuv := true
    afbc := true, linear := true, yuvTransform := false, blockLinear := false, afrc := false
    permittedUsage := Usage.addUniversalUsages Usage.standardUsage },
  { id := .nv16, npln := 2, ncmp := ⟨1, 2, 0⟩, bps := 8
    bppAfbc := ⟨8, 16, 0⟩, bpp := ⟨8, 16, 0⟩, hsub := 2, vsub := 1, alignW := 2, alignH := 1
    alignWCpu := 1, tileSize := 1, hasAlpha := false, isRgb := false, isYuv := true
    afbc := true, linear := true, yuvTransform := false, blockLinear := true, afrc := true
    permittedUsage := Usage.addUniversalUsages Usage.standardUsage },
  { id := .yuv444, npln := 3, ncmp := ⟨1, 1, 1⟩, bps := 8
    bppAfbc := ⟨0, 0, 0⟩, bpp := ⟨0, 0, 0⟩, hsub := 1, vsub := 1, alignW := 1, alignH := 1
    alignWCpu := 1, tileSize := 1, hasAlpha := false, isRgb := false, isYuv := true
    afbc := false, linear := false, yuvTransform := false, blockLinear := false, afrc := true
    permittedUsage := Usage.addUniversalUsages Usage.standardUsage },
  { id := .q410, npln := 3, ncmp := ⟨1, 1, 1⟩, bps := 10
    bppAfbc := ⟨0, 0, 0⟩, bpp := ⟨0, 0, 0⟩, hsub := 1, vsub := 1, alignW := 1, alignH := 1
    alignWCpu := 1, tileSize := 1, hasAlpha := false, isRgb := false, isYuv := true
    afbc := false, linear := false, yuvTransform := false, blockLinear := false, afrc := true
    permittedUsage := Usage.addUniversalUsages Usage.standardUsage },
  { id := .q401, npln := 3, ncmp := ⟨1, 1, 1⟩, bps := 10
    bppAfbc := ⟨0, 0, 0⟩, bpp := ⟨0, 0, 0⟩, hsub := 1, vsub := 1, alignW := 1, alignH := 1
    alignWCpu := 1, tileSize := 1, hasAlpha := false, isRgb := false, isYuv := true
    afbc := false, linear := false, yuvTransform := false, blockLinear := false, afrc := true
    permittedUsage := Usage.addUniversalUsages Usage.standardUsage },
  { id := .yuv420_10bitI, npln := 1, ncmp := ⟨3, 0, 0⟩, bps := 10
    bppAfbc := ⟨15, 0, 0⟩, bpp := ⟨0, 0, 0⟩, hsub := 2, vsub := 2, alignW := 2, alignH := 2
    alignWCpu := 1, tileSize := 1, hasAlpha := false, isRgb := false, isYuv := true
    afbc := true, linear := false, yuvTransform := false, blockLinear := false, afrc := false
    permittedUsage := Usage.addUniversalUsages Usage.standardUsage },
  { id := .y0l2, npln := 1, ncmp := ⟨4, 0, 0⟩, bps := 10
    bppAfbc := ⟨0, 0, 0⟩, bpp := ⟨16, 0, 0⟩, hsub := 2, vsub := 2, alignW := 2, alignH := 2
    alignWCpu := 1, tileSize := 2, hasAlpha := true, isRgb := false, isYuv := true
    afbc := false, linear := true, yuvTransform := false, blockLinear := false, afrc := false
    permittedUsage := Usage.addUniversalUsages Usage.standardUsage },
  { id := .p010, npln := 2, ncmp := ⟨1, 2, 0⟩, bps := 10
    bppAfbc := ⟨10, 20, 0⟩, bpp := ⟨16, 32, 0⟩, hsub := 2, vsub := 2, alignW := 2, alignH := 2
    alignWCpu := 1, tileSize := 1, hasAlpha := false, isRgb := false, isYuv := true
    afbc := true, linear := true, yuvTransform := false, blockLinear := true, afrc := true
    permittedUsage := Usage.addUniversalUsages Usage.standardUsage },
  { id := .nv15, npln := 2, ncmp := ⟨1, 2, 0⟩, bps := 10
    bppAfbc := ⟨0, 0, 0⟩, bpp := ⟨10, 20, 0⟩, hsub := 2, vsub := 2, alignW := 2, alignH := 2
    alignWCpu := 1, tileSize := 1, hasAlpha := false, isRgb := false, isYuv := true
    afbc := false, linear := false, yuvTransform := false, blockLinear := true, afrc := false
    permittedUsage := Usage.addUniversalUsages Usage.standardUsage },
  { id := .y210, npln := 1, ncmp := ⟨3, 0, 0⟩, bps := 10
    bppAfbc := ⟨20, 0, 0⟩, bpp := ⟨32, 0, 0⟩, hsub := 2, vsub := 1, alignW := 2, alignH := 1
    alignWCpu := 1, tileSize := 1, hasAlpha := false, isRgb := false, isYuv := true
    afbc := true, linear := true, yuvTransform := false, blockLinear := false, afrc := false
    permittedUsage := Usage.addUniversalUsages Usage.standardUsage },
  { id := .p210, npln := 2, ncmp := ⟨1, 2, 0⟩, bps := 10
    bppAfbc := ⟨10, 20, 0⟩, bpp := ⟨16, 32, 0⟩, hsub := 2, vsub := 1, alignW := 2, alignH := 1
    alignWCpu := 1, tileSize := 1, hasAlpha := false, isRgb := false, isYuv := true
    afbc := true, linear := true, yuvTransform := false, blockLinear := false, afrc := true
    permittedUsage := Usage.addUniversalUsages Usage.standardUsage },
  { id := .y410, npln := 1, ncmp := ⟨4, 0, 0⟩, bps := 10
    bppAfbc := ⟨0, 0, 0⟩, bpp := ⟨32, 0, 0⟩, hsub := 1, vsub := 1, alignW := 1, alignH := 1
    alignWCpu := 1, tileSize := 1, hasAlpha := true, isRgb := false, isYuv := true
    afbc := false, linear := true, yuvTransform := false, blockLinear := false, afrc := false
    permittedUsage := Usage.addUniversalUsages Usage.standardUsage },
  { id := .raw16, npln := 1, ncmp := ⟨1, 0, 0⟩, bps := 16
    bppAfbc := ⟨16, 0, 0⟩, bpp := ⟨16, 0, 0⟩, hsub := 0, vsub := 0, alignW := 2, alignH := 2
    alignWCpu := 16, tileSize := 1, hasAlpha := false, isRgb := false, isYuv := false
    afbc := true, linear := true, yuvTransform := false, blockLinear := false, afrc := false
    permittedUsage := Usage.addUniversalUsages Usage.standardUsage },
  { id := .raw12, npln := 1, ncmp := ⟨1, 0, 0⟩, bps := 12
    bppAfbc := ⟨0, 0, 0⟩, bpp := ⟨12, 0, 0⟩, hsub := 0, vsub := 0, alignW := 4, alignH := 2
    alignWCpu := 4, tileSize := 1, hasAlpha := false, isRgb := false, isYuv := false
    afbc := false, linear := true, yuvTransform := false, blockLinear := false, afrc := false
    permittedUsage := Usage.addUniversalUsages (Usage.hwCameraWrite ||| Usage.hwCameraRead |||
      Usage.renderscript ||| Usage.hwTexture ||| Usage.hwRender) },
  { id := .raw10, npln := 1, ncmp := ⟨1, 0, 0⟩, bps := 10
    bppAfbc := ⟨0, 0, 0⟩, bpp := ⟨10, 0, 0⟩, hsub := 0, vsub := 0, alignW := 4, alignH := 2
    alignWCpu := 4, tileSize := 1, hasAlpha := false, isRgb := false, isYuv := false
    afbc := false, linear := true, yuvTransform := false, blockLinear := false, afrc := false
    permittedUsage := Usage.addUniversalUsages (Usage.hwCameraWrite ||| Usage.hwCameraRead |||
      Usage.renderscript ||| Usage.hwTexture ||| Usage.hwRender) },
  { id := .blob, npln := 1, ncmp := ⟨1, 0, 0⟩, bps := 8
    bppAfbc := ⟨0, 0, 0⟩, bpp := ⟨8, 0, 0⟩, hsub := 0, vsub := 0, alignW := 1, alignH := 1
    alignWCpu := 1, tileSize := 1, hasAlpha := false, isRgb := false, isYuv := false
    afbc := false, linear := true, yuvTransform := false, blockLinear := false, afrc := false
    permittedUsage := Usage.addUniversalUsages Usage.standardUsage },
  { id := .depth16, npln := 1, ncmp := ⟨1, 0, 0⟩, bps := 16
    bppAfbc := ⟨16, 0, 0⟩, bpp := ⟨16, 0, 0⟩, hsub := 0, vsub := 0, alignW := 1, alignH := 1
    alignWCpu := 1, tileSize := 1, hasAlpha := false, isRgb := false, isYuv := false
    afbc := true, linear := true, yuvTransform := false, blockLinear := false, afrc := false
    permittedUsage := Usage.addUniversalUsages Usage.standardUsage },
  { id := .depth24, npln := 1, ncmp := ⟨1, 0, 0⟩, bps := 24
    bppAfbc := ⟨0, 0, 0⟩, bpp := ⟨24, 0, 0⟩, hsub := 0, vsub := 0, alignW := 1, alignH := 1
    alignWCpu := 1, tileSize := 1, hasAlpha := false, isRgb := false, isYuv := false
    afbc := false, linear := true, yuvTransform := false, blockLinear := false, afrc := false
    permittedUsage := Usage.addUniversalUsages Usage.standardUsage },
  { id := .depth24Stencil8, npln := 1, ncmp := ⟨2, 0, 0⟩, bps := 24
    bppAfbc := ⟨0, 0, 0⟩, bpp := ⟨32, 0, 0⟩, hsub := 0, vsub := 0, alignW := 1, alignH := 1
    alignWCpu := 1, tileSize := 1, hasAlpha := false, isRgb := false, isYuv := false
    afbc := false, linear := true, yuvTransform := false, blockLinear := false, afrc := false
    permittedUsage := Usage.addUniversalUsages Usage.standardUsage },
  { id := .depth24Stencil8Afbc, npln := 2, ncmp := ⟨1, 1, 0⟩, bps := 24
    bppAfbc := ⟨24, 8, 0⟩, bpp := ⟨0, 0, 0⟩, hsub := 0, vsub := 0, alignW := 1, alignH := 1
    alignWCpu := 1, tileSize := 1, hasAlpha := false, isRgb := false, isYuv := false
    afbc := true, linear := false, yuvTransform := false, blockLinear := false, afrc := false
    permittedUsage := Usage.addUniversalUsages Usage.standardUsage },
  { id := .depth32f, npln := 1, ncmp := ⟨1, 0, 0⟩, bps := 32
    bppAfbc := ⟨32, 0, 0⟩, bpp := ⟨32, 0, 0⟩, hsub := 0, vsub := 0, alignW := 1, alignH := 1
    alignWCpu := 1, tileSize := 1, hasAlpha := false, isRgb := false, isYuv := false
    afbc := true, linear := true, yuvTransform := false, blockLinear := false, afrc := false
    permittedUsage := Usage.addUniversalUsages Usage.standardUsage },
  { id := .depth32fStencil8, npln := 1, ncmp := ⟨2, 0, 0⟩, bps := 32
    bppAfbc := ⟨0, 0, 0⟩, bpp := ⟨40, 0, 0⟩, hsub := 0, vsub := 0, alignW := 1, alignH := 1
    alignWCpu := 1, tileSize := 1, hasAlpha := false, isRgb := false, isYuv := false
    afbc := false, linear := true, yuvTransform := false, blockLinear := false, afrc := false
    permittedUsage := Usage.addUniversalUsages Usage.standardUsage },
  { id := .stencil8, npln := 1, ncmp := ⟨1, 0, 0⟩, bps := 8
    bppAfbc := ⟨0, 0, 0⟩, bpp := ⟨8, 0, 0⟩, hsub := 0, vsub := 0, alignW := 1, alignH := 1
    alignWCpu := 1, tileSize := 1, hasAlpha := false, isRgb := false, isYuv := false
    afbc := false, linear := true, yuvTransform := false, blockLinear := false, afrc := false
    permittedUsage := Usage.addUniversalUsages Usage.standardUsage },
  { id := .r8, npln := 1, ncmp := ⟨1, 0, 0⟩, bps := 8
    bppAfbc := ⟨0, 0, 0⟩, bpp := ⟨8, 0, 0⟩, hsub := 0, vsub := 0, alignW := 1, alignH := 1
    alignWCpu := 1, tileSize := 1, hasAlpha := false, isRgb := true, isYuv := false
    afbc := false, linear := true, yuvTransform := false, blockLinear := false, afrc := false
    permittedUsage := Usage.addUniversalUsages (Usage.hwTexture ||| Usage.hwRender) },
  { id := .yuv444_8bitI, npln := 1, ncmp := ⟨3, 0, 0⟩, bps := 8
    bppAfbc := ⟨0, 0, 0⟩, bpp := ⟨24, 0, 0⟩, hsub := 1, vsub := 1, alignW := 1, alignH := 1
    alignWCpu := 1, tileSize := 1, hasAlpha := false, isRgb := false, isYuv := true
    afbc := false, linear := true, yuvTransform := false, blockLinear := false, afrc := false
    permittedUsage := Usage.addUniversalUsages Usage.standardUsage }]

open SupportFlags in
/-- The support table. -/
def formatsIpSupport : List FormatIpSupport := [
  { id := .rgb565, cpuWr := fLin, cpuRd := fLin, gpuWr := fLin ||| fAfbc
    gpuRd := fLin ||| fAfbc, dpuWr := fNone, dpuRd := fLin ||| fAfbc
    dpuAeuWr := fAfbc, vpuWr := fNone, vpuRd := fNone, camWr := fNone },
  { id := .rgb888, cpuWr := fLin, cpuRd := fLin, gpuWr := fLin ||| fAfbc ||| fAfrc
    gpuRd := fLin ||| fAfbc ||| fAfrc, dpuWr := fLin, dpuRd := fLin ||| fAfbc ||| fAfrc
    dpuAeuWr := fAfbc, vpuWr := fNone, vpuRd := fNone, camWr := fNone },
  { id := .rgba8888, cpuWr := fLin, cpuRd := fLin, gpuWr := fLin ||| fAfbc ||| fAfrc
    gpuRd := fLin ||| fAfbc ||| fAfrc, dpuWr := fLin, dpuRd := fLin ||| fAfbc ||| fAfrc
    dpuAeuWr := fAfbc, vpuWr := fNone, vpuRd := fLin, camWr := fNone },
  { id := .bgra8888, cpuWr := fLin, cpuRd := fLin, gpuWr := fLin
    gpuRd := fLin, dpuWr := fLin, dpuRd := fLin
    dpuAeuWr := fNone, vpuWr := fNone, vpuRd := fLin, camWr := fNone },
  { id := .rgbx8888, cpuWr := fLin, cpuRd := fLin, gpuWr := fLin ||| fAfbc
    gpuRd := fLin ||| fAfbc, dpuWr := fLin, dpuRd := fLin ||| fAfbc
    dpuAeuWr := fNone, vpuWr := fNone, vpuRd := fNone, camWr := fNone },
  { id := .rgba1010102, cpuWr := fLin, cpuRd := fLin, gpuWr := fLin ||| fAfbc
    gpuRd := fLin ||| fAfbc, dpuWr := fLin, dpuRd := fLin ||| fAfbc
    dpuAeuWr := fAfbc, vpuWr := fLin, vpuRd := fLin, camWr := fNone },
  { id := .rgba16161616, cpuWr := fLin, cpuRd := fLin, gpuWr := fLin ||| fAfbc
    gpuRd := fLin ||| fAfbc, dpuWr := fNone, dpuRd := fNone
    dpuAeuWr := fNone, vpuWr := fNone, vpuRd := fNone, camWr := fLin ||| fAfbc },
  { id := .rgba10101010, cpuWr := fLin, cpuRd := fLin, gpuWr := fLin ||| fAfbc ||| fAfrc
    gpuRd := fLin ||| fAfbc ||| fAfrc, dpuWr := fNone, dpuRd := fNone
    dpuAeuWr := fNone, vpuWr := fNone, vpuRd := fNone, camWr := fNone },
  { id := .y8, cpuWr := fLin, cpuRd := fLin, gpuWr := fNone
    gpuRd := fNone, dpuWr := fNone, dpuRd := fNone
    dpuAeuWr := fNone, vpuWr := fNone, vpuRd := fNone, camWr := fNone },
  { id := .y16, cpuWr := fLin, cpuRd := fLin, gpuWr := fNone
    gpuRd := fNone, dpuWr := fNone, dpuRd := fNone
    dpuAeuWr := fNone, vpuWr := fNone, vpuRd := fNone, camWr := fNone },
  { id := .yuv420_8bitI, cpuWr := fNone, cpuRd := fNone, gpuWr := fAfbc
    gpuRd := fAfbc, dpuWr := fNone, dpuRd := fAfbc
    dpuAeuWr := fAfbc, vpuWr := fAfbc, vpuRd := fAfbc, camWr := fNone },
  { id := .rg16, cpuWr := fLin, cpuRd := fLin, gpuWr := fLin ||| fAfbc
    gpuRd := fLin ||| fAfbc, dpuWr := fNone, dpuRd := fLin ||| fAfbc
    dpuAeuWr := fNone, vpuWr := fNone, vpuRd := fNone, camWr := fLin ||| fAfbc },
  { id := .nv12, cpuWr := fLin, cpuRd := fLin, gpuWr := fLin ||| fBlYuv ||| fAfrc
    gpuRd := fLin ||| fAfbc ||| fBlYuv ||| fAfrc, dpuWr := fLin, dpuRd := fLin ||| fAfrc
    dpuAeuWr := fNone, vpuWr := fLin ||| fAfbc ||| fBlYuv, vpuRd := fLin, camWr := fLin },
  { id := .nv21, cpuWr := fLin, cpuRd := fLin, gpuWr := fLin ||| fAfrc
    gpuRd := fLin ||| fAfrc, dpuWr := fLin, dpuRd := fLin ||| fAfrc
    dpuAeuWr := fNone, vpuWr := fLin, vpuRd := fLin, camWr := fLin },
  { id := .yv12, cpuWr := fLin, cpuRd := fLin, gpuWr := fLin ||| fAfrc
    gpuRd := fLin ||| fAfrc, dpuWr := fNone, dpuRd := fLin ||| fAfrc
    dpuAeuWr := fNone, vpuWr := fLin, vpuRd := fLin, camWr := fLin },
  { id := .yu12, cpuWr := fLin, cpuRd := fLin, gpuWr := fLin ||| fAfrc
    gpuRd := fLin ||| fAfrc, dpuWr := fNone, dpuRd := fLin ||| fAfrc
    dpuAeuWr := fNone, vpuWr := fLin, vpuRd := fLin, camWr := fNone },
  { id := .yuv422_8bit, cpuWr := fLin, cpuRd := fLin, gpuWr := fLin ||| fAfbc
    gpuRd := fLin ||| fAfbc, dpuWr := fNone, dpuRd := fLin ||| fAfbc
    dpuAeuWr := fAfbc, vpuWr := fNone, vpuRd := fNone, camWr := fNone },
  { id := .nv16, cpuWr := fLin, cpuRd := fLin, gpuWr := fLin ||| fBlYuv ||| fAfrc
    gpuRd := fLin ||| fAfbc ||| fBlYuv ||| fAfrc, dpuWr := fNone, dpuRd := fNone ||| fAfrc
    dpuAeuWr := fNone, vpuWr := fAfbc ||| fBlYuv, vpuRd := fNone, camWr := fNone },
  { id := .yuv444, cpuWr := fNone, cpuRd := fNone, gpuWr := fAfrc
    gpuRd := fAfrc, dpuWr := fNone, dpuRd := fAfrc
    dpuAeuWr := fNone, vpuWr := fNone, vpuRd := fNone, camWr := fNone },
  { id := .q410, cpuWr := fNone, cpuRd := fNone, gpuWr := fAfrc
    gpuRd := fAfrc, dpuWr := fNone, dpuRd := fAfrc
    dpuAeuWr := fNone, vpuWr := fNone, vpuRd := fNone, camWr := fNone },
  { id := .q401, cpuWr := fNone, cpuRd := fNone, gpuWr := fAfrc
    gpuRd := fAfrc, dpuWr := fNone, dpuRd := fAfrc
    dpuAeuWr := fNone, vpuWr := fNone, vpuRd := fNone, camWr := fNone },
  { id := .yuv420_10bitI, cpuWr := fNone, cpuRd := fNone, gpuWr := fAfbc
    gpuRd := fAfbc, dpuWr := fNone, dpuRd := fAfbc
    dpuAeuWr := fAfbc, vpuWr := fAfbc, vpuRd := fAfbc, camWr := fNone },
  { id := .y0l2, cpuWr := fLin, cpuRd := fLin, gpuWr := fLin
    gpuRd := fLin, dpuWr := fNone, dpuRd := fLin
    dpuAeuWr := fNone, vpuWr := fLin, vpuRd := fLin, camWr := fNone },
  { id := .p010, cpuWr := fLin, cpuRd := fLin, gpuWr := fLin ||| fBlYuv ||| fAfrc
    gpuRd := fLin ||| fBlYuv ||| fAfrc, dpuWr := fNone, dpuRd := fLin ||| fAfrc
    dpuAeuWr := fNone, vpuWr := fLin ||| fBlYuv, vpuRd := fLin, camWr := fNone },
  { id := .nv15, cpuWr := fNone, cpuRd := fNone, gpuWr := fNone
    gpuRd := fBlYuv, dpuWr := fNone, dpuRd := fNone
    dpuAeuWr := fNone, vpuWr := fBlYuv, vpuRd := fNone, camWr := fNone },
  { id := .y210, cpuWr := fLin, cpuRd := fLin, gpuWr := fLin ||| fAfbc
    gpuRd := fLin ||| fAfbc, dpuWr := fNone, dpuRd := fNone
    dpuAeuWr := fNone, vpuWr := fNone, vpuRd := fNone, camWr := fNone },
  { id := .p210, cpuWr := fLin, cpuRd := fLin, gpuWr := fLin ||| fAfrc
    gpuRd := fLin ||| fAfrc, dpuWr := fNone, dpuRd := fNone ||| fAfrc
    dpuAeuWr := fNone, vpuWr := fNone, vpuRd := fNone, camWr := fNone },
  { id := .y410, cpuWr := fLin, cpuRd := fLin, gpuWr := fLin ||| fAfbc
    gpuRd := fLin, dpuWr := fNone, dpuRd := fNone
    dpuAeuWr := fNone, vpuWr := fNone, vpuRd := fNone, camWr := fNone },
  { id := .raw16, cpuWr := fLin, cpuRd := fLin, gpuWr := fLin ||| fAfbc
    gpuRd := fLin ||| fAfbc, dpuWr := fNone, dpuRd := fLin ||| fAfbc
    dpuAeuWr := fNone, vpuWr := fNone, vpuRd := fNone, camWr := fLin ||| fAfbc },
  { id := .raw12, cpuWr := fLin, cpuRd := fLin, gpuWr := fNone
    gpuRd := fNone, dpuWr := fNone, dpuRd := fNone
    dpuAeuWr := fNone, vpuWr := fNone, vpuRd := fNone, camWr := fNone },
  { id := .raw10, cpuWr := fLin, cpuRd := fLin, gpuWr := fNone
    gpuRd := fNone, dpuWr := fNone, dpuRd := fNone
    dpuAeuWr := fNone, vpuWr := fNone, vpuRd := fNone, camWr := fNone },
  { id := .blob, cpuWr := fLin, cpuRd := fLin, gpuWr := fLin
    gpuRd := fLin, dpuWr := fNone, dpuRd := fNone
    dpuAeuWr := fNone, vpuWr := fNone, vpuRd := fNone, camWr := fLin },
  { id := .depth16, cpuWr := fLin, cpuRd := fLin, gpuWr := fNone
    gpuRd := fNone, dpuWr := fNone, dpuRd := fNone
    dpuAeuWr := fNone, vpuWr := fNone, vpuRd := fNone, camWr := fNone },
  { id := .depth24, cpuWr := fLin, cpuRd := fLin, gpuWr := fNone
    gpuRd := fNone, dpuWr := fNone, dpuRd := fNone
    dpuAeuWr := fNone, vpuWr := fNone, vpuRd := fNone, camWr := fNone },
  { id := .depth24Stencil8, cpuWr := fLin, cpuRd := fLin, gpuWr := fNone
    gpuRd := fNone, dpuWr := fNone, dpuRd := fNone
    dpuAeuWr := fNone, vpuWr := fNone, vpuRd := fNone, camWr := fNone },
  { id := .depth24Stencil8Afbc, cpuWr := fNone, cpuRd := fNone, gpuWr := fAfbc
    gpuRd := fAfbc, dpuWr := fNone, dpuRd := fNone
    dpuAeuWr := fNone, vpuWr := fNone, vpuRd := fNone, camWr := fNone },
  { id := .depth32f, cpuWr := fLin, cpuRd := fLin, gpuWr := fLin ||| fAfbc
    gpuRd := fLin ||| fAfbc, dpuWr := fNone, dpuRd := fNone
    dpuAeuWr := fNone, vpuWr := fAfbc, vpuRd := fAfbc, camWr := fNone },
  { id := .depth32fStencil8, cpuWr := fLin, cpuRd := fLin, gpuWr := fNone
    gpuRd := fNone, dpuWr := fNone, dpuRd := fNone
    dpuAeuWr := fNone, vpuWr := fNone, vpuRd := fNone, camWr := fNone },
  { id := .stencil8, cpuWr := fLin, cpuRd := fLin, gpuWr := fNone
    gpuRd := fNone, dpuWr := fNone, dpuRd := fNone
    dpuAeuWr := fNone, vpuWr := fNone, vpuRd := fNone, camWr := fNone },
  { id := .r8, cpuWr := fLin, cpuRd := fLin, gpuWr := fLin
    gpuRd := fLin, dpuWr := fNone, dpuRd := fNone
    dpuAeuWr := fNone, vpuWr := fNone, vpuRd := fNone, camWr := fNone },
  { id := .yuv444_8bitI, cpuWr := fLin, cpuRd := fLin, gpuWr := fLin
    gpuRd := fLin, dpuWr := fLin, dpuRd := fLin
    dpuAeuWr := fLin, vpuWr := fLin, vpuRd := fLin, camWr := fLin }]

/-- The internal format of each framework format. -/
def halToInternalFormat : List (PixelFormat × PixelFormat) := [
  (Hal.rgba8888, .rgba8888),
  (Hal.rgbx8888, .rgbx8888),
  (Hal.rgb888, .rgb888),
  (Hal.rgb565, .rgb565),
  (Hal.bgra8888, .bgra8888),
  (Hal.ycbcr422Sp, .nv16),
  (Hal.ycrcb420Sp, .nv21),
  (Hal.ycbcr422I, .yuv422_8bit),
  (Hal.rgbaFp16, .rgba16161616),
  (Hal.raw16, .raw16),
  (Hal.blob, .blob),
  (Hal.implementationDefined, .nv12),
  (Hal.ycbcr420_888, .nv12),
  (Hal.rawOpaque, .undefined),
  (Hal.raw10, .raw10),
  (Hal.raw12, .raw12),
  (Hal.ycbcr422_888, .yuv422_8bit),
  (Hal.ycbcr444_888, .yuv444_8bitI),
  (Hal.flexRgb888, .undefined),
  (Hal.flexRgba8888, .undefined),
  (Hal.rgba1010102, .rgba1010102),
  (Hal.depth16, .depth16),
  (Hal.depth24, .depth24),
  (Hal.depth24Stencil8, .depth24Stencil8),
  (Hal.depth32f, .depth32f),
  (Hal.depth32fStencil8, .depth32fStencil8),
  (Hal.stencil8, .stencil8),
  (Hal.ycbcrP010, .p010),
  (Hal.y8, .y8),
  (Hal.y16, .y16),
  (Hal.yv12, .yv12),
  (Hal.r8, .r8),
  (Hal.r16Uint, .raw16),
  (Hal.r16g16Uint, .rg16),
  (Hal.rgba10101010, .rgba10101010)]

/-! ### Lookups -/

/-- The properties of a base format. -/
def getFormatInfo (baseFormat : PixelFormat) : Option FormatInfo :=
  formats.find? fun f => f.id == baseFormat

/-- The support of a base format. -/
def getFormatIpSupport (baseFormat : PixelFormat) : Option FormatIpSupport :=
  formatsIpSupport.find? fun f => f.id == baseFormat

/-- The internal format of a base format, framework or already internal. -/
def getInternalFormat (baseFormat : PixelFormat) : PixelFormat :=
  let internalFormat :=
    match halToInternalFormat.find? fun e => e.1 == baseFormat with
    | some e => e.2
    | none => baseFormat
  -- an entry that the format table does not list counts as none
  if (getFormatInfo internalFormat).isSome then internalFormat else .undefined

def isDepthStencilFormat (f : FormatInfo) : Bool :=
  [.depth16, .depth24, .depth32f, .depth32fStencil8, .depth24Stencil8Afbc, .depth24Stencil8,
    .stencil8].contains f.id

theorem mem_formats_of_getFormatInfo {b : PixelFormat} {f : FormatInfo}
    (h : getFormatInfo b = some f) : f ∈ formats :=
  List.mem_of_find?_eq_some h

/-! ### What the tables guarantee -/

/-- **The facts about a format that the size computation relies on.** -/
structure FormatInfo.WellFormed (f : FormatInfo) : Prop where
  npln_pos : 0 < f.npln
  npln_le : f.npln ≤ 3
  bps_pos : 0 < f.bps
  tileSize_pos : 0 < f.tileSize
  tileSize_le : f.tileSize ≤ 2
  alignW_pos : 0 < f.alignW
  alignW_le : f.alignW ≤ 4
  alignH_pos : 0 < f.alignH
  alignH_le : f.alignH ≤ 2
  alignWCpu_pos : 0 < f.alignWCpu
  alignWCpu_le : f.alignWCpu ≤ 16
  /-- A YUV format states its sub-sampling, and the rounding respects it. -/
  hsub_yuv : f.isYuv = true → (f.hsub = 1 ∨ f.hsub = 2) ∧ f.hsub ∣ f.alignW
  vsub_yuv : f.isYuv = true → (f.vsub = 1 ∨ f.vsub = 2) ∧ f.vsub ∣ f.alignH
  /-- Block-linear formats are YUV. -/
  isYuv_of_blockLinear : f.blockLinear = true → f.isYuv = true
  /-- Every plane has components. -/
  ncmp_pos : ∀ i < f.npln, 1 ≤ f.ncmp.get i ∧ f.ncmp.get i ≤ 4
  /-- Only the layouts without a linear form lack the bits per pixel. -/
  bpp_pos : f.linear = true ∨ f.blockLinear = true → ∀ i < f.npln, 8 ≤ f.bpp.get i
  bpp_le : ∀ i < 3, f.bpp.get i ≤ 64
  bppAfbc_pos : f.afbc = true → ∀ i < f.npln, 8 ≤ f.bppAfbc.get i
  bppAfbc_le : ∀ i < 3, f.bppAfbc.get i ≤ 64
  yv12 : f.id = .yv12 →
    f.isYuv = true ∧ f.tileSize = 1 ∧ f.alignWCpu = 16 ∧ f.bpp = ⟨8, 8, 8⟩

instance (f : FormatInfo) : Decidable f.WellFormed :=
  decidable_of_iff
    ((0 < f.npln ∧ f.npln ≤ 3 ∧ 0 < f.bps ∧ 0 < f.tileSize ∧ f.tileSize ≤ 2 ∧ 0 < f.alignW ∧
      f.alignW ≤ 4 ∧ 0 < f.alignH ∧ f.alignH ≤ 2 ∧ 0 < f.alignWCpu ∧ f.alignWCpu ≤ 16) ∧
      (f.isYuv = true → (f.hsub = 1 ∨ f.hsub = 2) ∧ f.hsub ∣ f.alignW) ∧
      (f.isYuv = true → (f.vsub = 1 ∨ f.vsub = 2) ∧ f.vsub ∣ f.alignH) ∧
      (f.blockLinear = true → f.isYuv = true) ∧
      (∀ i < f.npln, 1 ≤ f.ncmp.get i ∧ f.ncmp.get i ≤ 4) ∧
      (f.linear = true ∨ f.blockLinear = true → ∀ i < f.npln, 8 ≤ f.bpp.get i) ∧
      (∀ i < 3, f.bpp.get i ≤ 64) ∧
      (f.afbc = true → ∀ i < f.npln, 8 ≤ f.bppAfbc.get i) ∧
      (∀ i < 3, f.bppAfbc.get i ≤ 64) ∧
      (f.id = .yv12 → f.isYuv = true ∧ f.tileSize = 1 ∧ f.alignWCpu = 16 ∧ f.bpp = ⟨8, 8, 8⟩))
    ⟨fun ⟨⟨h₁, h₂, h₃, h₄, h₅, h₆, h₇, h₈, h₉, h₁₀, h₁₁⟩, h₁₂, h₁₃, h₁₄, h₁₅, h₁₆, h₁₇, h₁₈,
        h₁₉, h₂₀⟩ =>
      ⟨h₁, h₂, h₃, h₄, h₅, h₆, h₇, h₈, h₉, h₁₀, h₁₁, h₁₂, h₁₃, h₁₄, h₁₅, h₁₆, h₁₇, h₁₈, h₁₉, h₂₀⟩,
      fun h => ⟨⟨h.1, h.2, h.3, h.4, h.5, h.6, h.7, h.8, h.9, h.10, h.11⟩, h.12, h.13, h.14, h.15,
        h.16, h.17, h.18, h.19, h.20⟩⟩

/-- Every entry of the table is well formed. -/
theorem wellFormed_of_mem_formats : ∀ f ∈ formats, f.WellFormed := by decide

/-- **The block-linear formats** have two planes, of which the second holds half as many
samples a row, of twice the bits. -/
theorem blockLinear_of_mem_formats : ∀ f ∈ formats, f.blockLinear = true →
    f.npln = 2 ∧ f.hsub = 2 ∧ f.alignWCpu = 1 ∧ f.tileSize = 1 ∧ f.bpp.p1 = 2 * f.bpp.p0 := by
  decide

/-- YV12 is sub-sampled by two in both directions. -/
theorem yv12_of_mem_formats : ∀ f ∈ formats, f.id = .yv12 →
    f.hsub = 2 ∧ f.vsub = 2 ∧ f.alignW = 2 := by
  decide

end Gralloc
