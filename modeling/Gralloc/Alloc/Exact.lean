import Gralloc.Alloc.Derive

/-!
# The exact layout

Freed of machine arithmetic, the size computation is a list of closed forms: the
dimensions of a plane are two roundings, its stride and its body depend on the layout, a
plane starts where the one before it ends, rounded up for AFRC. This file states them
(`Gralloc.Exact`), over natural numbers and for requested dimensions `w × h`, with the
bound on its products (`Gralloc.Exact.Fits`) and the assertions on its row
(`Gralloc.Exact.Checks`) for each plane.

The loop of the source is tied to them by one equivalence, `Gralloc.Exact.exactly_sizePlanes`:
in the checked reading it avoids overflow exactly within the bounds, and it returns the
closed forms exactly when, besides, the assertions hold. Since the checked reading lies
below both others, this is all that is ever needed of the machine's run as long as nothing
wraps.
-/

namespace Gralloc

open CInt

namespace Exact

section Defs

variable (f : FormatInfo) (t : AllocType) (usage : Usage) (w h : ℕ)

/-! ### Closed forms -/

/-- The requested width of a plane: rounded for the format, then sub-sampled. -/
def baseWidth (plane : ℕ) : ℕ := alignUp w f.alignW / (f.subsampling plane).width

def baseHeight (plane : ℕ) : ℕ := alignUp h f.alignH / (f.subsampling plane).height

/-- The allocated width of a plane. -/
def width (plane : ℕ) : ℕ :=
  alignUp (baseWidth f w plane) (finalAlign f t plane usage.hasCpu).width

def height (plane : ℕ) : ℕ :=
  alignUp (baseHeight f h plane) (finalAlign f t plane usage.hasCpu).height

/-- The samples of a plane in a block of 16 × 16 pixels. -/
def blockRect (plane : ℕ) : Rect := if 0 < plane then ⟨16 / f.hsub, 16 / f.vsub⟩ else ⟨16, 16⟩

def bytesPerBlock (plane : ℕ) : ℕ :=
  (blockRect f plane).height * (blockRect f plane).width * f.bpp.get plane / 8

def hwAlign : ℕ := if usage.hasHw then (if f.isYuv then 32 else 64) else 0

def cpuAlign (plane : ℕ) : ℕ := if usage.hasCpu then f.bpp.get plane * f.alignWCpu / 8 else 0

/-- The alignment of a linear row; `0` when neither the CPU nor the hardware asks for
one. -/
def rowAlign (plane : ℕ) : ℕ :=
  if hwAlign f usage ≠ 0 ∧ cpuAlign f usage plane ≠ 0
  then (hwAlign f usage).lcm (cpuAlign f usage plane)
  else max (hwAlign f usage) (cpuAlign f usage plane)

/-- The bytes of a linear row. -/
def rowBytes (plane : ℕ) : ℕ := width f t usage w plane * f.bpp.get plane / 8

/-- The bytes of a linear row, aligned. -/
def rowStride (plane : ℕ) : ℕ :=
  if rowAlign f usage plane ≠ 0
  then alignUp (rowBytes f t usage w plane * f.tileSize) (rowAlign f usage plane) / f.tileSize
  else rowBytes f t usage w plane

/-- The stride of a linear plane. -/
def linearStride (plane : ℕ) : ℕ :=
  if isSharedYv12 f usage then
    if plane = 0 then alignUp (rowStride f t usage w 0) (2 * rowAlign f usage 0)
    else alignUp (rowStride f t usage w 0) (2 * rowAlign f usage 0) / 2
  else rowStride f t usage w plane

/-- The paging tiles in a row of an AFRC plane. -/
def pagingTiles (plane : ℕ) : ℕ :=
  width f t usage w plane / t.afrc.clumpWidth.get plane / t.afrc.pagingTileWidth

/-- **The byte stride of a plane.** -/
def stride (plane : ℕ) : ℕ :=
  if t.isAfrc then
    pagingTiles f t usage w plane * 64 * t.codingUnitBytes plane /
      (t.afrc.pagingTileHeight * t.afrc.clumpHeight.get plane)
  else if t.isAfbc then width f t usage w plane * f.bppAfbc.get plane / 8
  else if t.isBlockLinear then
    width f t usage w 0 / 16 * bytesPerBlock f plane / (blockRect f plane).height
  else linearStride f t usage w plane

/-- The largest product in the computation of a plane's stride. -/
def rowProduct (plane : ℕ) : ℕ :=
  if t.isAfrc then pagingTiles f t usage w plane * 64 * t.codingUnitBytes plane
  else if t.isAfbc then width f t usage w plane * f.bppAfbc.get plane
  else if t.isBlockLinear then width f t usage w 0 / 16 * bytesPerBlock f plane
  else if rowAlign f usage plane ≠ 0
  then rowBytes f t usage w plane * f.tileSize + rowAlign f usage plane - 1
  else rowBytes f t usage w plane

/-- The number of pixels of a plane. -/
def pixels (plane : ℕ) : ℕ := width f t usage w plane * height f t usage h plane

/-- The number of superblocks the code counts in a plane. -/
def sbNum (plane : ℕ) : ℕ := pixels f t usage w h plane / 256

/-- One AFBC body. -/
def afbcBody (plane : ℕ) : ℕ :=
  let body := sbNum f t usage w h plane * sbBytes f t plane
  if 1 < f.npln ∧ plane < 2 then alignUp body (afbcBufferAlignment t) else body

/-- **The body of a plane.** -/
def body (plane : ℕ) : ℕ :=
  if t.isAfbc then
    if t.isFrontbufferSafe then
      afbcBody f t usage w h plane +
        alignUp (afbcBody f t usage w h plane) (afbcBufferAlignment t)
    else afbcBody f t usage w h plane
  else if t.isAfrc then
    width f t usage w plane / t.afrc.clumpWidth.get plane *
      (height f t usage h plane / t.afrc.clumpHeight.get plane) * t.codingUnitBytes plane
  else if t.isBlockLinear then
    stride f t usage w plane * (blockRect f plane).height * (height f t usage h 0 / 16)
  else stride f t usage w plane * height f t usage h plane

/-- The header of a plane. -/
def header (plane : ℕ) : ℕ :=
  if t.isAfbc then alignUp (sbNum f t usage w h plane * 16) (afbcBufferAlignment t) else 0

/-- The bytes of a plane. -/
def share (plane : ℕ) : ℕ := body f t usage w h plane + header f t usage w h plane

/-- Where a plane starts, from the end of the one before it. -/
def startFrom (plane size : ℕ) : ℕ :=
  if t.isAfrc then alignUp size (t.planeAlignment plane) else size

/-- The size of the first planes. -/
def total : ℕ → ℕ
  | 0 => 0
  | n + 1 => startFrom t n (total n) + share f t usage w h n

/-- **The offset of a plane.** -/
def start (plane : ℕ) : ℕ := startFrom t plane (total f t usage w h plane)

/-- **The layout of a plane.** -/
def plane (i : ℕ) : PlaneInfo where
  offset := start f t usage w h i
  byteStride := stride f t usage w i
  allocWidth := width f t usage w i
  allocHeight := height f t usage h i

/-- **The products of a plane stay within their types**: those of the row, of the pixels
and of the plane's bytes, and the offset. -/
structure Fits (i : ℕ) : Prop where
  row : rowProduct f t usage w i < 2 ^ 32
  pixels : pixels f t usage w h i < 2 ^ 32
  share : share f t usage w h i < 2 ^ 31
  start : start f t usage w h i < 2 ^ 32

instance (i : ℕ) : Decidable (Fits f t usage w h i) :=
  decidable_of_iff
    (rowProduct f t usage w i < 2 ^ 32 ∧ pixels f t usage w h i < 2 ^ 32 ∧
      share f t usage w h i < 2 ^ 31 ∧ start f t usage w h i < 2 ^ 32)
    ⟨fun ⟨h₁, h₂, h₃, h₄⟩ => ⟨h₁, h₂, h₃, h₄⟩, fun ⟨h₁, h₂, h₃, h₄⟩ => ⟨h₁, h₂, h₃, h₄⟩⟩

/-- **The assertions on a plane**, of the divisibility of its row. -/
def Checks (i : ℕ) : Prop :=
  if t.isAfrc then
    rowProduct f t usage w i % (t.afrc.pagingTileHeight * t.afrc.clumpHeight.get i) = 0
  else if t.isAfbc then rowProduct f t usage w i % 8 = 0
  else if t.isBlockLinear then
    width f t usage w i * f.bpp.get i % 8 = 0 ∧
      bytesPerBlock f i % (blockRect f i).height = 0 ∧ 0 < width f t usage w 0 / 16
  else
    width f t usage w i * f.bpp.get i % 8 = 0 ∧
      (usage.hasCpu = true → f.bpp.get i * f.alignWCpu % 8 = 0) ∧
      (isSharedYv12 f usage = true → i ≠ 0 →
        linearStride f t usage w i = alignUp (linearStride f t usage w i) (rowAlign f usage i) ∧
          linearStride f t usage w i % 16 = 0)

end Defs

/-! ### Before and after the planes -/

/-- The dimensions, padded and aligned for the producers of the buffer. -/
def adjusted (format : InternalFormat) (usage : Usage) (w h : ℕ) : ℕ × ℕ :=
  let w := if padsToGpuTile format usage then alignUp w 16 else w
  let h := h + videoPadding format usage
  let h := if padsToGpuTile format usage then alignUp h 16 else h
  if usage.needDoWidthHeightAlign w h then
    (alignUp w 64, if !usage.has Usage.consumerPrivate3 then alignUp h 64 else h)
  else (w, h)

/-- **The dimensions that are sized**: aligned as the decoder asks, or else for the
producers. -/
def dims (format : InternalFormat) (d : BufferDescriptor) : ℕ × ℕ :=
  if d.hasDecoderAlign then
    (alignUp d.width.toNat d.decoderPara.wAlign.toNat,
      alignUp d.height.toNat d.decoderPara.hAlign.toNat)
  else adjusted format d.usage d.width.toNat d.height.toNat

/-- **The size of all the layers.** -/
def layers (format : InternalFormat) (layerCount : BitVec 32) (size : ℕ) : ℕ :=
  if 1 < layerCount.toNat then
    (if format.isAfbc then alignUp size (layerAlign format) else size) * layerCount.toNat
  else size

/-! ### First and sub-sampled planes -/

theorem baseWidth_zero (f : FormatInfo) (w : ℕ) : baseWidth f w 0 = alignUp w f.alignW :=
  Nat.div_one _

theorem baseHeight_zero (f : FormatInfo) (h : ℕ) : baseHeight f h 0 = alignUp h f.alignH :=
  Nat.div_one _

theorem baseWidth_of_pos {f : FormatInfo} (hy : f.isYuv = true) {plane : ℕ} (hp : 0 < plane)
    (w : ℕ) : baseWidth f w plane = alignUp w f.alignW / f.hsub := by
  rw [baseWidth, FormatInfo.subsampling, if_pos ⟨hp, hy⟩]

theorem baseHeight_of_pos {f : FormatInfo} (hy : f.isYuv = true) {plane : ℕ} (hp : 0 < plane)
    (h : ℕ) : baseHeight f h plane = alignUp h f.alignH / f.vsub := by
  rw [baseHeight, FormatInfo.subsampling, if_pos ⟨hp, hy⟩]

theorem hwAlign_of_not_hasHw (f : FormatInfo) {usage : Usage} (h : usage.hasHw = false) :
    hwAlign f usage = 0 := by
  rw [hwAlign, h]
  rfl

theorem hwAlign_of_isYuv {f : FormatInfo} (hy : f.isYuv = true) {usage : Usage}
    (h : usage.hasHw = true) : hwAlign f usage = 32 := by
  rw [hwAlign, if_pos h, if_pos hy]

theorem total_succ (f : FormatInfo) (t : AllocType) (usage : Usage) (w h n : ℕ) :
    total f t usage w h (n + 1) = start f t usage w h n + share f t usage w h n := rfl

end Exact

end Gralloc
