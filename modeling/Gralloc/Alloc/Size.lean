import Gralloc.Alloc.Type
import Gralloc.CInt.Align

/-!
# Sizing the planes of a buffer

`Gralloc.calcAllocationSize` is the size computation of the allocator: plane after plane
it rounds the dimensions up (`Gralloc.getPixelWH`), derives the byte stride, the body and
the AFBC header, places the plane after the ones before it and adds its bytes to the
size. Its integers are of mixed width, and it is transcribed once, over a reading
`A : CInt.Arith` of C arithmetic; what is stored where, and hence where a result may be
reduced, is visible as an `A.u32`, an `A.i32` or an `A.u64` at the place of the store.

Small constants – bits per pixel, superblocks, clumps and tiles, all of them 8- or 16-bit
entries of a table – are natural numbers and never reduced. The operand of a
divisibility assertion is reduced to 32 bits in every reading, since nothing but the
assertion reads it.

The pixel stride, which is computed in the middle of plane 0 but not used by the size
computation, is a parameter `onLuma` of the loop: the machine passes
`Gralloc.pixelStride`, and a statement about sizes alone may pass a constant.
-/

namespace Gralloc

open CInt

/-- The layout of one plane. -/
structure PlaneInfo where
  /-- Start of the plane, in bytes from the start of the allocation. -/
  offset : ℕ
  byteStride : ℕ
  allocWidth : ℕ
  allocHeight : ℕ
  deriving DecidableEq, Repr

/-- The layout of a buffer. -/
abbrev PlaneLayout : Type := Planes PlaneInfo

/-- A layout that was never written. -/
def PlaneLayout.zero : PlaneLayout := ⟨⟨0, 0, 0, 0⟩, ⟨0, 0, 0, 0⟩, ⟨0, 0, 0, 0⟩⟩

/-- The factors by which a plane is sub-sampled. -/
def FormatInfo.subsampling (f : FormatInfo) (plane : ℕ) : Rect :=
  if 0 < plane ∧ f.isYuv then ⟨f.hsub, f.vsub⟩ else ⟨1, 1⟩

/-! ### Least common multiples -/

/-- Euclid's loop, with the number of its iterations bounded. -/
def gcdLoop : ℕ → ℕ → ℕ → ℕ
  | 0, a, _ => a
  | n + 1, a, b => if b = 0 then a else gcdLoop n b (a % b)

def gcd (a b : ℕ) : ℕ :=
  if a = b then a
  else if a < b then gcdLoop (a + 1) b a
  else gcdLoop (b + 1) a b

def lcm (A : Arith) (a b : ℕ) : Run ℕ :=
  if a ≠ 0 ∧ b ≠ 0 then do
    let p ← A.u32 (a * b : ℕ)
    udiv p (gcd a b)
  else .ok (max a b)

/-- Euclid's loop ends within its bound. -/
theorem gcdLoop_eq {n a b : ℕ} (h : b < n) : gcdLoop n a b = a.gcd b := by
  induction n generalizing a b with
  | zero => exact absurd h (Nat.not_lt_zero b)
  | succ n ih =>
    rw [gcdLoop]
    split_ifs with hb
    · rw [hb, Nat.gcd_zero_right]
    · have hlt := Nat.mod_lt a (Nat.pos_of_ne_zero hb)
      rw [ih (by omega), Nat.gcd_comm b, ← Nat.gcd_rec, Nat.gcd_comm]

theorem gcd_eq (a b : ℕ) : gcd a b = a.gcd b := by
  unfold gcd
  split_ifs with hab hlt
  · rw [hab, Nat.gcd_self]
  · rw [gcdLoop_eq (Nat.lt_succ_self a), Nat.gcd_comm]
  · exact gcdLoop_eq (Nat.lt_succ_self b)

/-! ### Dimensions -/

section Planes

variable (A : Arith) (f : FormatInfo) (t : AllocType) (usage : Usage)

/-- The AFBC tile of a plane: a superblock, or a square of them under tiled headers. -/
def afbcTile (plane : ℕ) : Rect :=
  let sb := getAfbcSbSize t f plane
  if t.isTiled then
    let n := if 32 < f.bppAfbc.get plane then 4 else 8
    ⟨n * sb.width, n * sb.height⟩
  else sb

/-- The alignment of an AFBC plane, in pixels. -/
def afbcPixelAlign (plane : ℕ) : Rect :=
  let sb := getAfbcSbSize t f plane
  let numSbAlign := if t.isPadded && !f.isYuv then 4 else 0
  let tile := afbcTile f t plane
  let height := max 1 tile.height
  -- Wide blocks with linear headers are read and written 32 × 16.
  ⟨max (numSbAlign * sb.width) tile.width,
    if t.primaryType == .afbcWideblk && !t.isTiled then max height 16 else height⟩

/-- The alignment of a plane, in pixels. -/
def pixelAlign (plane : ℕ) (hasCpu : Bool) : Rect :=
  if hasCpu then ⟨f.alignWCpu, 1⟩
  else if t.isAfbc then afbcPixelAlign f t plane
  else if t.isAfrc then
    ⟨t.afrc.pagingTileWidth * t.afrc.clumpWidth.get plane,
      t.afrc.pagingTileHeight * t.afrc.clumpHeight.get plane⟩
  else if t.isBlockLinear then ⟨16, 16⟩
  else ⟨1, 1⟩

/-- What the width and the height of a plane are finally rounded up to. -/
def finalAlign (plane : ℕ) (hasCpu : Bool) : Rect :=
  let align := pixelAlign f t plane hasCpu
  ⟨max (max 1 align.width) f.tileSize, max (max 1 align.height) f.tileSize⟩

/-- The dimensions of a plane, in pixels. -/
def getPixelWH (plane : ℕ) (hasCpu : Bool) (width height : ℕ) : Run (ℕ × ℕ) := do
  let w ← A.alignU32 width f.alignW
  let h ← A.alignU32 height f.alignH
  let w ← udiv w (f.subsampling plane).width
  let h ← udiv h (f.subsampling plane).height
  let w ← A.alignU32 w (finalAlign f t plane hasCpu).width
  let h ← A.alignU32 h (finalAlign f t plane hasCpu).height
  .ok (w, h)

/-! ### Byte strides -/

/-- The stride of an AFRC plane: that of a row of paging tiles, per row of samples. -/
def afrcByteStride (plane allocWidth : ℕ) : Run ℕ := do
  let clumps ← udiv allocWidth (t.afrc.clumpWidth.get plane)
  let pagingTileStride ← udiv clumps t.afrc.pagingTileWidth
  let pagingTileByteStride ← A.u32 (pagingTileStride * 64 * t.codingUnitBytes plane : ℕ)
  let pagingTileSampleHeight := t.afrc.pagingTileHeight * t.afrc.clumpHeight.get plane
  -- a paging tile holds whole rows of bytes
  let r ← umod pagingTileByteStride pagingTileSampleHeight
  assert (r = 0)
  udiv pagingTileByteStride pagingTileSampleHeight

/-- The stride of an AFBC plane: its bits per row, uncompressed. -/
def afbcByteStride (plane allocWidth : ℕ) : Run ℕ := do
  let bits ← A.u32 (allocWidth * f.bppAfbc.get plane : ℕ)
  assert (bits % 8 = 0)
  .ok (bits / 8)

/-- The sides of the samples of a plane in a block of 16 × 16 pixels. -/
def blockSamples (plane : ℕ) : Run Rect :=
  if 0 < plane then do
    let height ← udiv 16 f.vsub
    let width ← udiv 16 f.hsub
    .ok ⟨width, height⟩
  else .ok ⟨16, 16⟩

/-- The stride of a block-linear plane: the blocks of the first plane, per row. -/
def blockLinearByteStride (plane allocWidth lumaAllocWidth : ℕ) : Run ℕ := do
  assert (allocWidth * f.bpp.get plane % 2 ^ 32 % 8 = 0)
  let sample ← blockSamples f plane
  let bytesPerBlock := sample.height * sample.width * f.bpp.get plane / 8
  let r ← umod bytesPerBlock sample.height
  assert (r = 0)
  let numberOfXBlocks := lumaAllocWidth / 16
  assert (0 < numberOfXBlocks)
  let blockStride ← A.u32 (numberOfXBlocks * bytesPerBlock : ℕ)
  udiv blockStride sample.height

/-- The alignment of a linear row for the CPU, in bytes. -/
def cpuByteAlign (plane : ℕ) : Run ℕ := do
  assert (f.bpp.get plane * f.alignWCpu % 8 = 0)
  .ok (f.bpp.get plane * f.alignWCpu / 8)

/-- The alignment of a linear row that both the hardware and the CPU accept. -/
def strideAlign (plane : ℕ) : Run ℕ := do
  let hwAlign := if usage.hasHw then (if f.isYuv then 32 else 64) else 0
  let cpuAlign ← stepIf usage.hasCpu (cpuByteAlign f plane) 0
  lcm A hwAlign cpuAlign

/-- YV12 under CPU and hardware access: chroma rows are half the luma rows, so these are
aligned to twice the alignment. -/
def updateYv12Stride (plane lumaStride strideAlign : ℕ) : Run ℕ :=
  if plane = 0 then A.alignU32 lumaStride (2 * strideAlign)
  else do
    let byteStride := lumaStride / 2
    let aligned ← A.alignU32 byteStride strideAlign
    assert (byteStride = aligned)
    assert (byteStride % 16 = 0)
    .ok byteStride

/-- The format has YV12 rows that the CPU and the hardware share. -/
def isSharedYv12 : Bool := f.id == .yv12 && usage.hasHw && usage.hasCpu

/-- A row of tiles, aligned, per row of pixels. -/
def alignTileStride (byteStride align : ℕ) : Run ℕ := do
  let tileStride ← A.u32 (byteStride * f.tileSize : ℕ)
  let tileStride ← A.alignU32 tileStride align
  udiv tileStride f.tileSize

/-- The stride of a linear plane. -/
def linearByteStride (plane allocWidth lumaStride : ℕ) : Run ℕ := do
  assert (allocWidth * f.bpp.get plane % 2 ^ 32 % 8 = 0)
  let bits ← A.u64 (allocWidth * f.bpp.get plane : ℕ)
  let byteStride ← A.u32 (bits / 8 : ℕ)
  let align ← strideAlign A f usage plane
  let byteStride ← stepIf (align ≠ 0) (alignTileStride A f byteStride align) byteStride
  stepIf (isSharedYv12 f usage)
    (updateYv12Stride A plane (if plane = 0 then byteStride else lumaStride) align) byteStride

/-- The stride of a plane, in bytes; the layout already holds its dimensions. -/
def byteStride (plane : ℕ) (planeInfo : PlaneLayout) : Run ℕ :=
  let allocWidth := (planeInfo.get plane).allocWidth
  if t.isAfrc then afrcByteStride A t plane allocWidth
  else if t.isAfbc then afbcByteStride A f plane allocWidth
  else if t.isBlockLinear then
    blockLinearByteStride A f plane allocWidth (planeInfo.get 0).allocWidth
  else linearByteStride A f usage plane allocWidth (planeInfo.get 0).byteStride

/-- The pixel stride exposed to clients: the luma row, in pixels. -/
def pixelStride (byteStride : ℕ) : Run ℤ := do
  let bits ← A.u32 (byteStride * 8 : ℕ)
  -- made of every layout: the test for linear rows that the CPU reads is compiled out
  let r ← umod bits f.bpp.p0
  assert (r = 0)
  let pixels ← udiv bits f.bpp.p0
  A.i32 pixels

/-! ### Bodies and headers -/

/-- The alignment of AFBC headers and bodies. -/
def afbcBufferAlignment : ℕ := if t.isTiled then 4 * 1024 else 1024

def afbcBufferAlign (size : ℤ) : Run ℤ := A.alignI32 size (afbcBufferAlignment t)

/-- The bytes of the body of one superblock. -/
def sbBytes (plane : ℕ) : ℕ :=
  let sb := getAfbcSbSize t f plane
  alignUp (f.bppAfbc.get plane * sb.width * sb.height / 8) 128

/-- A body followed by a second one, which starts aligned. -/
def doubleBody (body : ℤ) : Run ℤ := do
  let back ← afbcBufferAlign A t body
  A.i32 (body + back)

/-- The body of an AFBC plane, twice for a front buffer. -/
def afbcBodySize (plane sbNum : ℕ) : Run ℤ := do
  let body ← A.u32 (sbNum * sbBytes f t plane : ℕ)
  let body ← A.i32 body
  let body ← stepIf (1 < f.npln ∧ plane < 2) (afbcBufferAlign A t body) body
  stepIf t.isFrontbufferSafe (doubleBody A t body) body

/-- The body of an AFRC plane: its coding units. -/
def afrcBodySize (plane allocWidth allocHeight : ℕ) : Run ℤ := do
  let s ← udiv allocWidth (t.afrc.clumpWidth.get plane)
  let u ← udiv allocHeight (t.afrc.clumpHeight.get plane)
  let body ← A.u32 (s * u * t.codingUnitBytes plane : ℕ)
  A.i32 body

/-- The body of a block-linear plane: the rows of blocks of the first plane. -/
def blockLinearBodySize (plane byteStride lumaAllocHeight : ℕ) : Run ℤ := do
  let blockHeight ← stepIf (0 < plane) (udiv 16 f.vsub) 16
  let blockSize ← A.u32 (byteStride * blockHeight : ℕ)
  let body ← A.u32 (blockSize * (lumaAllocHeight / 16) : ℕ)
  A.i32 body

/-- The body of a linear plane: its rows. -/
def linearBodySize (byteStride allocHeight : ℕ) : Run ℤ := do
  let body ← A.u32 (byteStride * allocHeight : ℕ)
  A.i32 body

/-- The body of a plane; the layout already holds its dimensions and its stride. -/
def bodySize (plane : ℕ) (planeInfo : PlaneLayout) (sbNum : ℕ) : Run ℤ :=
  let p := planeInfo.get plane
  if t.isAfbc then afbcBodySize A f t plane sbNum
  else if t.isAfrc then afrcBodySize A t plane p.allocWidth p.allocHeight
  else if t.isBlockLinear then
    blockLinearBodySize A f plane p.byteStride (planeInfo.get 0).allocHeight
  else linearBodySize A p.byteStride p.allocHeight

/-- The header of an AFBC plane: 16 bytes a superblock. -/
def headerSize (sbNum : ℕ) : Run ℤ :=
  if t.isAfbc then do
    let header ← A.u32 (sbNum * 16 : ℕ)
    let header ← A.i32 header
    afbcBufferAlign A t header
  else .ok 0

/-- Where a plane starts, from where the one before it ends. -/
def planeStart (plane size : ℕ) : Run ℕ :=
  if t.isAfrc then A.alignU64 size (t.planeAlignment plane) else .ok size

/-! ### The loop -/

/-- What the loop over the planes has computed so far. -/
structure SizeState where
  planeInfo : PlaneLayout
  pixelStride : ℤ
  size : ℕ
  deriving DecidableEq, Repr

/-- One plane. -/
def sizePlane (onLuma : ℕ → Run ℤ) (width height : ℤ) (plane : ℕ) (s : SizeState) :
    Run SizeState := do
  let w ← A.u32 width
  let h ← A.u32 height
  let wh ← getPixelWH A f t plane usage.hasCpu w h
  let planeInfo := s.planeInfo.set plane
    { s.planeInfo.get plane with allocWidth := wh.1, allocHeight := wh.2 }
  let stride ← byteStride A f t usage plane planeInfo
  let planeInfo := planeInfo.set plane { planeInfo.get plane with byteStride := stride }
  let pixelStride ← stepIf (plane = 0) (onLuma stride) s.pixelStride
  -- superblocks are counted by their pixels, whatever the layout
  let pixels ← A.u32 (wh.1 * wh.2 : ℕ)
  let sbNum := pixels / 256
  let start ← planeStart A t plane s.size
  let body ← bodySize A f t plane planeInfo sbNum
  let header ← headerSize A t sbNum
  -- the first plane keeps the offset it was given before the loop
  let offset ← stepIf (0 < plane) (A.u32 start) (planeInfo.get plane).offset
  let planeInfo := planeInfo.set plane { planeInfo.get plane with offset := offset }
  let share ← A.i32 (body + header)
  let size ← A.u64 (start + share)
  .ok ⟨planeInfo, pixelStride, size⟩

/-- The first planes, in order. -/
def sizePlanes (onLuma : ℕ → Run ℤ) (width height : ℤ) (s : SizeState) : ℕ → Run SizeState
  | 0 => .ok s
  | n + 1 => do
    let s ← sizePlanes onLuma width height s n
    sizePlane A f t usage onLuma width height n s

/-- The size computation, with what is done to the stride of the first plane left open. -/
def calcAllocationSizeWith (onLuma : ℕ → Run ℤ) (width height : ℤ) (planeInfo : PlaneLayout) :
    Run SizeState :=
  sizePlanes A f t usage onLuma width height
    ⟨planeInfo.set 0 { planeInfo.get 0 with offset := 0 }, 0, 0⟩ f.npln

/-- **The size computation.** -/
def calcAllocationSize : ℤ → ℤ → PlaneLayout → Run SizeState :=
  calcAllocationSizeWith A f t usage (pixelStride A f)

end Planes

end Gralloc
