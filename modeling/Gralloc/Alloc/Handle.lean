import Gralloc.Alloc.Derive

/-!
# From a layout to a handle

Once a descriptor is derived, the allocator may replace its size by the fixed one of a
frame buffer (`Gralloc.setFixedBufferSize`), asks the kernel for that many bytes and
describes the result in a handle, whose fields are those of the descriptor, stored in
`int`s (`Gralloc.makePrivateHandle`).

Two things are not part of this code and are parameters. The displays of a product are
constants of its build (`Gralloc.Displays`); the heaps belong to the kernel, and all that
matters of them is whether they can serve a size, the predicate `heap`.
-/

namespace Gralloc

open CInt

/-! ### Handles -/

/-- Storing an unsigned value in an `int`. -/
def toInt (n : ℕ) : ℤ := Int.bmod n (2 ^ 32)

/-- A small value is stored as it is. -/
theorem toInt_of_lt {n : ℕ} (h : n < 2 ^ 31) : toInt n = n :=
  Int.bmod_eq_of_le_mul_two (by omega) (by omega)

theorem toInt_lt (n : ℕ) : toInt n < 2 ^ 31 := by
  have := Int.bmod_lt (x := n) (show 0 < 2 ^ 32 by decide)
  unfold toInt
  omega

theorem le_toInt (n : ℕ) : -2 ^ 31 ≤ toInt n := by
  have := Int.le_bmod (x := n) (show 0 < 2 ^ 32 by decide)
  unfold toInt
  omega

theorem bmod_congr {k m n : ℕ} (h : m % k = n % k) : Int.bmod m k = Int.bmod n k := by
  rw [← Int.emod_bmod (m : ℤ), ← Int.natCast_mod, h, Int.natCast_mod, Int.emod_bmod]

/-- Only the low 32 bits are stored. -/
theorem toInt_congr {m n : ℕ} (h : m % 2 ^ 32 = n % 2 ^ 32) : toInt m = toInt n := bmod_congr h

/-- The handle of a buffer. -/
structure PrivateHandle where
  size : ℤ
  consumerUsage : Usage
  producerUsage : Usage
  reqFormat : ℤ
  allocFormat : InternalFormat
  width : ℤ
  height : ℤ
  layerCount : ℤ
  planeInfo : PlaneLayout
  stride : ℤ
  isMultiPlane : Bool
  deriving DecidableEq, Repr

/-- The number of planes, read off the offsets. -/
def PrivateHandle.getNumPlanes (hnd : PrivateHandle) : ℕ :=
  if hnd.isMultiPlane then (if hnd.planeInfo.p2.offset = 0 then 2 else 3) else 1

/-- The handle that describes an allocated descriptor. -/
def makePrivateHandle (d : BufferDescriptor) : Option PrivateHandle :=
  d.allocFormat.getBaseInfo.map fun f =>
    { size := toInt d.size
      consumerUsage := d.consumerUsage
      producerUsage := d.producerUsage
      reqFormat := toInt d.halFormat.toNat
      allocFormat := d.allocFormat
      width := toInt d.width.toNat
      height := toInt d.height.toNat
      layerCount := toInt d.layerCount.toNat
      planeInfo := d.planeInfo
      stride := d.pixelStride
      isMultiPlane := decide (f.npln > 1) }

/-- A handle is made of every descriptor whose format has properties. -/
theorem makePrivateHandle_eq_some {d : BufferDescriptor} {f : FormatInfo}
    (hf : d.allocFormat.getBaseInfo = some f) {hnd : PrivateHandle} :
    makePrivateHandle d = some hnd ↔
      hnd =
        { size := toInt d.size
          consumerUsage := d.consumerUsage
          producerUsage := d.producerUsage
          reqFormat := toInt d.halFormat.toNat
          allocFormat := d.allocFormat
          width := toInt d.width.toNat
          height := toInt d.height.toNat
          layerCount := toInt d.layerCount.toNat
          planeInfo := d.planeInfo
          stride := d.pixelStride
          isMultiPlane := decide (f.npln > 1) } := by
  rw [makePrivateHandle, hf, Option.map_some, Option.some_inj]
  exact eq_comm

/-! ### Frame buffers -/

/-- The displays of a product. -/
structure Displays where
  displayNum : ℤ
  primaryWidth : ℤ
  primaryHeight : ℤ
  extendWidth : ℤ
  extendHeight : ℤ
  /-- The GPU has no AFBC. -/
  isUtgard : Bool
  deriving DecidableEq, Repr

section

variable (A : Arith) (displays : Displays)

/-- The width and height a frame buffer may need: the smaller of two displays. -/
def usedDisplay : Run (ℕ × ℕ) :=
  let primary : Run (ℕ × ℕ) := do
    let w ← A.u32 displays.primaryWidth
    let h ← A.u32 displays.primaryHeight
    .ok (w, h)
  let extend : Run (ℕ × ℕ) := do
    let w ← A.u32 displays.extendWidth
    let h ← A.u32 displays.extendHeight
    .ok (w, h)
  if displays.displayNum = 1 then primary
  else if displays.displayNum = 2 then do
    let p ← A.i32 (displays.primaryWidth * displays.primaryHeight)
    let e ← A.i32 (displays.extendWidth * displays.extendHeight)
    if e < p then extend else primary
  else .ok (0, 0)

/-- The size of a frame buffer of 32 bits a pixel, with 9 % for AFBC. -/
def fixedBufferSize (w h : ℕ) : Run ℕ := do
  let pixels ← A.u32 (h * w : ℕ)
  let bytes ← A.u32 (pixels * 4 : ℕ)
  .ok (if displays.isUtgard then bytes else bytes * 109 / 100)

/-- Buffers up to this size are not replaced. -/
def twoExtFbBufferSizeUpper : ℕ := 303200

/-- The fixed size of a frame buffer, for a request no larger than the display. -/
def setFixedBufferSize (d : BufferDescriptor) : Run BufferDescriptor := do
  let used ← usedDisplay A displays
  if d.height.toNat ≤ used.2 ∧ d.width.toNat ≤ used.1 ∧ twoExtFbBufferSizeUpper < d.size then do
    let size ← fixedBufferSize A displays used.1 used.2
    .ok { d with size := size }
  else .ok d

/-! ### Allocation -/

/-- The descriptor that is handed to the heap. -/
def finalDescriptor (d : BufferDescriptor) : Run BufferDescriptor :=
  stepIf (d.usage.has Usage.hwFb) (setFixedBufferSize A displays d) d

/-- The handle of a descriptor, once the heap has served its size. -/
def allocatorAllocate (heap : ℕ → Bool) (d : BufferDescriptor) : Option PrivateHandle :=
  if heap d.size then makePrivateHandle d else none

/-- **The allocation of a buffer.** -/
def bufferAllocate (heap : ℕ → Bool) (caps : Capabilities) (node : ℕ → Option DecoderPara)
    (d : BufferDescriptor) : Run (Option PrivateHandle) := do
  let r ← deriveFormatAndSize A caps node d
  match r.1 with
  | .einval => .ok none
  | .success => do
    let d ← finalDescriptor A displays r.2
    .ok (allocatorAllocate heap d)

end

end Gralloc
