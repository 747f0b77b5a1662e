import Gralloc.Heap.Pick
import Gralloc.Alloc.Handle

/-!
# Memory for the video decoder

What a decoder writes comes from a device of its own, the UVM. A request goes there when
its usage names the decoder (`Gralloc.Usage.usesUvm`), and the device is told in one
`ioctl` how large the buffer is, how much of it to back with memory, and whether it is
protected, cached, or backed later (`Gralloc.uvmAllocData`).

The caller hands over a record for the outcome (`Gralloc.UvmExecData`). It comes from
`malloc`, and it is filled *after* the device was opened: `Gralloc.execUvmPolicy` takes
the record as it was and returns it as it is then.

The kernel is a parameter, `Gralloc.Kernel`: what it answers to each call.
-/

namespace Gralloc

open CInt

/-! ### The kernel -/

/-- The argument of the `ioctl` that allocates. -/
structure UvmAllocData where
  size : ℤ
  byteStride : ℤ
  width : BitVec 32
  height : BitVec 32
  align : ℤ
  flags : BitVec 32
  scalar : ℤ
  scaledBufSize : ℤ
  deriving DecidableEq, Repr

/-- The kernel, as one allocation sees it. -/
structure Kernel where
  /-- The UVM device; negative when it cannot be opened. -/
  getUvm : ℤ
  /-- The return value of `UVM_IOC_ALLOC`, and the descriptor it writes. -/
  uvmAlloc : UvmAllocData → ℤ × ℤ
  /-- The descriptor of memory from a heap; negative when there is none. -/
  alloc : DmaBufHeap → ℕ → ℤ

/-- A request to the kernel for memory. -/
inductive Call where
  | uvmAlloc (data : UvmAllocData)
  | alloc (heap : DmaBufHeap) (size : ℕ)
  deriving DecidableEq, Repr

/-- The record of a UVM allocation. -/
structure UvmExecData where
  delayAlloc : BitVec 32
  uvmFlag : BitVec 32
  uvmBufferFlag : Flags
  deriving DecidableEq, Repr

namespace UvmFlag

def immAlloc : BitVec 32 := 1#32 <<< 0
def delayAlloc : BitVec 32 := 1#32 <<< 1
def usageProtected : BitVec 32 := 1#32 <<< 3
def skipRealloc : BitVec 32 := 1#32 <<< 4
def usageCached : BitVec 32 := 1#32 <<< 5
def fbcDec : BitVec 32 := 1#32 <<< 6
def sizeSkip : BitVec 32 := 1#32 <<< 7

end UvmFlag

/-- Where the properties of a product cut the sizes of decoder buffers short. -/
structure MediaProperties where
  /-- `ro.vendor.platform.support.4k` is false. -/
  no4k : Bool
  /-- One-sixteenth buffers are as large as 1080p. -/
  fixed1080p : Bool
  deriving DecidableEq, Repr

def pageSize : ℕ := 4096

/-! ### Sizes -/

/-- The usages that are served by the UVM. -/
def Usage.usesUvm (u : Usage) : Bool := u.isOmxMetadataExtend || u.isOmxOsdExtend

/-- By how much a buffer is smaller than the frame, on each side; nothing for memory that
is given later. -/
def bufScalar (d : BufferDescriptor) (usage : Usage) : Option ℤ :=
  -- a scalar above 1: the size is the one the decoder passed
  if d.decoderParaType != .none then some 2
  else if usage.isOmxOsdExtend || usage.isVideoDecoderFull || usage.isVideoDecoderOsd then some 1
  else if usage.isVideoDecoderQuarter then some 2
  else if usage.isVideoDecoderOneSixteenth then some 4
  -- below 2^52 the rounded root has the exact one's integer part
  else if usage.isVideoDecoderReplace then some (d.size / pageSize).sqrt
  else none

section

variable (A : Arith) (props : MediaProperties)

/-- The bytes of 4:2:0 pixels. -/
def bytes420 (w h : ℤ) : Run ℤ := do
  let pixels ← A.i32 (w * h)
  let n ← A.i32 (pixels * 3)
  sdiv n 2

/-- The size of a buffer for scaled-down frames. -/
def execMediaPolicy (size scalar : ℤ) (d : BufferDescriptor) : Run ℤ := do
  if d.usage.isVideoDecoderReplace then .ok pageSize
  else do
    let area ← A.u32 (d.width.toNat * d.height.toNat : ℕ)
    let size := if 4096 * 2304 < area then 8192 * 4352 * 3 / 2 else size
    let n ← A.i32 (scalar * scalar)
    let size ← sdiv size n
    let size ← stepIf props.no4k (do
      let w ← sdiv 1920 scalar
      let w ← A.alignI32 w 64
      let h ← sdiv 1080 scalar
      let h ← A.alignI32 h 64
      bytes420 A w h) size
    -- 1080 is rounded up to 1088 rows
    .ok (if scalar = 4 ∧ props.fixed1080p ∧ size < 1920 * 1088 * 3 / 2 then 1920 * 1088 * 3 / 2
      else size)

/-- The dimensions a decoder asks for, in bytes. -/
def decoderBufSize (d : BufferDescriptor) : Run ℤ := do
  let p := d.decoderPara
  let w ← A.alignU32 p.width.toNat (if p.wAlign = 0#32 then 1 else p.wAlign.toNat)
  let h ← A.alignU32 p.height.toNat (if p.hAlign = 0#32 then 1 else p.hAlign.toNat)
  let pixels ← A.u32 (w * h : ℕ)
  let n ← A.u32 (pixels * 3 : ℕ)
  let size ← A.i32 (n / 2 : ℕ)
  stepIf (d.halFormat = Hal.ycbcrP010.setWidth 64) (A.i32 (size * 2)) size

/-- How much of the buffer is backed with memory. -/
def scaledBufSize (d : BufferDescriptor) (scalar : ℤ) : Run ℤ :=
  match d.decoderParaType with
  | .wxh => decoderBufSize A d
  | .size | .both => .ok (toInt d.decoderPara.size.toNat)
  | .none =>
    if 1 < scalar then execMediaPolicy A props (4096 * 2304 * 3 / 2) scalar d
    else .ok (toInt d.size)

/-! ### The request -/

/-- The flags of a request to the UVM. -/
def uvmFlags (d : BufferDescriptor) (usage : Usage) : BitVec 32 :=
  let flag := if (bufScalar d usage).isSome then UvmFlag.immAlloc else UvmFlag.delayAlloc
  let flag := if usage.has Usage.protectedContent then flag ||| UvmFlag.usageProtected else flag
  let flag := if usage &&& Usage.swReadMask == 3#64 then flag ||| UvmFlag.usageCached else flag
  let flag := if usage.has Usage.consumerPrivate3 then flag ||| UvmFlag.fbcDec else flag
  let skips := d.decoderPara.compress == 0#32 || usage.isVideoDecoderOsd || usage.isOmxOsdExtend ||
    (usage.isVideoDecoderFull && d.halFormat == PixelFormat.p010.setWidth 64)
  let flag := if skips then flag ||| UvmFlag.skipRealloc else flag
  flag ||| UvmFlag.sizeSkip

/-- The alignment of both sides that the UVM is told. -/
def uvmAlign (d : BufferDescriptor) (usage : Usage) : ℤ :=
  if d.decoderPara.wAlign ≠ 0#32 then toInt d.decoderPara.wAlign.toNat
  else if usage.needDoWidthHeightAlign (toInt d.width.toNat) (toInt d.height.toNat) then 64
  else 1

def uvmAllocData (d : BufferDescriptor) (usage : Usage) : Run UvmAllocData := do
  let scalar := (bufScalar d usage).getD 1
  let scaled ← scaledBufSize A props d scalar
  .ok
    { size := toInt d.size
      byteStride := toInt d.planeInfo.p0.byteStride
      width := d.width
      height := d.height
      align := uvmAlign d usage
      flags := uvmFlags d usage
      scalar := scalar
      scaledBufSize := scaled }

/-! ### The policy -/

/-- What the policy leaves to its caller. -/
structure UvmResult where
  calls : List Call
  sharedFd : ℤ
  agu : UvmExecData
  deriving DecidableEq, Repr

/-- The record, once it is filled. -/
def uvmExecData (d : BufferDescriptor) (usage : Usage) : UvmExecData :=
  if usage.usesUvm then
    { delayAlloc := if (bufScalar d usage).isSome then 0#32 else 1#32
      uvmFlag := uvmFlags d usage
      uvmBufferFlag := Flags.uvmBuffer }
  else
    { delayAlloc := 0#32
      uvmFlag := UvmFlag.immAlloc
      uvmBufferFlag := 0#32 }

/-- **The allocation from the UVM**, into the record `agu`. -/
def execUvmPolicy (kernel : Kernel) (d : BufferDescriptor) (usage : Usage) (agu : UvmExecData) :
    Run UvmResult := do
  -- the early return, ahead of the initialisation
  if kernel.getUvm < 0 then .ok ⟨[], -1, agu⟩
  else if usage.usesUvm then do
    let data ← uvmAllocData A props d usage
    let (ret, fd) := kernel.uvmAlloc data
    .ok ⟨[.uvmAlloc data], if ret < 0 then ret else fd, uvmExecData d usage⟩
  else .ok ⟨[], -1, uvmExecData d usage⟩

variable {A props} {kernel : Kernel} {d : BufferDescriptor} {usage : Usage} {agu : UvmExecData}

/-- Without the device nothing is asked for and nothing is written. -/
theorem execUvmPolicy_of_neg (h : kernel.getUvm < 0) :
    execUvmPolicy A props kernel d usage agu = .ok ⟨[], -1, agu⟩ := if_pos h

/-- With the device, the record that was handed over does not matter. -/
theorem execUvmPolicy_congr (h : 0 ≤ kernel.getUvm) (agu' : UvmExecData) :
    execUvmPolicy A props kernel d usage agu = execUvmPolicy A props kernel d usage agu' := by
  rw [execUvmPolicy, execUvmPolicy, if_neg h.not_gt, if_neg h.not_gt]

/-- **What the policy leaves** when the device is there: the filled record, and memory
only for the usages of the decoder. -/
theorem agu_of_execUvmPolicy (h : 0 ≤ kernel.getUvm) {r : UvmResult}
    (hr : execUvmPolicy A props kernel d usage agu = .ok r) :
    r.agu = uvmExecData d usage ∧ (usage.usesUvm = false → r.sharedFd = -1) := by
  rw [execUvmPolicy, if_neg h.not_gt] at hr
  split_ifs at hr with hu
  · obtain ⟨data, -, hr⟩ := bind_eq_ok.mp hr
    cases hr
    exact ⟨rfl, fun h => absurd hu (by simp [h])⟩
  · cases hr
    exact ⟨rfl, fun _ => rfl⟩

end

/-! ### Protected memory -/

theorem getLsbD_ite_or {w i : ℕ} {f g : BitVec w} (c : Prop) [Decidable c]
    (h : g.getLsbD i = false) : (if c then f ||| g else f).getLsbD i = f.getLsbD i := by
  split
  · simp [h]
  · rfl

/-- **The UVM is asked for protected memory** exactly when the content is protected. -/
theorem getLsbD_uvmFlags (d : BufferDescriptor) (usage : Usage) :
    (uvmFlags d usage).getLsbD 3 = usage.has Usage.protectedContent := by
  have hskip : (UvmFlag.sizeSkip).getLsbD 3 = false := by decide
  rw [uvmFlags, BitVec.getLsbD_or, hskip, Bool.or_false, getLsbD_ite_or _ (by decide),
    getLsbD_ite_or _ (by decide), getLsbD_ite_or _ (by decide)]
  cases usage.has Usage.protectedContent <;> cases (bufScalar d usage).isSome <;> decide

end Gralloc
