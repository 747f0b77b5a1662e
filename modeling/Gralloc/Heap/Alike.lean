import Gralloc.Alloc.Alike
import Gralloc.Heap.Batch

/-!
# Buffers for usages that are read alike

The derivation does not tell two usages apart that are read alike
(`Gralloc.deriveFormatAndSize_congr`). What follows it does not either: the heap that is
picked, what the UVM is told, and the handle, but for the usage that is written into it. So
the whole allocation of a buffer is the same for both (`Gralloc.DmaBuf.bufferAllocate_congr`).
-/

namespace Gralloc

open CInt

/-! ### Allocation -/

section

variable {x y : Usage} (h : Usage.ReadAlike x y)

include h

theorem setBufferFlags_congr (heap : DmaBufHeap) (flags : Flags) :
    setBufferFlags heap x flags = setBufferFlags heap y flags := by
  unfold setBufferFlags
  rw [h.isOmxMetadataExtend_eq, h.has_eq _ (by decide)]

theorem pickDmaBufHeap_congr (cfg : HeapConfig) (layerOnGfx : Bool) (d : BufferDescriptor) :
    pickDmaBufHeap cfg layerOnGfx d x = pickDmaBufHeap cfg layerOnGfx d y := by
  have hgfx : pickHeapGfx cfg layerOnGfx x = pickHeapGfx cfg layerOnGfx y := by
    rw [pickHeapGfx, pickHeapGfx, h.hasCpu_eq]
  have hcomposer : usesComposerHeap cfg d x = usesComposerHeap cfg d y := by
    rw [usesComposerHeap, usesComposerHeap, h.has_eq _ (by decide)]
  rw [pickDmaBufHeap, pickDmaBufHeap, hgfx, hcomposer, h.hasCpu_eq, h.isOmxOsdExtend_eq,
    h.isOmxMetadataExtend_eq, h.has_eq Usage.protectedContent (by decide),
    h.has_eq Usage.hwFb (by decide), h.has_eq Usage.hwCameraWrite (by decide),
    h.has_eq Usage.hwVideoEncoder (by decide), h.and_mask Usage.swReadMask (by decide)]

/-- The size of a one-sixteenth buffer matters where no full-size one is named. -/
theorem bufScalar_congr (d : BufferDescriptor) : bufScalar d x = bufScalar d y := by
  rcases h.isVideoDecoderOneSixteenth_cases with h16 | ⟨hfull, -⟩
  · rw [bufScalar, bufScalar, h16, h.isOmxOsdExtend_eq, h.isVideoDecoderFull_eq,
      h.isVideoDecoderOsd_eq, h.isVideoDecoderQuarter_eq, h.isVideoDecoderReplace_eq]
  · have hfull' : x.isVideoDecoderFull = true := h.isVideoDecoderFull_eq.trans hfull
    simp only [bufScalar, hfull, hfull', Bool.or_true, Bool.true_or, if_true]

theorem uvmFlags_congr (d : BufferDescriptor) : uvmFlags d x = uvmFlags d y := by
  rw [uvmFlags, uvmFlags, bufScalar_congr h, h.has_eq Usage.protectedContent (by decide),
    h.and_mask Usage.swReadMask (by decide), h.has_eq Usage.consumerPrivate3 (by decide),
    h.isVideoDecoderOsd_eq, h.isOmxOsdExtend_eq, h.isVideoDecoderFull_eq]

theorem uvmExecData_congr (d : BufferDescriptor) : uvmExecData d x = uvmExecData d y := by
  rw [uvmExecData, uvmExecData, bufScalar_congr h, uvmFlags_congr h, Usage.usesUvm, Usage.usesUvm,
    h.isOmxMetadataExtend_eq, h.isOmxOsdExtend_eq]

theorem uvmAlign_congr (d : BufferDescriptor) : uvmAlign d x = uvmAlign d y := by
  rw [uvmAlign, uvmAlign, h.needDoWidthHeightAlign_eq]

end

section

variable {d : BufferDescriptor} {u : Usage} (h : Usage.ReadAlike d.usage (d.withUsage u).usage)

include h

theorem execUvmPolicy_withUsage (A : Arith) (props : MediaProperties) (kernel : Kernel)
    (agu : UvmExecData) :
    execUvmPolicy A props kernel (d.withUsage u) (d.withUsage u).usage agu =
      execUvmPolicy A props kernel d d.usage agu := by
  have hmedia (size scalar : ℤ) :
      execMediaPolicy A props size scalar (d.withUsage u) =
        execMediaPolicy A props size scalar d := by
    rw [execMediaPolicy, execMediaPolicy, ← h.isVideoDecoderReplace_eq]
    rfl
  have hscaled (scalar : ℤ) :
      scaledBufSize A props (d.withUsage u) scalar = scaledBufSize A props d scalar := by
    rw [scaledBufSize, scaledBufSize, hmedia]
    rfl
  have hscalar : bufScalar (d.withUsage u) (d.withUsage u).usage = bufScalar d d.usage :=
    (bufScalar_congr h d).symm
  have hflags : uvmFlags (d.withUsage u) (d.withUsage u).usage = uvmFlags d d.usage :=
    (uvmFlags_congr h d).symm
  have halign : uvmAlign (d.withUsage u) (d.withUsage u).usage = uvmAlign d d.usage :=
    (uvmAlign_congr h d).symm
  have hdata : uvmAllocData A props (d.withUsage u) (d.withUsage u).usage =
      uvmAllocData A props d d.usage := by
    rw [uvmAllocData, uvmAllocData, hscalar, hflags, halign, hscaled]
    rfl
  have hexec : uvmExecData (d.withUsage u) (d.withUsage u).usage = uvmExecData d d.usage :=
    (uvmExecData_congr h d).symm
  have huses : (d.withUsage u).usage.usesUvm = d.usage.usesUvm := by
    rw [Usage.usesUvm, Usage.usesUvm, h.isOmxMetadataExtend_eq, h.isOmxOsdExtend_eq]
  rw [execUvmPolicy, execUvmPolicy, hdata, hexec, huses]

theorem obtainMemory_withUsage (A : Arith) (props : MediaProperties) (cfg : HeapConfig)
    (layerOnGfx : Bool) (kernel : Kernel) (agu : UvmExecData) :
    obtainMemory A props cfg layerOnGfx kernel (d.withUsage u) agu =
      obtainMemory A props cfg layerOnGfx kernel d agu := by
  have hpick : pickDmaBufHeap cfg layerOnGfx (d.withUsage u) (d.withUsage u).usage =
      pickDmaBufHeap cfg layerOnGfx d d.usage :=
    (pickDmaBufHeap_congr h cfg layerOnGfx d).symm
  rw [obtainMemory, obtainMemory, hpick, ← setBufferFlags_congr h, execUvmPolicy_withUsage h]
  rfl

end

/-- The same buffer, called one of another usage. -/
def DmaBuf.withUsage (b : DmaBuf) (u : Usage) : DmaBuf :=
  { b with
    handle :=
      { b.handle with consumerUsage := u, producerUsage := u, usage := u.setWidth 32 } }

theorem describeMemory_withUsage (A : Arith) (d : BufferDescriptor) (u : Usage) (o : Obtained) :
    describeMemory A (d.withUsage u) o =
      (describeMemory A d o).map (Option.map fun b => b.withUsage u) := by
  have hmap : needMmap A (d.withUsage u) = needMmap A d := rfl
  unfold describeMemory makePrivateHandle
  rw [hmap, show (d.withUsage u).allocFormat = d.allocFormat from rfl,
    BufferDescriptor.usage_withUsage]
  cases d.allocFormat.getBaseInfo with
  | none => rfl
  | some f =>
    simp only [Option.map_some, map_bind]
    refine bind_congr fun map => ?_
    simp only [Except.map, DmaBuf.withUsage, Option.map_some]
    rfl

theorem finalDescriptor_withUsage (A : Arith) (displays : Displays) {d : BufferDescriptor}
    {u : Usage} (h : Usage.ReadAlike d.usage (d.withUsage u).usage) :
    finalDescriptor A displays (d.withUsage u) =
      (finalDescriptor A displays d).map fun r => r.withUsage u := by
  have hfixed : setFixedBufferSize A displays (d.withUsage u) =
      (setFixedBufferSize A displays d).map fun r => r.withUsage u := by
    rw [setFixedBufferSize, setFixedBufferSize, map_bind]
    refine bind_congr fun used => ?_
    show (if d.height.toNat ≤ used.2 ∧ d.width.toNat ≤ used.1 ∧
      twoExtFbBufferSizeUpper < d.size then _ else _) = _
    split
    · rw [map_bind]
      rfl
    · rfl
  rw [finalDescriptor, finalDescriptor, ← h.has_eq Usage.hwFb (by decide), hfixed]
  cases d.usage.has Usage.hwFb <;> rfl

/-- Only the size of a frame buffer is replaced. -/
theorem usage_of_finalDescriptor {displays : Displays} {d d' : BufferDescriptor}
    (h : finalDescriptor wrapping displays d = .ok d') : d'.usage = d.usage := by
  rw [finalDescriptor_wrapping] at h
  cases h
  split <;> rfl

namespace DmaBuf

theorem allocatorAllocate_congr (A : Arith) (props : MediaProperties) (cfg : HeapConfig)
    (layerOnGfx : Bool) (kernel : Kernel) (agu : UvmExecData) {d : BufferDescriptor} {u : Usage}
    (h : Usage.ReadAlike d.usage (d.withUsage u).usage) :
    allocatorAllocate A props cfg layerOnGfx kernel (d.withUsage u) agu =
      (allocatorAllocate A props cfg layerOnGfx kernel d agu).map fun o =>
        { o with buffer := o.buffer.map fun b => b.withUsage u } := by
  rw [allocatorAllocate, allocatorAllocate, obtainMemory_withUsage h, map_bind]
  refine bind_congr fun r => ?_
  obtain ⟨calls, obtained⟩ := r
  cases obtained with
  | none => rfl
  | some o =>
    simp only [describeMemory_withUsage]
    cases describeMemory A d o <;> rfl

/-- **The allocation reads a usage no closer** than the derivation. -/
theorem bufferAllocate_congr (p : Platform) (e : Attempt) {d : BufferDescriptor} {u : Usage}
    (h : Usage.ReadAlike d.usage (d.withUsage u).usage)
    (hn : decoderReply e.node d = decoderReply e.node (d.withUsage u)) :
    bufferAllocate p e (d.withUsage u) =
      (bufferAllocate p e d).map fun r => (r.1.withUsage u, r.2.map fun b => b.withUsage u) := by
  rw [bufferAllocate, bufferAllocate, deriveFormatAndSize_congr wrapping p.caps h hn]
  cases hr : deriveFormatAndSize wrapping p.caps e.node d with
  | error f => rfl
  | ok r =>
    obtain ⟨st, r⟩ := r
    cases st with
    | einval => rfl
    | success =>
      have husage : r.usage = d.usage := by
        simpa using congrArg BufferDescriptor.usage (fresh_of_derive hr)
      have hr' : Usage.ReadAlike r.usage (r.withUsage u).usage := by
        rw [husage, BufferDescriptor.usage_withUsage]
        rwa [BufferDescriptor.usage_withUsage] at h
      simp only [Except.map, ok_bind, finalDescriptor_withUsage wrapping p.displays hr']
      cases hfinal : finalDescriptor wrapping p.displays r with
      | error f => rfl
      | ok d' =>
        have hd' : Usage.ReadAlike d'.usage (d'.withUsage u).usage := by
          rw [usage_of_finalDescriptor hfinal, BufferDescriptor.usage_withUsage]
          rwa [BufferDescriptor.usage_withUsage] at hr'
        simp only [Except.map, ok_bind, allocatorAllocate_congr wrapping p.props p.heaps
          e.layerOnGfx e.kernel e.agu hd']
        cases allocatorAllocate wrapping p.props p.heaps e.layerOnGfx e.kernel d' e.agu <;> rfl

end DmaBuf

end Gralloc
