import Gralloc.Heap.Uvm

/-!
# Allocating from dma-buf heaps

`Gralloc.DmaBuf.allocatorAllocate` is the allocator of `Gralloc.allocatorAllocate` with
the kernel spelled out. A request may be served by the UVM, by the heap that was picked
for it, or by the system heap in its place; what it returns is the handle of
`Gralloc.makePrivateHandle` with flags and with what the decoder left
(`Gralloc.DmaBuf.allocatorAllocate_refines`). The model adds where the memory came from,
which no handle says (`Gralloc.Memory`).

Two questions are answered here.

* The record for the UVM is read whether or not it was filled. It was, as soon as the
  device could be opened, and this is when the outcome does not depend on what `malloc`
  returned (`Gralloc.DmaBuf.allocatorAllocate_congr_iff`).
* The flags are computed from the heap that was picked, and the memory may come from
  elsewhere. They are right all the same (`Gralloc.DmaBuf.faithful_of_allocatorAllocate`),
  except where a build lets system memory take the place of protected memory
  (`Gralloc.ProtectedFallback`).
-/

namespace Gralloc

open CInt

/-! ### Memory -/

/-- Where the memory of a buffer comes from. -/
inductive Memory where
  /-- The UVM, asked with these flags. -/
  | uvm (flags : BitVec 32)
  | heap (h : DmaBufHeap)
  deriving DecidableEq, Repr

namespace Memory

/-- Ordinary system memory. -/
def IsSystem : Memory → Prop
  | uvm _ => False
  | heap h => h.IsSystem

/-- Memory that may hold protected content: the protected heap, the codec's, and what the
UVM gave when it was asked for protected memory. -/
def IsSecure : Memory → Prop
  | uvm flags => flags.getLsbD 3 = true
  | heap h => h = .protectedMemory ∨ h.IsCodecMm

instance (m : Memory) : Decidable m.IsSystem := by
  cases m
  · exact inferInstanceAs (Decidable False)
  · exact inferInstanceAs (Decidable (DmaBufHeap.IsSystem _))

instance (m : Memory) : Decidable m.IsSecure := by
  cases m
  · exact inferInstanceAs (Decidable (_ = _))
  · exact inferInstanceAs (Decidable (_ ∨ _))

end Memory

/-- Memory that was obtained, and what the handle will say of it. -/
structure Obtained where
  memory : Memory
  flags : Flags
  delayAlloc : BitVec 32
  deriving DecidableEq, Repr

/-- The system heap may take the place of a heap that has no memory. -/
def fallsBack (cfg : HeapConfig) : DmaBufHeap → Bool
  | .system => false
  | .protectedMemory => !cfg.heapSecureDonotFallback
  | .physicallyContiguousCodecMm => false
  | .physicallyContiguousCodecMmUncached => false
  | .physicallyContiguousFb => false
  | .systemUncached => true
  | .physicallyContiguousGfx => true

/-- **System memory takes the place of protected memory**: the protected heap has none,
and the build allows it. -/
def ProtectedFallback (cfg : HeapConfig) (kernel : Kernel) (d : BufferDescriptor) : Prop :=
  d.usage.has Usage.protectedContent = true ∧ d.isAndroidYuv = false ∧
    cfg.heapSecureDonotFallback = false ∧ kernel.alloc .protectedMemory d.size < 0

section

variable (A : Arith) (props : MediaProperties) (cfg : HeapConfig) (layerOnGfx : Bool)
  (kernel : Kernel)

/-- Memory from the heap that was picked, or from the system's. -/
def obtainFromHeap (heap : DmaBufHeap) (flags : Flags) (size : ℕ) :
    List Call × Option (DmaBufHeap × Flags) :=
  if 0 ≤ kernel.alloc heap size then ([.alloc heap size], some (heap, flags))
  else if fallsBack cfg heap then
    ([.alloc heap size, .alloc .system size],
      if 0 ≤ kernel.alloc .system size then some (.system, flags &&& ~~~Flags.coherentExtend)
      else none)
  else ([.alloc heap size], none)

/-- Memory for a request, from the UVM or from a heap. `agu` is what `malloc` returned. -/
def obtainMemory (d : BufferDescriptor) (agu : UvmExecData) :
    Run (List Call × Option Obtained) := do
  let heap := pickDmaBufHeap cfg layerOnGfx d d.usage
  let flags := setBufferFlags heap d.usage 0#32
  let r ← execUvmPolicy A props kernel d d.usage agu
  if 0 ≤ r.sharedFd then
    .ok (r.calls,
      some ⟨.uvm r.agu.uvmFlag, r.agu.uvmBufferFlag ||| flags, r.agu.delayAlloc⟩)
  else if r.agu.uvmBufferFlag ≠ 0#32 then .ok (r.calls, none)
  else
    let (calls, obtained) := obtainFromHeap cfg kernel heap flags d.size
    .ok (r.calls ++ calls,
      obtained.map fun (h, flags) => ⟨.heap h, r.agu.uvmBufferFlag ||| flags, 0#32⟩)

end

/-! ### Handles -/

/-- The handle of a buffer in dma-buf memory. -/
structure DmaBufHandle extends PrivateHandle where
  flags : Flags
  ionDelayAlloc : BitVec 32
  reqWidth : BitVec 32
  reqHeight : BitVec 32
  /-- The requested format, in an `int`. -/
  format : BitVec 32
  /-- The low half of the usage. -/
  usage : BitVec 32
  needMmap : Bool
  pitches : ℕ
  deriving DecidableEq, Repr

/-- A buffer: its memory and its handle. -/
structure DmaBuf where
  memory : Memory
  handle : DmaBufHandle
  deriving DecidableEq, Repr

/-- What an allocation did: the kernel's part, and the buffer if there is one. -/
structure Outcome where
  calls : List Call
  buffer : Option DmaBuf
  deriving DecidableEq, Repr

/-- A buffer whose width the decoder rounds to another one is not mapped. -/
def needMmap (A : Arith) (d : BufferDescriptor) : Run Bool :=
  if d.decoderParaType = .wxh ∨ d.decoderParaType = .both then do
    let p ← A.alignU32 d.decoderPara.width.toNat d.decoderPara.wAlign.toNat
    let w ← A.alignU32 d.width.toNat d.decoderPara.wAlign.toNat
    .ok (p == w)
  else .ok true

/-- The handle of memory that was obtained. -/
def describeMemory (A : Arith) (d : BufferDescriptor) (o : Obtained) : Run (Option DmaBuf) :=
  match makePrivateHandle d with
  | none => .ok none
  | some hnd => do
    let map ← needMmap A d
    .ok (some
      { memory := o.memory
        handle :=
          { hnd with
            flags := o.flags
            ionDelayAlloc := o.delayAlloc
            reqWidth := d.width
            reqHeight := d.height
            format := d.halFormat.setWidth 32
            usage := d.usage.setWidth 32
            needMmap := map
            pitches := d.pitches } })

namespace DmaBuf

section

variable (A : Arith) (props : MediaProperties) (cfg : HeapConfig) (layerOnGfx : Bool)
  (kernel : Kernel)

/-- **The allocation of a derived descriptor.** -/
def allocatorAllocate (d : BufferDescriptor) (agu : UvmExecData) : Run Outcome := do
  let (calls, obtained) ← obtainMemory A props cfg layerOnGfx kernel d agu
  match obtained with
  | none => .ok ⟨calls, none⟩
  | some o => do
    let b ← describeMemory A d o
    .ok ⟨calls, b⟩

end

variable {A : Arith} {props : MediaProperties} {cfg : HeapConfig} {layerOnGfx : Bool}
  {kernel : Kernel} {d : BufferDescriptor} {agu : UvmExecData} {o : Outcome} {b : DmaBuf}

/-- **A buffer is what was obtained, described.** -/
theorem obtained_of_allocatorAllocate
    (h : allocatorAllocate A props cfg layerOnGfx kernel d agu = .ok o) (hb : o.buffer = some b) :
    ∃ got, obtainMemory A props cfg layerOnGfx kernel d agu = .ok (o.calls, some got) ∧
      describeMemory A d got = .ok (some b) := by
  obtain ⟨⟨calls, obtained⟩, hgot, h⟩ := bind_eq_ok.mp h
  cases obtained with
  | none =>
    cases h
    exact nomatch hb
  | some got =>
    obtain ⟨b', hdesc, h⟩ := bind_eq_ok.mp h
    cases h
    exact ⟨got, hgot, hdesc.trans (congrArg _ hb)⟩

/-- What a description keeps. -/
theorem of_describeMemory {got : Obtained} (h : describeMemory A d got = .ok (some b)) :
    makePrivateHandle d = some b.handle.toPrivateHandle ∧ b.memory = got.memory ∧
      b.handle.flags = got.flags ∧ b.handle.ionDelayAlloc = got.delayAlloc := by
  unfold describeMemory at h
  split at h
  · cases h
  · next hnd hmk =>
    obtain ⟨map, -, h⟩ := bind_eq_ok.mp h
    cases h
    exact ⟨hmk, rfl, rfl, rfl⟩

/-- **The allocator refines the one whose heap is a predicate**: with the kernel spelled
out, the same handle is made of the same descriptor. -/
theorem allocatorAllocate_refines
    (h : allocatorAllocate A props cfg layerOnGfx kernel d agu = .ok o) (hb : o.buffer = some b)
    {heap : ℕ → Bool} (hh : heap d.size = true) :
    Gralloc.allocatorAllocate heap d = some b.handle.toPrivateHandle := by
  obtain ⟨got, -, hdesc⟩ := obtained_of_allocatorAllocate h hb
  rw [Gralloc.allocatorAllocate, if_pos hh]
  exact (of_describeMemory hdesc).1

/-! ### Memory that `malloc` did not clear -/

/-- A record that says UVM, though the device was never opened: nothing is asked for. -/
theorem allocatorAllocate_of_neg_of_flag (h : kernel.getUvm < 0)
    (hf : agu.uvmBufferFlag ≠ 0#32) :
    allocatorAllocate A props cfg layerOnGfx kernel d agu = .ok ⟨[], none⟩ := by
  rw [allocatorAllocate, obtainMemory, execUvmPolicy_of_neg h]
  simp [hf]

/-- A record that does not say so: the heaps are asked. -/
theorem calls_ne_nil_of_neg (h : kernel.getUvm < 0) (hf : agu.uvmBufferFlag = 0#32)
    (ho : allocatorAllocate A props cfg layerOnGfx kernel d agu = .ok o) : o.calls ≠ [] := by
  rw [allocatorAllocate, obtainMemory, execUvmPolicy_of_neg h] at ho
  have hne : ∀ heap flags size, (obtainFromHeap cfg kernel heap flags size).1 ≠ [] := by
    intro heap flags size
    unfold obtainFromHeap
    split_ifs <;> simp
  obtain ⟨⟨calls, obtained⟩, hgot, ho⟩ := bind_eq_ok.mp ho
  have hcalls : calls ≠ [] := by
    simp only [ok_bind, Int.reduceNeg, Int.reduceLE, if_false, hf, ne_eq, not_true_eq_false,
      List.nil_append] at hgot
    cases hgot
    exact hne _ _ _
  cases obtained with
  | none =>
    cases ho
    exact hcalls
  | some got =>
    obtain ⟨b', -, ho⟩ := bind_eq_ok.mp ho
    cases ho
    exact hcalls

/-- **The outcome does not depend on what `malloc` returned** exactly when the UVM device
can be opened: then the record was filled before anything was read of it. -/
theorem allocatorAllocate_congr_iff (A : Arith) (props : MediaProperties) (cfg : HeapConfig)
    (layerOnGfx : Bool) (kernel : Kernel) (d : BufferDescriptor) :
    (∀ agu agu', allocatorAllocate A props cfg layerOnGfx kernel d agu =
        allocatorAllocate A props cfg layerOnGfx kernel d agu') ↔
      0 ≤ kernel.getUvm := by
  constructor
  · intro h
    by_contra hneg
    rw [not_le] at hneg
    let flagged : UvmExecData := ⟨0#32, 0#32, 1#32⟩
    have hflag : flagged.uvmBufferFlag ≠ 0#32 := by decide
    have hno := h ⟨0#32, 0#32, 0#32⟩ flagged
    rw [allocatorAllocate_of_neg_of_flag hneg hflag] at hno
    exact calls_ne_nil_of_neg hneg rfl hno rfl
  · intro h agu agu'
    rw [allocatorAllocate, allocatorAllocate, obtainMemory, obtainMemory,
      execUvmPolicy_congr h agu']

/-! ### Flags and memory -/

/-- Memory that is called contiguous, or a dma heap's, is not the system's. -/
def CoherentFaithful (b : DmaBuf) : Prop :=
  b.handle.flags.has Flags.coherentExtend = true → ¬b.memory.IsSystem

/-- Memory that is called secure is, and protected content is not in system memory. -/
structure SecureFaithful (d : BufferDescriptor) (b : DmaBuf) : Prop where
  secure : b.handle.flags.has Flags.secureProtected = true → b.memory.IsSecure
  not_isSystem : d.usage.has Usage.protectedContent = true → ¬b.memory.IsSystem

/-- **Where memory can come from**, with its flags. -/
theorem obtained_cases {calls : List Call} {got : Obtained}
    (h : obtainMemory A props cfg layerOnGfx kernel d agu = .ok (calls, some got)) :
    let heap := pickDmaBufHeap cfg layerOnGfx d d.usage
    let flags := setBufferFlags heap d.usage 0#32
    -- the UVM
    got.memory = .uvm (uvmFlags d d.usage) ∧ got.flags = Flags.uvmBuffer ||| flags ∨
    -- the heap that was picked
    got.memory = .heap heap ∧ got.flags = flags ∨
    -- the system heap in its place
    got.memory = .heap .system ∧ got.flags = flags &&& ~~~Flags.coherentExtend ∧
      fallsBack cfg heap = true ∧ kernel.alloc heap d.size < 0 := by
  intro heap flags
  obtain ⟨r, hr, h⟩ := bind_eq_ok.mp h
  by_cases hfd : 0 ≤ r.sharedFd
  · rw [if_pos hfd] at h
    cases h
    left
    rcases lt_or_ge kernel.getUvm 0 with hneg | hpos
    · -- without the device there is no memory of it
      rw [execUvmPolicy_of_neg hneg] at hr
      cases hr
      exact absurd hfd (show ¬(0 : ℤ) ≤ -1 by decide)
    · obtain ⟨hagu, hnone⟩ := agu_of_execUvmPolicy hpos hr
      have hu : d.usage.usesUvm = true := by
        by_contra hu
        rw [hnone (Bool.eq_false_of_not_eq_true hu)] at hfd
        exact absurd hfd (by decide)
      rw [hagu, uvmExecData, if_pos hu]
      exact ⟨rfl, rfl⟩
  · rw [if_neg hfd] at h
    right
    by_cases hf : r.agu.uvmBufferFlag = 0#32
    · simp only [hf, ne_eq, not_true_eq_false, if_false, BitVec.zero_or, Except.ok.injEq,
        Prod.mk.injEq, Option.map_eq_some_iff] at h
      obtain ⟨-, ⟨m, f⟩, hfrom, rfl⟩ := h
      unfold obtainFromHeap at hfrom
      split_ifs at hfrom with hpick hfall hsys
      · cases hfrom
        exact Or.inl ⟨rfl, rfl⟩
      · cases hfrom
        exact Or.inr ⟨rfl, rfl, hfall, not_le.mp hpick⟩
    · rw [if_pos hf] at h
      cases h

/-- Memory from the UVM is called what it is. -/
theorem faithful_of_uvm (hm : b.memory = .uvm (uvmFlags d d.usage)) {heap : DmaBufHeap}
    (hf : b.handle.flags = Flags.uvmBuffer ||| setBufferFlags heap d.usage 0#32) :
    b.CoherentFaithful ∧ b.SecureFaithful d := by
  refine ⟨fun _ => ?_, fun hs => ?_, fun _ => ?_⟩
  · rw [hm]
    exact id
  · have hno : Flags.uvmBuffer.has Flags.secureProtected = false := by decide
    rw [hf, Flags.has_or, hno, Bool.false_or, setBufferFlags_has_secure] at hs
    rw [hm, Memory.IsSecure, getLsbD_uvmFlags]
    exact hs
  · rw [hm]
    exact id

/-- Memory from the heap that was picked is called what it is. -/
theorem faithful_of_pick (hm : b.memory = .heap (pickDmaBufHeap cfg layerOnGfx d d.usage))
    (hf : b.handle.flags =
      setBufferFlags (pickDmaBufHeap cfg layerOnGfx d d.usage) d.usage 0#32) :
    b.CoherentFaithful ∧ b.SecureFaithful d := by
  refine ⟨fun hc => ?_, fun hs => ?_, fun hp => ?_⟩
  · rw [hf, setBufferFlags_has_coherent, Bool.or_eq_true, decide_eq_true_iff] at hc
    rw [hm]
    rcases hc with hc | hp
    · exact hc.1
    · exact not_isSystem_of_protected hp
  · rw [hf, setBufferFlags_has_secure] at hs
    rw [hm, pickDmaBufHeap_of_protected hs]
    split
    · exact Or.inr (Or.inl rfl)
    · exact Or.inl rfl
  · rw [hm]
    exact not_isSystem_of_protected hp

/-- System memory in the place of another heap's is not called coherent; and it holds
protected content only where the build allows it. -/
theorem faithful_of_fallback
    (hf : b.handle.flags =
      setBufferFlags (pickDmaBufHeap cfg layerOnGfx d d.usage) d.usage 0#32 &&&
        ~~~Flags.coherentExtend)
    (hfall : fallsBack cfg (pickDmaBufHeap cfg layerOnGfx d d.usage) = true)
    (hk : kernel.alloc (pickDmaBufHeap cfg layerOnGfx d d.usage) d.size < 0) :
    b.CoherentFaithful ∧ (ProtectedFallback cfg kernel d ∨ b.SecureFaithful d) := by
  refine ⟨fun hc => ?_, ?_⟩
  · rw [hf, Flags.has_and_not_self] at hc
    exact nomatch hc
  by_cases hp : d.usage.has Usage.protectedContent = true
  · left
    rw [pickDmaBufHeap_of_protected hp] at hfall hk
    -- the codec's heap does not fall back
    cases hy : d.isAndroidYuv with
    | true =>
      rw [if_pos hy] at hfall
      exact nomatch hfall
    | false =>
      rw [if_neg (by simp [hy])] at hfall hk
      exact ⟨hp, hy, by simpa [fallsBack] using hfall, hk⟩
  · right
    refine ⟨fun hs => ?_, fun h => absurd h hp⟩
    rw [hf, Flags.has_and_not_of_disjoint (by decide), setBufferFlags_has_secure] at hs
    exact absurd hs hp

/-- **Flags do not misstate the memory**: a handle says contiguous, or dma heap, only of
memory that is not the system's; and unless system memory took the place of protected
memory, it says secure only of memory that is, and protected content is kept out of
system memory. -/
theorem faithful_of_allocatorAllocate
    (h : allocatorAllocate A props cfg layerOnGfx kernel d agu = .ok o) (hb : o.buffer = some b) :
    b.CoherentFaithful ∧
      (ProtectedFallback cfg kernel d ∧ b.memory = .heap .system ∨ b.SecureFaithful d) := by
  obtain ⟨got, hgot, hdesc⟩ := obtained_of_allocatorAllocate h hb
  obtain ⟨-, hm, hf, -⟩ := of_describeMemory hdesc
  rcases obtained_cases hgot with ⟨hgm, hgf⟩ | ⟨hgm, hgf⟩ | ⟨hgm, hgf, hfall, hk⟩
  · obtain ⟨hc, hs⟩ := faithful_of_uvm (hm.trans hgm) (hf.trans hgf)
    exact ⟨hc, Or.inr hs⟩
  · obtain ⟨hc, hs⟩ := faithful_of_pick (hm.trans hgm) (hf.trans hgf)
    exact ⟨hc, Or.inr hs⟩
  · obtain ⟨hc, hs⟩ := faithful_of_fallback (hf.trans hgf) hfall hk
    exact ⟨hc, hs.imp_left fun hp => ⟨hp, hm.trans hgm⟩⟩

/-! ### A protected square -/

end DmaBuf

/-- 16 × 16 protected pixels of RGBA_8888 for the GPU. -/
def protectedSquare : BufferDescriptor := .request 16#32 16#32 0x4300#64 1#64 1#32

/-- The descriptor that is derived. -/
def protectedSquareDerived : BufferDescriptor :=
  { protectedSquare with
    allocFormat := ⟨.unorm, 1#32, 0#32⟩
    size := 1024
    pixelStride := 16
    planeInfo := PlaneLayout.zero.set 0 ⟨0, 64, 16, 16⟩ }

example : deriveFormatAndSize wrapping .gpuOnly noDecoder protectedSquare =
    .ok (.success, protectedSquareDerived) := by decide +kernel

/-- A kernel without a UVM and with some of the heaps. -/
def Kernel.ofHeaps (installed : DmaBufHeap → Bool) : Kernel where
  getUvm := -1
  uvmAlloc := fun _ => (-1, -1)
  alloc := fun h _ => if installed h then 3 else -1

namespace DmaBuf

/-- **The square is refused or served**, as `malloc` will have it. -/
theorem not_allocatorAllocate_congr_protectedSquare :
    (allocatorAllocate wrapping ⟨false, false⟩ .default false (.ofHeaps fun _ => true)
        protectedSquareDerived ⟨0#32, 0#32, 0#32⟩).map (fun o => o.buffer.isSome) = .ok true ∧
      allocatorAllocate wrapping ⟨false, false⟩ .default false (.ofHeaps fun _ => true)
        protectedSquareDerived ⟨0#32, 0#32, 1#32⟩ = .ok ⟨[], none⟩ := by
  decide +kernel

/-- The buffer in protected memory. -/
def protectedSquareBuf : DmaBuf where
  memory := .heap .protectedMemory
  handle :=
    { size := 1024
      consumerUsage := 0x4300#64
      producerUsage := 0x4300#64
      reqFormat := 1
      allocFormat := ⟨.unorm, 1#32, 0#32⟩
      width := 16
      height := 16
      layerCount := 1
      planeInfo := PlaneLayout.zero.set 0 ⟨0, 64, 16, 16⟩
      stride := 16
      isMultiPlane := false
      flags := Flags.secureExtend
      ionDelayAlloc := 0#32
      reqWidth := 16#32
      reqHeight := 16#32
      format := 1#32
      usage := 0x4300#32
      needMmap := true
      pitches := 0 }

/-- The flags, at the square in protected memory. -/
theorem faithful_of_allocatorAllocate_protectedSquare :
    protectedSquareBuf.CoherentFaithful ∧
      (ProtectedFallback .default (.ofHeaps fun _ => true) protectedSquareDerived ∧
          protectedSquareBuf.memory = .heap .system ∨
        protectedSquareBuf.SecureFaithful protectedSquareDerived) := by
  have h : allocatorAllocate wrapping ⟨false, false⟩ .default false (.ofHeaps fun _ => true)
      protectedSquareDerived ⟨0#32, 0#32, 0#32⟩ =
        .ok ⟨[.alloc .protectedMemory 1024], some protectedSquareBuf⟩ := by decide +kernel
  exact faithful_of_allocatorAllocate h rfl

/-- **Without a protected heap the square is in system memory**, and is called secure. -/
theorem not_secureFaithful_protectedSquare :
    ∃ o b, allocatorAllocate wrapping ⟨false, false⟩ .default false
        (.ofHeaps (· != .protectedMemory)) protectedSquareDerived ⟨0#32, 0#32, 0#32⟩ = .ok o ∧
      o.buffer = some b ∧ b.memory = .heap .system ∧
      b.handle.flags.has Flags.secureProtected = true ∧
      protectedSquareDerived.usage.has Usage.protectedContent = true := by
  refine ⟨⟨[.alloc .protectedMemory 1024, .alloc .system 1024],
    some ⟨.heap .system, { protectedSquareBuf.handle with flags := Flags.secureProtected }⟩⟩,
    ⟨.heap .system, { protectedSquareBuf.handle with flags := Flags.secureProtected }⟩, ?_⟩
  decide +kernel

end DmaBuf

end Gralloc
