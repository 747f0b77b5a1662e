import Gralloc.Heap.Allocate
import Gralloc.Ion.Heaps

/-!
# Allocation from ION

The allocator for ION picks a type of heap (`Gralloc.Ion.pickIonHeap`), asks the UVM if the video
decoder is to write the buffer, and ION otherwise. What the handle says of the memory is decided
last, from the type of heap that the memory came from (`Gralloc.Ion.setPrivHeapFlag`): memory of
the system that took the place of another heap's is not called contiguous.

Protected content is looked at late when the heap is picked, after frame buffers, the camera, the
video encoder and the decoder, but it is what the flag of secure memory is read off. The handle
says what the memory is exactly when protected content is none of these
(`Gralloc.Ion.faithful_iff_of_run`), or comes from the UVM.
-/

namespace Gralloc

namespace Ion

open CInt Resource

/-! ### Picking a heap -/

section

variable (cfg : HeapConfig) (d : BufferDescriptor) (usage : Usage)

/-- **The type of heap of a request.** -/
def pickIonHeap : HeapType :=
  let (w, h) := cfg.maxComposerBuf
  if usage.has Usage.hwFb then .fb
  else if usage.isOmxOsdExtend || usage.has Usage.hwCameraWrite || usage.has Usage.hwVideoEncoder
  then .custom
  else if usage.isOmxMetadataExtend then .system
  else if usage.has Usage.protectedContent then .secure
  else if cfg.contiguousDisplay && usage.has Usage.hwComposer && decide (d.width ≤ w) &&
    decide (d.height ≤ h) && !d.isAndroidYuv then .dma
  else .system

/-- What a handle says of its heap, and of its usage. -/
def setPrivHeapFlag (type : HeapType) (flags : Flags) : Flags :=
  let flags :=
    if type = .system then flags &&& ~~~Flags.coherentExtend
    else if type = .dma ∨ type = .custom ∨ type = .fb then flags ||| Flags.coherentExtend
    else flags
  -- the usage of a decoder is tested first: it shares bits with the video overlay's
  let flags := if usage.isOmxMetadataExtend then flags ||| Flags.omxMetadataExtend else flags
  if usage.has Usage.protectedContent then flags ||| Flags.secureExtend else flags

/-! ### The UVM -/

/-- The scalar of a buffer; the root of a size is not taken here. -/
def bufScalar : Option ℤ :=
  if d.decoderParaType != .none then some 2
  else if usage.isOmxOsdExtend || usage.isVideoDecoderFull || usage.isVideoDecoderOsd then some 1
  else if usage.isVideoDecoderQuarter then some 2
  else if usage.isVideoDecoderOneSixteenth then some 4
  else if usage.isVideoDecoderReplace then some 7
  else none

def uvmFlags : BitVec 32 :=
  let flag := if (bufScalar d usage).isSome then UvmFlag.immAlloc else UvmFlag.delayAlloc
  let flag := if usage.has Usage.protectedContent then flag ||| UvmFlag.usageProtected else flag
  let flag :=
    if usage.isVideoDecoderOsd || usage.isOmxOsdExtend then flag ||| UvmFlag.skipRealloc else flag
  flag ||| UvmFlag.sizeSkip

def uvmAllocData (A : Arith) (props : MediaProperties) : Run UvmAllocData := do
  let scalar := (bufScalar d usage).getD 1
  let scaled ← scaledBufSize A props d scalar
  .ok
    { size := toInt d.size
      byteStride := d.pixelStride
      width := d.width
      height := d.height
      align := uvmAlign d usage
      flags := uvmFlags d usage
      scalar := scalar
      scaledBufSize := scaled }

/-- The record, once it is filled. -/
def uvmExecData : UvmExecData :=
  if usage.usesUvm then
    { delayAlloc := if (bufScalar d usage).isSome then 0#32 else 1#32
      uvmFlag := uvmFlags d usage
      uvmBufferFlag := Flags.uvmBuffer }
  else
    { delayAlloc := 0#32
      uvmFlag := UvmFlag.immAlloc
      uvmBufferFlag := 0#32 }

end

/-- The kernel, as one allocation sees it. -/
structure Kernel where
  getUvm : ℤ
  uvmAlloc : UvmAllocData → ℤ × ℤ
  /-- The replies to the attempts at heaps. -/
  ionAllocFd : ℕ → Attempt → Option ℕ

section

variable (A : Arith) (props : MediaProperties) (cfg : HeapConfig) (kernel : Kernel)
  (d : BufferDescriptor) (agu : UvmExecData)

/-- The descriptor from the UVM, and the record. -/
def execUvmPolicy (usage : Usage) : Run (ℤ × UvmExecData) := do
  -- the early return, ahead of the initialisation
  if kernel.getUvm < 0 then .ok (-1, agu)
  else if usage.usesUvm then do
    let data ← uvmAllocData d usage A props
    let (ret, fd) := kernel.uvmAlloc data
    .ok (if ret < 0 then ret else fd, uvmExecData d usage)
  else .ok (-1, uvmExecData d usage)

/-! ### Allocation -/

/-- Where the memory of a buffer comes from. -/
inductive Memory where
  /-- The UVM, asked with these flags. -/
  | uvm (flags : BitVec 32)
  | heap (got : Attempt)
  deriving DecidableEq, Repr

/-- Memory that was obtained, and what the handle will say of it. -/
structure Obtained where
  memory : Memory
  flags : Flags
  delayAlloc : BitVec 32
  deriving DecidableEq, Repr

def usesIon : Flags := 4#32

/-- Memory for a request. `agu` is what `malloc` returned. -/
def obtainMemory (dev : IonDevice) : Run (Option Obtained) :=
  if dev.client = none then .ok none
  else do
    let type := pickIonHeap cfg d d.usage
    let ionFlags := setIonFlags type d.usage 0#32
    let (sharedFd, agu) ← execUvmPolicy A props kernel d agu d.usage
    let handleFlags (type : HeapType) : Flags :=
      usesIon ||| setPrivHeapFlag d.usage type 0#32 ||| agu.uvmBufferFlag
    if 0 ≤ sharedFd then .ok (some ⟨.uvm agu.uvmFlag, handleFlags type, agu.delayAlloc⟩)
    else if agu.uvmBufferFlag ≠ 0#32 then .ok none
    else
      .ok ((allocFromIonHeap kernel.ionAllocFd dev d.usage d.size type ionFlags).map fun got =>
        ⟨.heap got.1, handleFlags got.1.type, 0#32⟩)

/-- A buffer: its memory and its handle. -/
structure IonBuf where
  memory : Memory
  handle : DmaBufHandle
  deriving DecidableEq, Repr

/-- The handle of memory that was obtained. -/
def describeMemory (o : Obtained) : Run (Option IonBuf) :=
  match makePrivateHandle d with
  | none => .ok none
  | some hnd => do
    let map ← needMmap A d
    .ok (some
      { memory := o.memory
        handle :=
          { hnd with
            flags := o.flags
            ionDelayAlloc := o.delayAlloc
            reqWidth := d.width
            reqHeight := d.height
            format := d.halFormat.setWidth 32
            usage := d.usage.setWidth 32
            needMmap := map
            pitches := d.pitches } })

/-- **The allocation of a derived descriptor.** -/
def allocatorAllocate (dev : IonDevice) : Run (Option IonBuf) := do
  let obtained ← obtainMemory A props cfg kernel d agu dev
  match obtained with
  | none => .ok none
  | some o => describeMemory A d o

end

/-! ### What is said of the memory -/

/-- Memory that may hold protected content: that of the heap for it, and what the UVM gave when it
was asked for protected memory. -/
def Memory.IsSecure : Memory → Prop
  | .uvm flags => flags.getLsbD 3 = true
  | .heap got => got.heap.name = "secure_ion"

/-- Memory of the system. -/
def Memory.IsSystem : Memory → Prop
  | .uvm _ => False
  | .heap got => got.type = .system

/-- **A handle says what its memory is**: secure only if it is, and contiguous, or a dma heap's,
only if it is not the system's. -/
structure Faithful (b : IonBuf) : Prop where
  secure : b.handle.flags.has Flags.secureProtected = true → b.memory.IsSecure
  coherent : b.handle.flags.has Flags.coherentExtend = true → ¬b.memory.IsSystem

/-- The kernel's heaps are of the kernel's types. -/
def KernelTypes (heaps : List HeapData) : Prop :=
  ∀ h ∈ heaps, h.type ≠ .fb ∧ h.type ≠ .secure

section

variable {A : Arith} {props : MediaProperties} {cfg : HeapConfig} {kernel : Kernel}
  {d : BufferDescriptor} {agu : UvmExecData} {dev : IonDevice} {b : IonBuf} {got : Obtained}
  {type : HeapType} {usage : Usage}

/-- **Memory is called contiguous** when its heap is, or the content protected. -/
theorem setPrivHeapFlag_has_coherent (usage : Usage) (type : HeapType) :
    (setPrivHeapFlag usage type 0#32).has Flags.coherentExtend =
      (decide (type = .dma ∨ type = .custom ∨ type = .fb) ||
        usage.has Usage.protectedContent) := by
  have hdisjoint : ¬(HeapType.system = .dma ∨ HeapType.system = .custom ∨
      HeapType.system = .fb) := by decide
  by_cases hsys : type = .system
  · subst hsys
    cases hp : usage.has Usage.protectedContent <;> cases ho : usage.isOmxMetadataExtend <;>
      simp only [setPrivHeapFlag, hp, ho, hdisjoint] <;> decide
  · by_cases hc : type = .dma ∨ type = .custom ∨ type = .fb <;>
      cases hp : usage.has Usage.protectedContent <;> cases ho : usage.isOmxMetadataExtend <;>
        simp only [setPrivHeapFlag, hp, ho, if_neg hsys, hc, if_true, if_false] <;> decide

/-- **Memory is called secure** when the content is protected. -/
theorem setPrivHeapFlag_has_secure (usage : Usage) (type : HeapType) :
    (setPrivHeapFlag usage type 0#32).has Flags.secureProtected =
      usage.has Usage.protectedContent := by
  by_cases hsys : type = .system <;> by_cases hc : type = .dma ∨ type = .custom ∨ type = .fb <;>
    cases hp : usage.has Usage.protectedContent <;> cases ho : usage.isOmxMetadataExtend <;>
      simp only [setPrivHeapFlag, hp, ho, hsys, hc, if_true, if_false] <;> decide

/-- The bit of the UVM's flags that says protected. -/
theorem getLsbD_uvmFlags (d : BufferDescriptor) (usage : Usage) :
    (uvmFlags d usage).getLsbD 3 = usage.has Usage.protectedContent := by
  rw [uvmFlags]
  cases usage.has Usage.protectedContent <;> cases (bufScalar d usage).isSome <;>
    cases (usage.isVideoDecoderOsd || usage.isOmxOsdExtend) <;> decide

/-- **Where memory can come from**, with its flags. -/
theorem obtained_cases (h : obtainMemory A props cfg kernel d agu dev = .ok (some got)) :
    (got.memory = .uvm (uvmFlags d d.usage) ∧ got.flags =
      usesIon ||| setPrivHeapFlag d.usage (pickIonHeap cfg d d.usage) 0#32 |||
        Flags.uvmBuffer) ∨
    ∃ a fd, allocFromIonHeap kernel.ionAllocFd dev d.usage d.size (pickIonHeap cfg d d.usage)
        (setIonFlags (pickIonHeap cfg d d.usage) d.usage 0#32) = some (a, fd) ∧
      got.memory = .heap a ∧
      got.flags = usesIon ||| setPrivHeapFlag d.usage a.type 0#32 := by
  unfold obtainMemory at h
  by_cases hopen : dev.client = none
  · rw [if_pos hopen] at h
    cases h
  rw [if_neg hopen] at h
  obtain ⟨⟨sharedFd, agu'⟩, huvm, h⟩ := bind_eq_ok.mp h
  have hfilled : 0 ≤ sharedFd → agu' = uvmExecData d d.usage ∧ d.usage.usesUvm = true := by
    intro hfd
    unfold execUvmPolicy at huvm
    split_ifs at huvm with hneg huses
    · cases huvm
      omega
    · obtain ⟨data, -, huvm⟩ := bind_eq_ok.mp huvm
      cases huvm
      exact ⟨rfl, huses⟩
    · cases huvm
      omega
  by_cases hfd : 0 ≤ sharedFd
  · obtain ⟨rfl, huses⟩ := hfilled hfd
    simp only [if_pos hfd] at h
    cases h
    rw [uvmExecData, if_pos huses]
    exact Or.inl ⟨rfl, rfl⟩
  · simp only [if_neg hfd] at h
    by_cases hflag : agu'.uvmBufferFlag = 0#32
    · simp only [hflag, ne_eq, not_true_eq_false, if_false, Except.ok.injEq,
        Option.map_eq_some_iff, BitVec.or_zero] at h
      obtain ⟨⟨a, fd⟩, ha, rfl⟩ := h
      exact Or.inr ⟨a, fd, ha, rfl, rfl⟩
    · simp only [ne_eq, hflag, not_false_eq_true, if_true] at h
      cases h

/-- What a description keeps. -/
theorem of_describeMemory (h : describeMemory A d got = .ok (some b)) :
    b.memory = got.memory ∧ b.handle.flags = got.flags := by
  unfold describeMemory at h
  split at h
  · cases h
  · obtain ⟨map, -, h⟩ := bind_eq_ok.mp h
    cases h
    exact ⟨rfl, rfl⟩

/-! ### Protected content -/

/-- What is looked at before protected content, when a heap is picked. -/
def PickedFirst (usage : Usage) : Prop :=
  usage.has Usage.hwFb = true ∨ usage.isOmxOsdExtend = true ∨
    usage.has Usage.hwCameraWrite = true ∨ usage.has Usage.hwVideoEncoder = true ∨
      usage.isOmxMetadataExtend = true

theorem pickIonHeap_eq_secure_iff (cfg : HeapConfig) (d : BufferDescriptor)
    (hp : usage.has Usage.protectedContent = true) :
    pickIonHeap cfg d usage = .secure ↔ ¬PickedFirst usage := by
  unfold pickIonHeap PickedFirst
  cases usage.has Usage.hwFb <;> cases usage.isOmxOsdExtend <;>
    cases usage.has Usage.hwCameraWrite <;> cases usage.has Usage.hwVideoEncoder <;>
      cases usage.isOmxMetadataExtend <;> simp [hp, HeapType.fb, HeapType.custom, HeapType.secure,
        HeapType.system]

/-- **What an attempt is made at**: a heap of the type, or of the system where it takes its place. -/
theorem of_mem_attempts {flags : BitVec 32} {heaps : List HeapData} {a : Attempt}
    (ha : a ∈ attempts usage type flags heaps) :
    a.heap ∈ heaps ∧ (a.type = type ∧ HeapData.isOf type a.heap = true ∨
      mayFallBack usage type = true ∧ a.type = .system ∧ a.heap.type = .system) := by
  have hat {p : HeapData → Bool} {type' : HeapType} {flags' : BitVec 32}
      (ha : a ∈ attemptsAt p type' flags' heaps) :
      a.heap ∈ heaps ∧ p a.heap = true ∧ a.type = type' := by
    obtain ⟨heap, hheap, rfl⟩ := List.mem_map.mp ha
    obtain ⟨hmem, hp⟩ := List.mem_filter.mp hheap
    exact ⟨hmem, hp, rfl⟩
  rcases List.mem_append.mp ha with ha | ha
  · obtain ⟨hmem, hp, htype⟩ := hat ha
    exact ⟨hmem, Or.inl ⟨htype, hp⟩⟩
  · split_ifs at ha with hfall
    · obtain ⟨hmem, hp, htype⟩ := hat ha
      exact ⟨hmem, Or.inr ⟨hfall, htype, beq_iff_eq.mp hp⟩⟩
    · exact absurd ha List.not_mem_nil

/-- **The heap for protected memory** is known by its name and by its type alike. -/
theorem type_eq_secure_iff {heaps : List HeapData} (hk : KernelTypes heaps) {heap : HeapData}
    (hheap : heap ∈ triedHeaps heaps) : heap.type = .secure ↔ heap.name = "secure_ion" := by
  unfold triedHeaps at hheap
  split_ifs at hheap with hnil
  · rw [List.mem_singleton.mp hheap]
    decide
  · obtain ⟨h, hh, rfl⟩ := List.mem_map.mp hheap
    unfold HeapData.retype
    split_ifs with hname
    · exact iff_of_true rfl hname
    · exact iff_of_false (hk h hh).2 hname

/-- An allocation makes one of its attempts. -/
theorem mem_attempts_of_allocFromIonHeap {known : Option (List HeapData)}
    (hrep : Represents dev known) {reply : ℕ → Attempt → Option ℕ} {size : ℕ} {flags : BitVec 32}
    {a : Attempt} {fd : ℕ} (h : allocFromIonHeap reply dev usage size type flags = some (a, fd)) :
    ∃ heaps, known = some heaps ∧ a ∈ attempts usage type flags (triedHeaps heaps) := by
  by_cases hbad : dev.client = none ∨ size = 0 ∨ type = .invalid
  · rw [allocFromIonHeap, if_pos hbad] at h
    cases h
  obtain ⟨hopen, hrest⟩ := not_or.mp hbad
  obtain ⟨hsize, htype⟩ := not_or.mp hrest
  cases known with
  | none => exact absurd hrep hopen
  | some heaps =>
    rw [allocFromIonHeap_eq hopen hsize htype, firstGranted_eq_some_iff] at h
    obtain ⟨i, hi, -⟩ := h
    rw [entries_eq hrep] at hi
    exact ⟨heaps, rfl, List.mem_of_getElem? hi⟩

/-- **Protected content is in the heap for it** when that heap was picked: no other type of heap
leads there, and from this type there is no way back to the system's heaps. -/
theorem name_eq_secure_iff {heaps : List HeapData} (hk : KernelTypes heaps) {flags : BitVec 32}
    {a : Attempt} (ha : a ∈ attempts usage type flags (triedHeaps heaps)) :
    a.heap.name = "secure_ion" ↔ type = .secure := by
  obtain ⟨hheap, hplace⟩ := of_mem_attempts ha
  have hname := type_eq_secure_iff hk hheap
  rw [← hname]
  constructor
  · intro hsecure
    rcases hplace with ⟨-, hof⟩ | ⟨-, -, hsys⟩
    · simp only [HeapData.isOf, Bool.or_eq_true, Bool.and_eq_true, beq_iff_eq] at hof
      rcases hof with ⟨heq, -⟩ | ⟨-, hfb⟩
      · exact heq.trans hsecure
      · rw [hname.mp hsecure] at hfb
        exact absurd hfb (by decide)
    · rw [hsecure] at hsys
      exact absurd hsys (by decide)
  · rintro rfl
    rcases hplace with ⟨-, hof⟩ | ⟨hfall, -, -⟩
    · simp only [HeapData.isOf, Bool.or_eq_true, Bool.and_eq_true, beq_iff_eq] at hof
      rcases hof with ⟨heq, -⟩ | ⟨hfb, -⟩
      · exact heq.symm
      · exact absurd hfb (by decide)
    · exact absurd hfall (by simp [mayFallBack])

/-- **A handle of a heap's memory** is faithful when protected content is in the heap for it. -/
theorem faithful_iff_of_attempt {heaps : List HeapData} (hk : KernelTypes heaps)
    {flags : BitVec 32} {a : Attempt}
    (ha : a ∈ attempts usage type flags (triedHeaps heaps)) (hmemory : b.memory = .heap a)
    (hflags : b.handle.flags = usesIon ||| setPrivHeapFlag usage a.type 0#32) :
    Faithful b ↔ (usage.has Usage.protectedContent = true → type = .secure) := by
  have hno : usesIon.has Flags.secureProtected = false ∧
      usesIon.has Flags.coherentExtend = false := by decide
  have hsecure : b.handle.flags.has Flags.secureProtected =
      usage.has Usage.protectedContent := by
    rw [hflags, Flags.has_or, hno.1, Bool.false_or, setPrivHeapFlag_has_secure]
  have hcoherent : b.handle.flags.has Flags.coherentExtend =
      (decide (a.type = .dma ∨ a.type = .custom ∨ a.type = .fb) ||
        usage.has Usage.protectedContent) := by
    rw [hflags, Flags.has_or, hno.2, Bool.false_or, setPrivHeapFlag_has_coherent]
  have hname := name_eq_secure_iff hk ha
  constructor
  · intro hfaithful hp
    refine hname.mp ?_
    have hs := hfaithful.secure (hsecure.trans hp)
    rwa [hmemory] at hs
  · intro htype
    refine ⟨fun hs => ?_, fun hc => ?_⟩ <;> rw [hmemory]
    · exact hname.mpr (htype (hsecure.symm.trans hs))
    · rintro (hsys : a.type = .system)
      have hdisjoint : ¬(HeapType.system = .dma ∨ HeapType.system = .custom ∨
          HeapType.system = .fb) := by decide
      rw [hcoherent, hsys, decide_eq_false hdisjoint, Bool.false_or] at hc
      -- from the type for protected content there is no way to the system's heaps
      obtain ⟨-, ⟨htype', -⟩ | ⟨hfall, -, -⟩⟩ := of_mem_attempts ha
      · rw [htype hc, hsys] at htype'
        exact absurd htype' (by decide)
      · rw [htype hc] at hfall
        exact absurd hfall (by simp [mayFallBack])

/-- **A handle of the UVM's memory** is faithful: the UVM was told what is protected. -/
theorem faithful_of_uvm {old : Flags}
    (hold : old.has Flags.secureProtected = false) (hmemory : b.memory = .uvm (uvmFlags d d.usage))
    (hflags : b.handle.flags = old ||| setPrivHeapFlag d.usage type 0#32 ||| Flags.uvmBuffer) :
    Faithful b := by
  have hno : Flags.uvmBuffer.has Flags.secureProtected = false := by decide
  refine ⟨fun hs => ?_, fun _ => ?_⟩ <;> rw [hmemory]
  · rw [hflags, Flags.has_or, Flags.has_or, hold, hno, Bool.false_or, Bool.or_false,
      setPrivHeapFlag_has_secure] at hs
    exact (getLsbD_uvmFlags d d.usage).trans hs
  · exact id

/-- **Handles of ION tell the truth**, in every state of the device and whatever the kernel
replies, exactly when protected content from a heap is for none of the uses that are looked at
first. -/
theorem faithful_iff_of_run (calls : List DeviceCall)
    (hk : ∀ heaps, calls.foldl DeviceCall.next none = some heaps → KernelTypes heaps)
    (h : allocatorAllocate A props cfg kernel d agu (calls.foldl DeviceCall.run .start) =
      .ok (some b)) :
    Faithful b ↔ ∀ a, b.memory = .heap a → d.usage.has Usage.protectedContent = true →
      ¬PickedFirst d.usage := by
  obtain ⟨obtained, hobtained, h⟩ := bind_eq_ok.mp h
  cases obtained with
  | none => cases h
  | some got =>
    obtain ⟨hmemory, hflags⟩ := of_describeMemory h
    rcases obtained_cases hobtained with ⟨hm, hf⟩ | ⟨a, fd, ha, hm, hf⟩
    · rw [hm] at hmemory
      refine iff_of_true (faithful_of_uvm (by decide) hmemory (hflags.trans hf)) ?_
      rintro a ha
      cases hmemory.symm.trans ha
    · rw [hm] at hmemory
      obtain ⟨heaps, hknown, hattempt⟩ :=
        mem_attempts_of_allocFromIonHeap (represents_run calls) ha
      rw [faithful_iff_of_attempt (hk heaps hknown) hattempt hmemory (hflags.trans hf)]
      constructor
      · intro htype _ _ hp
        exact (pickIonHeap_eq_secure_iff cfg d hp).mp (htype hp)
      · intro hfirst hp
        exact (pickIonHeap_eq_secure_iff cfg d hp).mpr (hfirst a hmemory hp)

end

/-! ### A protected frame -/

/-- A kernel with three heaps. -/
def threeHeaps : OpenReply where
  ionOpen := some 3
  ionQueryHeapCnt := some 3
  ionQueryGetHeaps := some fun i =>
    if i = 0 then ⟨"ion_system_heap", .system, 0#32⟩
    else if i = 1 then ⟨"secure_ion", .custom, 16#32⟩
    else ⟨"ion-fb", .custom, 17#32⟩

/-- All of them have memory, and there is no UVM. -/
def heapsOnly : Kernel where
  getUvm := -1
  uvmAlloc _ := (-1, -1)
  ionAllocFd k _ := some (7 + k)

/-- 16 × 16 protected pixels of RGBA_8888 for the display. -/
def protectedFrame : BufferDescriptor :=
  { BufferDescriptor.request 16#32 16#32 (Usage.protectedContent ||| Usage.hwFb) 1#64 1#32 with
    allocFormat := ⟨.unorm, 1#32, 0#32⟩
    size := 1024
    pixelStride := 16
    planeInfo := PlaneLayout.zero.set 0 ⟨0, 64, 16, 16⟩ }

def protectedFrameBuf : IonBuf where
  memory := .heap ⟨⟨"ion-fb", .custom, 17#32⟩, ionFlagExtendMesonHeap, .fb⟩
  handle :=
    { size := 1024
      consumerUsage := Usage.protectedContent ||| Usage.hwFb
      producerUsage := Usage.protectedContent ||| Usage.hwFb
      reqFormat := 1
      allocFormat := ⟨.unorm, 1#32, 0#32⟩
      width := 16
      height := 16
      layerCount := 1
      planeInfo := PlaneLayout.zero.set 0 ⟨0, 64, 16, 16⟩
      stride := 16
      isMultiPlane := false
      flags := usesIon ||| Flags.coherentExtend ||| Flags.secureExtend
      ionDelayAlloc := 0#32
      reqWidth := 16#32
      reqHeight := 16#32
      format := 1#32
      usage := 0x5000#32
      needMmap := true
      pitches := 0 }

/-- The frame is in ordinary memory for the display, and is called secure. -/
theorem faithful_iff_of_run_frame :
    allocatorAllocate wrapping ⟨false, false⟩ .default heapsOnly protectedFrame
        ⟨0#32, 0#32, 0#32⟩ ([DeviceCall.get threeHeaps].foldl DeviceCall.run .start) =
      .ok (some protectedFrameBuf) ∧ ¬Faithful protectedFrameBuf := by
  have hk : ∀ heaps, [DeviceCall.get threeHeaps].foldl DeviceCall.next none = some heaps →
      KernelTypes heaps := by
    rintro heaps ⟨⟩ h hh
    rcases List.mem_cons.mp hh with rfl | hh
    · decide
    rcases List.mem_cons.mp hh with rfl | hh
    · decide
    rw [List.mem_singleton.mp hh]
    decide
  have hb : allocatorAllocate wrapping ⟨false, false⟩ .default heapsOnly protectedFrame
      ⟨0#32, 0#32, 0#32⟩ ([DeviceCall.get threeHeaps].foldl DeviceCall.run .start) =
        .ok (some protectedFrameBuf) := by decide +kernel
  refine ⟨hb, fun h => ?_⟩
  exact (faithful_iff_of_run [.get threeHeaps] hk hb).mp h _ rfl rfl (Or.inl rfl)

end Ion

end Gralloc
