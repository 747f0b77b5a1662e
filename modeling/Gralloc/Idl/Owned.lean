import Gralloc.Resource.Ledger
import Gralloc.Heap.UvmRequest
import Gralloc.Idl.Region
import Gralloc.Aidl.Allocate

/-!
# What a batch owns

The allocation of a batch once more, with what it acquires and releases: the descriptor of the
memory and its duplicate, the file behind the metadata and its mapping, and the memory of the
handle. Each function keeps the log of `Resource.Action`, and the handles own what they name
(`Gralloc.Owned.OwnedBuf.owns`), which their end releases.

Without its log a batch is the one of `Gralloc.allocateLoop`
(`Gralloc.Owned.value_allocateLoop_map`), if there is always memory for the handle itself, which
that one takes for granted.

A buffer may fail for want of memory, of a file or of its mapping, or because its stride is not
the one before. Wherever it does, and in whatever buffer of the batch, all is released that was
acquired until then (`Gralloc.Owned.triple_allocateLoop`). What a client is given in the end are
the descriptors of the handles (`Gralloc.Owned.triple_allocateCommon`). The one path that loses
something, a format without properties, is not taken: the derivation has seen the properties
(`Gralloc.Owned.triple_allocatorAllocate`).
-/

namespace Gralloc

namespace Owned

open CInt Resource Mapper

/-! ### Buffers with their descriptors -/

/-- What a batch acquires. -/
inductive Res where
  | fd (n : ℕ)
  /-- The memory of a handle. -/
  | handle (address : ℕ)
  /-- A file in memory. -/
  | mapping (fd : ℕ)
  deriving DecidableEq, Repr

/-- A step of the allocator. -/
abbrev Step (α : Type) : Type := Action Res Fault α

/-- The surroundings of a buffer, with what the system gives it. -/
structure Supply where
  attempt : Attempt
  /-- The memory of a new handle, if there is some. -/
  nativeHandle : Option ℕ
  /-- The descriptor that `dup` returns, if it returns one. -/
  dup : Option ℕ
  /-- The descriptor of a new file. -/
  memfd : ℕ
  attr : AttrKernel

/-- A handle that owns its descriptors. -/
structure OwnedBuf where
  buf : DmaBuf
  address : ℕ
  shareFd : ℕ
  shareAttrFd : Option ℕ
  amExtendFd : Option ℕ
  deriving DecidableEq, Repr

namespace OwnedBuf

/-- The descriptors of a handle that are descriptors. -/
def fds (hnd : OwnedBuf) : List ℕ := hnd.shareFd :: hnd.shareAttrFd.toList ++ hnd.amExtendFd.toList

/-- What a handle owns. -/
def owns (hnd : OwnedBuf) : List Res := hnd.fds.map .fd ++ [.handle hnd.address]

/-- **The end of a handle**: its descriptors are closed, and its memory is freed. -/
def delete (hnd : OwnedBuf) : Step Unit := releaseAll hnd.owns

end OwnedBuf

/-! ### One buffer -/

section

variable (p : Platform) (reserved : BitVec 64) (s : Supply)

/-- The memory of `Gralloc.obtainMemory`, with its descriptor. -/
def obtainFd (d : BufferDescriptor) : Run (Option (Obtained × ℕ)) := do
  let heap := pickDmaBufHeap p.heaps s.attempt.layerOnGfx d d.usage
  let flags := setBufferFlags heap d.usage 0#32
  let r ← execUvmPolicy wrapping p.props s.attempt.kernel d d.usage s.attempt.agu
  if 0 ≤ r.sharedFd then
    .ok (some (⟨.uvm r.agu.uvmFlag, r.agu.uvmBufferFlag ||| flags, r.agu.delayAlloc⟩,
      r.sharedFd.toNat))
  else if r.agu.uvmBufferFlag ≠ 0#32 then .ok none
  else
    .ok ((obtainFromHeap p.heaps s.attempt.kernel heap flags d.size).2.map fun (h, flags) =>
      (⟨.heap h, r.agu.uvmBufferFlag ||| flags, 0#32⟩, (s.attempt.kernel.alloc h d.size).toNat))

/-- A handle for memory that is obtained. -/
def allocatorAllocate (d : BufferDescriptor) : Step (Option OwnedBuf) := do
  let got ← obtainFd p s d
  match got with
  | none => pure none
  | some (o, sharedFd) => do
    acquire (.fd sharedFd)
    match s.nativeHandle with
    | none => do
      release (.fd sharedFd)
      pure none
    | some address => do
      acquire (.handle address)
      let described ← describeMemory wrapping d o
      match described with
      -- the format has no properties: the memory of the handle is not freed
      | none => do
        release (.fd sharedFd)
        pure none
      | some buf => do
        acquireAll (s.dup.toList.map .fd)
        pure (some ⟨buf, address, sharedFd, none, s.dup⟩)

/-- The allocation of a buffer. -/
def bufferAllocate (d : BufferDescriptor) : Step (BufferDescriptor × Option OwnedBuf) := do
  let r ← deriveFormatAndSize wrapping p.caps s.attempt.node d
  match r.1 with
  | .einval => pure (r.2, none)
  | .success => do
    let d ← finalDescriptor wrapping p.displays r.2
    let hnd ← allocatorAllocate p s d
    pure (d, hnd)

/-- A file of some size, sealed. -/
def sharedMemoryAllocate (size : ℤ) : Step (Option ℕ) :=
  if !s.attr.memfdCreate then pure none
  else do
    acquire (.fd s.memfd)
    if 0 < size ∧ s.attr.ftruncate size.toNat = false then do
      release (.fd s.memfd)
      pure none
    else if !s.attr.addSeals then do
      release (.fd s.memfd)
      pure none
    else pure (some s.memfd)

/-- A buffer of a batch with its metadata, before its stride is looked at. -/
def obtainOne (d : BufferDescriptor) : Step (BufferDescriptor × Except AllocError OwnedBuf) := do
  let r ← bufferAllocate p s d
  match r.2 with
  | none => pure (r.1, .error .noMemory)
  | some hnd => do
    let attrSize := BitVec.ofNat 64 sharedMetadataSize + reserved
    let shareAttrFd ← sharedMemoryAllocate s attrSize.toInt
    match shareAttrFd with
    | none => do
      hnd.delete
      pure (r.1, .error .badValue)
    | some fd => do
      let hnd := { hnd with shareAttrFd := some fd }
      if s.attr.mmap attrSize.toNat then do
        acquire (.mapping fd)
        release (.mapping fd)
        pure (r.1, .ok hnd)
      else do
        hnd.delete
        pure (r.1, .error .noMemory)

/-- One buffer of a batch; `stride` is that of the buffers before it, or 0. -/
def allocateOne (stride : ℤ) (d : BufferDescriptor) :
    Step (BufferDescriptor × Except AllocError (OwnedBuf × ℤ)) := do
  let r ← obtainOne p reserved s d
  match r.2 with
  | .error err => pure (r.1, .error err)
  | .ok hnd =>
    if stride = 0 then pure (r.1, .ok (hnd, r.1.pixelStride))
    -- the stride is the same for all the buffers
    else if stride ≠ r.1.pixelStride then do
      hnd.delete
      pure (r.1, .error .badValue)
    else pure (r.1, .ok (hnd, stride))

end

/-! ### A batch -/

/-- The end of the handles of a vector, from the last one on. -/
def deleteAll (hnds : List OwnedBuf) : Step Unit := releaseAll (hnds.reverse.flatMap OwnedBuf.owns)

/-- The descriptors of some handles. -/
def descriptors (hnds : List OwnedBuf) : List Res := hnds.flatMap fun hnd => hnd.fds.map .fd

section

variable (p : Platform) (reserved : BitVec 64)

/-- The buffers of a batch, after those that there are. -/
def allocateLoop : List Supply → ℤ → List OwnedBuf → BufferDescriptor →
    Step (BufferDescriptor × Except AllocError (List OwnedBuf))
  | [], _, hnds, d => pure (d, .ok hnds)
  | s :: ss, stride, hnds, d => do
    let r ← allocateOne p reserved s stride d
    match r.2 with
    | .error err => do
      deleteAll hnds
      pure (r.1, .error err)
    | .ok (hnd, stride) => allocateLoop ss stride (hnds ++ [hnd]) r.1

/-- **The allocation of a batch.** That there is room for the pointers to its handles is taken for
granted. -/
def allocate (ss : List Supply) (d : BufferDescriptor) :
    Step (BufferDescriptor × Except AllocError (List OwnedBuf)) :=
  allocateLoop p reserved ss 0 [] d

/-- What a client is given: the stride, and buffers without the memory of their handles. -/
structure AllocationResult where
  stride : ℤ
  buffers : List OwnedBuf
  deriving DecidableEq, Repr

/-- The allocation for a client. -/
def allocateCommon (flags : DescriptorFlags) (ss : List Supply) (d : BufferDescriptor) :
    Step (Except MapperError AllocationResult) := do
  let r ← allocate p reserved ss { d with flags := flags }
  match r.2 with
  | .error .noMemory => pure (.error .noResources)
  | .error .badValue => pure (.error .unsupported)
  | .ok hnds => do
    -- the descriptors pass to the client
    releaseAll (hnds.map fun hnd => .handle hnd.address)
    pure (.ok ⟨r.1.pixelStride, hnds⟩)

end

/-! ### What each function returns -/

section

variable (p : Platform) (reserved : BitVec 64) (s : Supply) (d : BufferDescriptor)

/-- A handle for memory, if there is one. -/
theorem value_allocatorAllocate :
    value (allocatorAllocate p s d) = obtainFd p s d >>= fun got =>
      match got, s.nativeHandle with
      | some (o, sharedFd), some address => (describeMemory wrapping d o).map fun described =>
        described.map fun buf => ⟨buf, address, sharedFd, none, s.dup⟩
      | _, _ => .ok none := by
  rw [allocatorAllocate, value_bind, value_liftM]
  refine bind_congr fun got => ?_
  rcases got with _ | ⟨o, sharedFd⟩
  · rfl
  · rcases s.nativeHandle with _ | address
    · rfl
    · simp only [value_bind, value_acquire, ok_bind, value_liftM]
      rcases describeMemory wrapping d o with e | (_ | buf) <;> rfl

theorem value_bufferAllocate :
    value (bufferAllocate p s d) = deriveFormatAndSize wrapping p.caps s.attempt.node d >>= fun r =>
      match r.1 with
      | .einval => .ok (r.2, none)
      | .success => (value (allocatorAllocate p s (r.2.final p.displays))).map fun hnd =>
        (r.2.final p.displays, hnd) := by
  rw [bufferAllocate, value_bind, value_liftM]
  refine bind_congr fun r => ?_
  rcases r with ⟨_ | _, d'⟩
  · simp only [value_bind, value_liftM, finalDescriptor_wrapping, ok_bind, BufferDescriptor.final]
    rcases value (allocatorAllocate p s _) with e | hnd <;> rfl
  · rfl

theorem value_sharedMemoryAllocate (size : ℤ) :
    value (sharedMemoryAllocate s size) =
      .ok ((grallocSharedMemoryAllocate s.attr size).map fun _ => s.memfd) := by
  unfold sharedMemoryAllocate grallocSharedMemoryAllocate
  split_ifs <;> rfl

/-- A buffer with its metadata. -/
theorem value_obtainOne :
    value (obtainOne p reserved s d) = (value (bufferAllocate p s d)).map fun r =>
      (r.1,
        match r.2, allocateAttr s.attr reserved with
        | none, _ => .error .noMemory
        | some _, .error e => .error e
        | some hnd, .ok _ => .ok { hnd with shareAttrFd := some s.memfd }) := by
  rw [obtainOne, value_bind]
  rcases value (bufferAllocate p s d) with e | ⟨d', _ | hnd⟩
  · rfl
  · rfl
  · simp only [ok_bind, value_bind, value_sharedMemoryAllocate, allocateAttr]
    rcases grallocSharedMemoryAllocate s.attr
      (BitVec.ofNat 64 sharedMetadataSize + reserved).toInt with _ | fileSize
    · rfl
    · simp only [Option.map_some, Except.map]
      split_ifs <;> rfl

/-- A buffer with its stride. -/
theorem value_allocateOne (stride : ℤ) :
    value (allocateOne p reserved s stride d) = (value (obtainOne p reserved s d)).map fun r =>
      (r.1, r.2.bind fun hnd =>
        if stride = 0 then .ok (hnd, r.1.pixelStride)
        else if stride ≠ r.1.pixelStride then .error .badValue
        else .ok (hnd, stride)) := by
  rw [allocateOne, value_bind]
  rcases value (obtainOne p reserved s d) with e | ⟨d', err | hnd⟩
  · rfl
  · rfl
  · simp only [ok_bind, Except.map, Except.bind]
    split_ifs <;> rfl

theorem value_allocateLoop_cons (ss : List Supply) (stride : ℤ) (hnds : List OwnedBuf) :
    value (allocateLoop p reserved (s :: ss) stride hnds d) =
      value (allocateOne p reserved s stride d) >>= fun r =>
        match r.2 with
        | .error err => .ok (r.1, .error err)
        | .ok (hnd, stride) => value (allocateLoop p reserved ss stride (hnds ++ [hnd]) r.1) := by
  rw [allocateLoop, value_bind]
  refine bind_congr fun r => ?_
  rcases r with ⟨d', err | ⟨hnd, stride'⟩⟩ <;> rfl

end

/-! ### The batch without its log -/

section

/-- Memory with its descriptor is memory. -/
theorem obtainFd_map_fst (p : Platform) (s : Supply) (d : BufferDescriptor) :
    (obtainFd p s d).map (Option.map Prod.fst) =
      (obtainMemory wrapping p.props p.heaps s.attempt.layerOnGfx s.attempt.kernel d
        s.attempt.agu).map Prod.snd := by
  rw [obtainFd, obtainMemory, map_bind, map_bind]
  refine bind_congr fun r => ?_
  split_ifs
  · rfl
  · rfl
  · simp only [Except.map, Option.map_map]
    rfl

variable {p : Platform} {reserved : BitVec 64} {s : Supply}

theorem value_bufferAllocate_map (hs : s.nativeHandle.isSome = true) (d : BufferDescriptor) :
    (value (bufferAllocate p s d)).map (fun r => (r.1, r.2.map OwnedBuf.buf)) =
      DmaBuf.bufferAllocate p s.attempt d := by
  obtain ⟨address, haddress⟩ := Option.isSome_iff_exists.mp hs
  rw [value_bufferAllocate, DmaBuf.bufferAllocate, map_bind]
  refine bind_congr fun r => ?_
  rcases r with ⟨_ | _, d'⟩
  · have hfinal : finalDescriptor wrapping p.displays d' = .ok (d'.final p.displays) :=
      finalDescriptor_wrapping _ _
    have hmemory := obtainFd_map_fst p s (d'.final p.displays)
    simp only [value_allocatorAllocate, haddress, hfinal, ok_bind, DmaBuf.allocatorAllocate]
    generalize d'.final p.displays = d at hmemory ⊢
    rcases hm : obtainMemory wrapping p.props p.heaps s.attempt.layerOnGfx s.attempt.kernel d
      s.attempt.agu with e | ⟨calls, obtained⟩
    all_goals
      rcases hfd : obtainFd p s d with e' | got
      all_goals
        rw [hm, hfd] at hmemory
        cases hmemory
    · rfl
    · rcases got with _ | ⟨o, sharedFd⟩
      · rfl
      · change ((describeMemory wrapping d o).map _ |>.map _ |>.map _) = _
        rcases hdesc : describeMemory wrapping d o with e | (_ | buf)
        all_goals
          simp only [ok_bind, hdesc]
          rfl
  · rfl

theorem value_allocateOne_map (hs : s.nativeHandle.isSome = true) (stride : ℤ)
    (d : BufferDescriptor) :
    (value (allocateOne p reserved s stride d)).map
        (fun r => (r.1, r.2.map fun x => (x.1.buf, x.2))) =
      Gralloc.allocateOne p (s.attempt.withAttr s.attr reserved) stride d := by
  have hbuf : DmaBuf.bufferAllocate p (s.attempt.withAttr s.attr reserved) d =
      DmaBuf.bufferAllocate p s.attempt d := rfl
  rw [value_allocateOne, value_obtainOne, Gralloc.allocateOne, hbuf,
    ← value_bufferAllocate_map hs d]
  rcases value (bufferAllocate p s d) with e | ⟨d', _ | hnd⟩
  · rfl
  · rfl
  · simp only [Except.map, Attempt.withAttr, ok_bind, Option.map_some]
    rcases allocateAttr s.attr reserved with (_ | _) | r
    · rfl
    · rfl
    · simp only [Except.bind]
      split_ifs <;> rfl

/-- **Without its log a batch is that of `Gralloc.allocateLoop`**, if there is memory for the
handles. -/
theorem value_allocateLoop_map (ss : List Supply) (hss : ∀ s ∈ ss, s.nativeHandle.isSome = true)
    (stride : ℤ) (hnds : List OwnedBuf) (d : BufferDescriptor) :
    (value (allocateLoop p reserved ss stride hnds d)).map
        (fun r => (r.1, r.2.map (List.map OwnedBuf.buf))) =
      (Gralloc.allocateLoop p (ss.map fun s => s.attempt.withAttr s.attr reserved) stride d).map
        fun r => (r.1, r.2.map (hnds.map OwnedBuf.buf ++ ·)) := by
  induction ss generalizing stride hnds d with
  | nil =>
    rw [List.map_nil, Gralloc.allocateLoop, allocateLoop, value_pure]
    simp only [Except.map, List.append_nil]
  | cons s ss ih =>
    rw [value_allocateLoop_cons, List.map_cons, Gralloc.allocateLoop,
      ← value_allocateOne_map (hss s List.mem_cons_self)]
    rcases value (allocateOne p reserved s stride d) with e | ⟨d', e | ⟨hnd, stride'⟩⟩
    · rfl
    · rfl
    · have hrest := ih (fun s hs => hss s (List.mem_cons_of_mem _ hs)) stride' (hnds ++ [hnd]) d'
      refine hrest.trans ?_
      simp only [Except.map, ok_bind]
      generalize Gralloc.allocateLoop p _ stride' d' = rest
      rcases rest with e | ⟨d'', e | bufs⟩
      · rfl
      · rfl
      · simp only [ok_bind, List.map_append, List.map_cons, List.map_nil, List.append_assoc,
          List.cons_append, List.nil_append]

end

section

variable {p : Platform} {reserved : BitVec 64} {s : Supply} {d d' : BufferDescriptor}
  {hnd : OwnedBuf}

/-- A handle that is made of a descriptor has no file yet, and the stride of the descriptor. -/
theorem of_allocatorAllocate (h : value (allocatorAllocate p s d) = .ok (some hnd)) :
    hnd.shareAttrFd = none ∧ hnd.buf.handle.stride = d.pixelStride := by
  rw [value_allocatorAllocate] at h
  obtain ⟨got, -, h⟩ := bind_eq_ok.mp h
  generalize s.nativeHandle = nativeHandle at h
  rcases got with _ | ⟨o, sharedFd⟩
  · cases h
  · rcases nativeHandle with _ | address
    · cases h
    · obtain ⟨described, hdesc, h⟩ := map_eq_ok.mp h
      obtain ⟨buf, rfl, rfl⟩ := Option.map_eq_some_iff.mp h
      refine ⟨rfl, ?_⟩
      obtain ⟨f, -, hhnd⟩ := Option.map_eq_some_iff.mp (DmaBuf.of_describeMemory hdesc).1
      exact (congrArg PrivateHandle.stride hhnd).symm

theorem of_bufferAllocate (h : value (bufferAllocate p s d) = .ok (d', some hnd)) :
    hnd.shareAttrFd = none ∧ hnd.buf.handle.stride = d'.pixelStride := by
  rw [value_bufferAllocate] at h
  obtain ⟨⟨st, r⟩, -, h⟩ := bind_eq_ok.mp h
  rcases st
  · obtain ⟨o, ho, h⟩ := map_eq_ok.mp h
    cases h
    exact of_allocatorAllocate ho
  · cases h

end

/-! ### What each function takes and gives -/

/-- What a handle owns, if there is one. -/
def held (hnd : Option OwnedBuf) : Multiset Res := hnd.elim 0 fun hnd => (hnd.owns : List Res)

/-- What the handles of a vector own. -/
def heldAll (hnds : List OwnedBuf) : Multiset Res := (hnds.flatMap OwnedBuf.owns : List Res)

section

variable {p : Platform} {reserved : BitVec 64} {s : Supply} {d : BufferDescriptor}
  {kept : Multiset Res}

/-- The parts of what a handle owns. -/
theorem coe_owns (hnd : OwnedBuf) :
    (hnd.owns : Multiset Res) = {.fd hnd.shareFd} + (hnd.shareAttrFd.toList.map Res.fd : List Res) +
      (hnd.amExtendFd.toList.map Res.fd : List Res) + {.handle hnd.address} := by
  simp only [OwnedBuf.owns, OwnedBuf.fds, List.map_cons, List.map_append, List.cons_append,
    ← Multiset.coe_add, ← Multiset.cons_coe, Multiset.coe_nil, Multiset.cons_zero,
    Multiset.singleton_add, Multiset.cons_add, add_assoc]

theorem triple_delete (hnd : OwnedBuf) :
    Triple (hnd.owns + kept : Multiset Res) hnd.delete fun _ => kept :=
  .releaseAll _ _

theorem triple_deleteAll (hnds : List OwnedBuf) :
    Triple (heldAll hnds) (deleteAll hnds) fun _ => 0 := by
  refine (Triple.releaseAll (hnds.reverse.flatMap OwnedBuf.owns) 0).congr ?_ fun _ => rfl
  rw [add_zero, heldAll, Multiset.coe_eq_coe]
  exact (List.reverse_perm hnds).flatMap_right _

/-- A file that cannot be made is closed. -/
theorem triple_sharedMemoryAllocate (size : ℤ) :
    Triple kept (sharedMemoryAllocate s size)
      fun fd => (fd.toList.map Res.fd : List Res) + kept := by
  have hnone : Triple kept (pure none : Step (Option ℕ)) fun fd =>
      (fd.toList.map Res.fd : List Res) + kept :=
    (Triple.pure _ none).congr (zero_add kept) fun _ => rfl
  unfold sharedMemoryAllocate
  split_ifs
  · exact hnone
  · refine (Triple.acquire _ kept).bind fun _ _ => (Triple.release _ kept).bind fun _ _ => hnone
  · refine (Triple.acquire _ kept).bind fun _ _ => (Triple.release _ kept).bind fun _ _ => hnone
  · exact (Triple.acquire _ kept).bind fun _ _ => (Triple.pure _ (some s.memfd)).congr rfl
      fun _ => rfl

/-- Memory that gets no handle is closed, if its format has properties. -/
theorem triple_allocatorAllocate (hd : d.allocFormat.getBaseInfo.isSome = true) :
    Triple kept (allocatorAllocate p s d) fun hnd => held hnd + kept := by
  have hnone : Triple kept (pure none : Step (Option OwnedBuf)) fun hnd => held hnd + kept :=
    (Triple.pure _ none).congr (zero_add kept) fun _ => rfl
  unfold allocatorAllocate
  refine (Triple.lift kept _).bind fun got _ => ?_
  rcases got with _ | ⟨o, sharedFd⟩
  · exact hnone
  · refine (Triple.acquire _ kept).bind fun _ _ => ?_
    rcases s.nativeHandle with _ | address
    · exact (Triple.release _ kept).bind fun _ _ => hnone
    · refine (Triple.acquire _ _).bind fun _ _ => (Triple.lift _ _).bind fun described hdesc => ?_
      rcases described with _ | buf
      · rw [value_liftM, describeMemory, makePrivateHandle] at hdesc
        obtain ⟨f, hf⟩ := Option.isSome_iff_exists.mp hd
        rw [hf] at hdesc
        obtain ⟨_, -, hdesc⟩ := bind_eq_ok.mp hdesc
        cases hdesc
      · refine (Triple.acquireAll _ _).bind fun _ _ =>
          (Triple.pure _ (some _)).congr ?_ fun _ => rfl
        simp only [held, Option.elim_some, coe_owns, Option.toList_none, List.map_nil,
          Multiset.coe_nil, add_zero]
        abel

/-- The format of a derived descriptor has properties. -/
theorem isSome_getBaseInfo_of_success {d' : BufferDescriptor} {caps : Capabilities}
    {node : ℕ → Option DecoderPara}
    (hd : deriveFormatAndSize wrapping caps node d = .ok (.success, d')) :
    d'.allocFormat.getBaseInfo.isSome = true := by
  obtain ⟨c, hc, -⟩ := deriveFormatAndSize_eq_success.mp hd
  rw [allocFormat_of_success hc hd, c.info_eq, Option.isSome_some]

/-- The heap's descriptor has the format of the derived one. -/
theorem isSome_getBaseInfo_final {caps : Capabilities} {node : ℕ → Option DecoderPara}
    {r : BufferDescriptor} (displays : Displays)
    (h : deriveFormatAndSize wrapping caps node d = .ok (.success, r)) :
    (r.final displays).allocFormat.getBaseInfo.isSome = true := by
  have hformat : (r.final displays).allocFormat = r.allocFormat := by rw [final_eq]
  rw [hformat]
  exact isSome_getBaseInfo_of_success h

theorem triple_bufferAllocate :
    Triple kept (bufferAllocate p s d) fun r => held r.2 + kept := by
  unfold bufferAllocate
  refine (Triple.lift kept _).bind fun r hr => ?_
  rcases r with ⟨st, d'⟩
  rcases st
  · refine (Triple.lift kept _).bind fun d'' hfinal => ?_
    rw [value_liftM] at hr hfinal
    obtain rfl : d'.final p.displays = d'' :=
      Except.ok.inj ((finalDescriptor_wrapping _ _).symm.trans hfinal)
    have hinfo := isSome_getBaseInfo_final p.displays hr
    exact (triple_allocatorAllocate hinfo).bind fun hnd _ => (Triple.pure _ (_, hnd)).congr rfl
      fun _ => rfl
  · exact (Triple.pure _ (d', none)).congr (zero_add kept) fun _ => rfl

/-- What is obtained in a result, if it is a buffer. -/
def heldOk {ε : Type} (r : Except ε OwnedBuf) : Multiset Res := held r.toOption

/-- **A buffer that fails leaves nothing**, wherever it fails. -/
theorem triple_obtainOne :
    Triple kept (obtainOne p reserved s d) fun r => heldOk r.2 + kept := by
  have herror (d' : BufferDescriptor) (e : AllocError) :
      Triple kept (pure (d', Except.error e) : Step (BufferDescriptor × Except AllocError OwnedBuf))
        fun r => heldOk r.2 + kept :=
    (Triple.pure _ (d', Except.error e)).congr (zero_add kept) fun _ => rfl
  unfold obtainOne
  refine triple_bufferAllocate.bind fun r hr => ?_
  rcases r with ⟨d', _ | hnd⟩
  · exact (herror d' _).congr (zero_add kept).symm fun _ => rfl
  · refine (triple_sharedMemoryAllocate _).bind fun fd _ => ?_
    rcases fd with _ | fd
    · refine Triple.bind (Triple.congr (triple_delete hnd) ?_ fun _ => rfl) fun _ _ => herror d' _
      exact (zero_add _).symm
    · have howns : held (some { hnd with shareAttrFd := some fd }) + kept =
          (([fd].map Res.fd : List Res) + (held (some hnd) + kept) : Multiset Res) := by
        simp only [held, Option.elim_some, coe_owns, (of_bufferAllocate hr).1, Option.toList_some,
          Option.toList_none, List.map_nil, Multiset.coe_nil]
        abel
      dsimp only
      split_ifs
      · refine (Triple.acquire _ _).bind fun _ _ => (Triple.release _ _).bind fun _ _ => ?_
        exact (Triple.pure _ (d', Except.ok _)).congr howns fun _ => rfl
      · refine Triple.bind (Triple.congr (triple_delete _) ?_ fun _ => rfl) fun _ _ => herror d' _
        exact howns

theorem triple_allocateOne (stride : ℤ) :
    Triple kept (allocateOne p reserved s stride d)
      fun r => heldOk (r.2.map Prod.fst) + kept := by
  have herror (d' : BufferDescriptor) (e : AllocError) :
      Triple kept (pure (d', Except.error e) :
        Step (BufferDescriptor × Except AllocError (OwnedBuf × ℤ)))
        fun r => heldOk (r.2.map Prod.fst) + kept :=
    (Triple.pure _ (d', Except.error e)).congr (zero_add kept) fun _ => rfl
  unfold allocateOne
  refine triple_obtainOne.bind fun r _ => ?_
  rcases r with ⟨d', e | hnd⟩
  · exact (herror d' e).congr (zero_add kept).symm fun _ => rfl
  · dsimp only
    split_ifs
    · exact (Triple.pure _ (d', Except.ok (hnd, d'.pixelStride))).congr rfl fun _ => rfl
    · exact Triple.bind (Triple.congr (triple_delete hnd) rfl fun _ => rfl) fun _ _ => herror d' _
    · exact (Triple.pure _ (d', Except.ok (hnd, stride))).congr rfl fun _ => rfl

/-- What a vector that is returned owns. -/
def heldAllOk {ε : Type} (r : Except ε (List OwnedBuf)) : Multiset Res :=
  r.toOption.elim 0 heldAll

theorem heldAll_append_singleton (hnds : List OwnedBuf) (hnd : OwnedBuf) :
    heldAll (hnds ++ [hnd]) = held (some hnd) + heldAll hnds := by
  rw [heldAll, List.flatMap_append, List.flatMap_singleton, ← Multiset.coe_add, add_comm]
  rfl

/-- **A batch that fails leaves nothing**, however many buffers it has obtained. -/
theorem triple_allocateLoop (ss : List Supply) (stride : ℤ) (hnds : List OwnedBuf)
    (d : BufferDescriptor) :
    Triple (heldAll hnds) (allocateLoop p reserved ss stride hnds d)
      fun r => heldAllOk r.2 := by
  induction ss generalizing stride hnds d with
  | nil => exact (Triple.pure _ (d, Except.ok hnds)).congr rfl fun _ => rfl
  | cons s ss ih =>
    rw [allocateLoop]
    refine (triple_allocateOne stride).bind fun r _ => ?_
    rcases r with ⟨d', e | ⟨hnd, stride'⟩⟩
    · refine Triple.bind ((triple_deleteAll hnds).congr (zero_add _).symm fun _ => rfl)
        fun _ _ => ?_
      exact (Triple.pure _ (d', Except.error e)).congr rfl fun _ => rfl
    · exact (ih stride' (hnds ++ [hnd]) d').congr (heldAll_append_singleton hnds hnd) fun _ => rfl

/-- Handles are descriptors and memory. -/
theorem heldAll_eq (hnds : List OwnedBuf) :
    heldAll hnds =
      ((hnds.map fun hnd => Res.handle hnd.address : List Res) : Multiset Res) +
        (descriptors hnds : Multiset Res) := by
  induction hnds with
  | nil => rfl
  | cons hnd hnds ih =>
    rw [heldAll, List.flatMap_cons, ← Multiset.coe_add, descriptors, List.flatMap_cons,
      List.map_cons, ← Multiset.coe_add, ← Multiset.cons_coe, ← Multiset.singleton_add]
    rw [heldAll] at ih
    rw [ih, OwnedBuf.owns, ← Multiset.coe_add, descriptors, Multiset.coe_singleton]
    abel

/-- **What a client is given** is all that an allocation leaves. -/
theorem triple_allocateCommon (flags : DescriptorFlags) (ss : List Supply) (d : BufferDescriptor) :
    Triple 0 (allocateCommon p reserved flags ss d) fun r =>
      r.toOption.elim 0 fun result => (descriptors result.buffers : Multiset Res) := by
  unfold allocateCommon
  refine Triple.bind (triple_allocateLoop ss 0 [] _) fun r _ => ?_
  rcases r with ⟨d', (_ | _) | hnds⟩
  · exact (Triple.pure _ (Except.error MapperError.noResources)).congr rfl fun _ => rfl
  · exact (Triple.pure _ (Except.error MapperError.unsupported)).congr rfl fun _ => rfl
  · refine Triple.bind ((Triple.releaseAll _ (descriptors hnds : Multiset Res)).congr
      (heldAll_eq hnds).symm fun _ => rfl) fun _ _ => ?_
    exact (Triple.pure _ (Except.ok (AllocationResult.mk d'.pixelStride hnds))).congr rfl
      fun _ => rfl

end

end Owned

end Gralloc
