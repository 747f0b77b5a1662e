import Gralloc.Aidl.Supported
import Gralloc.Idl.Allocate

/-!
# The buffers of the AIDL interface

The AIDL allocator has two ways to buffers. One takes the bytes that a mapper encoded
(`Gralloc.Aidl.allocate`) and is the allocation of the HIDL interface
(`Gralloc.Aidl.allocate_eq`). The other takes a record (`Gralloc.Aidl.allocate2`), asks
whether it is supported, and copies it into a descriptor field by field. Nothing is
validated on either. The name of a record is an array, of which whoever makes a string takes
what lies in memory from there on: a record has the memory from its name on for a name.

`Gralloc.allocate2` is what the second leaves of the state of the service
(`Gralloc.Aidl.allocate2_eq_map`); here are the buffers.
-/

namespace Gralloc

open CInt Mapper

namespace Aidl

section

variable (p : Platform) (flags : DescriptorFlags)

/-- What both ways end with: a batch, and its errors as the interface has them. -/
def allocateCommon (name : List (BitVec 8)) (es : List Attempt) (d : BufferDescriptor) :
    Run (Except MapperError (List AllocatedBuffer)) := do
  let result ← allocateBuffers p name es 0 { d with flags := flags }
  .ok (match result.2 with
    | .ok bs => .ok bs
    | .error .noMemory => .error .noResources
    | .error .badValue => .error .unsupported)

/-- **The allocation of encoded bytes.** -/
def allocate (d : BufferDescriptor) (bytes : List (BitVec 8)) (es : List Attempt) :
    Run (Except MapperError (List AllocatedBuffer)) :=
  match decodeBufferDescriptor bytes d with
  | none => .ok (.error .badDescriptor)
  | some r => allocateCommon p flags r.name es r.descriptor

/-- It is the one of the HIDL interface. -/
theorem allocate_eq : allocate p flags = Hidl.allocate p flags := rfl

end

section

variable (svc : AidlService)

/-- Memory from the name of a descriptor on: the array of a record, copied, and what lies
behind the copy. -/
def copyName (info : AidlDescriptorInfo) (behind : List (BitVec 8)) : List (BitVec 8) :=
  info.name.take nameBufferSize ++ behind

/-- **The allocation of a record.** -/
def allocate2 (cache : ProtectedCache) (info : AidlDescriptorInfo) (behind : List (BitVec 8))
    (es : List Attempt) : Run (Except MapperError (List AllocatedBuffer) × ProtectedCache) := do
  if info.isDebugLog then .ok (.error .unsupported, cache)
  else do
    let (supported, cache) ← isSupported svc cache info
    if supported then do
      let r ← allocateCommon svc.platform svc.flags (copyName info behind) es
        (info.toDescriptor svc.flags)
      .ok (r, cache)
    else .ok (.error .unsupported, cache)

/-- The state that it leaves. -/
theorem allocate2_eq_map (cache : ProtectedCache) (info : AidlDescriptorInfo)
    (behind : List (BitVec 8)) (es : List Attempt) :
    Gralloc.allocate2 svc cache info es = (allocate2 svc cache info behind es).map Prod.snd := by
  unfold Gralloc.allocate2 allocate2
  split_ifs with hdebug
  · rfl
  · rw [map_bind]
    refine bind_congr fun r => ?_
    rcases r with ⟨supported, cache⟩
    cases supported with
    | false => rfl
    | true =>
      -- the flags are set a second time, to what they are
      have hcommon : allocateCommon svc.platform svc.flags (copyName info behind) es
          (info.toDescriptor svc.flags) =
          (allocateBuffers svc.platform (copyName info behind) es 0
            (info.toDescriptor svc.flags) >>=
            fun result => .ok (match result.2 with
              | .ok bs => .ok bs
              | .error .noMemory => .error .noResources
              | .error .badValue => .error .unsupported)) := rfl
      have hloop := allocateLoop_eq_map svc.platform (copyName info behind) es 0
        (info.toDescriptor svc.flags)
      simp only [Gralloc.allocate, hloop, if_true, hcommon]
      cases allocateBuffers svc.platform (copyName info behind) es 0
        (info.toDescriptor svc.flags) <;> rfl

end

section

variable {p : Platform} {flags : DescriptorFlags} {name : List (BitVec 8)} {es : List Attempt}
  {d : BufferDescriptor} {bs : List AllocatedBuffer}

/-- A batch that is handed out was allocated. -/
theorem of_allocateCommon (h : allocateCommon p flags name es d = .ok (.ok bs)) :
    ∃ d', allocateBuffers p name es 0 { d with flags := flags } = .ok (d', .ok bs) := by
  obtain ⟨⟨d', r⟩, hrun, h⟩ := bind_eq_ok.mp h
  rcases r with (_ | _) | bs'
  · cases h
  · cases h
  · cases h
    exact ⟨d', hrun⟩

/-- The buffers of a record are those of a batch. -/
theorem of_allocate2 {svc : AidlService} {cache cache' : ProtectedCache}
    {info : AidlDescriptorInfo} {behind : List (BitVec 8)}
    (h : allocate2 svc cache info behind es = .ok (.ok bs, cache')) :
    ∃ d', allocateBuffers svc.platform (copyName info behind) es 0
      (info.toDescriptor svc.flags) = .ok (d', .ok bs) := by
  unfold allocate2 at h
  split_ifs at h with hdebug
  · cases h
  · obtain ⟨⟨supported, cache''⟩, -, h⟩ := bind_eq_ok.mp h
    cases supported with
    | false => cases h
    | true =>
      obtain ⟨r, hrun, h⟩ := bind_eq_ok.mp h
      cases h
      exact of_allocateCommon hrun

/-- The buffers of encoded bytes are those of a batch. -/
theorem of_allocate {bytes : List (BitVec 8)} (h : allocate p flags d bytes es = .ok (.ok bs)) :
    ∃ r d', decodeBufferDescriptor bytes d = some r ∧
      allocateBuffers p r.name es 0 { r.descriptor with flags := flags } = .ok (d', .ok bs) := by
  unfold allocate at h
  cases hr : decodeBufferDescriptor bytes d with
  | none =>
    rw [hr] at h
    cases h
  | some r =>
    rw [hr] at h
    obtain ⟨d', hrun⟩ := of_allocateCommon h
    exact ⟨r, d', rfl, hrun⟩

end

end Aidl

/-! ### Each buffer of a batch -/

section

variable {p : Platform} {name : List (BitVec 8)} {d d' : BufferDescriptor}

/-- **Each buffer of a batch was allocated** from a descriptor with the fields of the request,
by induction on the batch. -/
theorem exists_of_mem_allocateBuffers {es : List Attempt} {stride : ℤ}
    {bs : List AllocatedBuffer} (h : allocateBuffers p name es stride d = .ok (d', .ok bs)) :
    ∀ b ∈ bs, ∃ e ∈ es, ∃ d₀ d₁, d₀.fresh = d.fresh ∧
      DmaBuf.bufferAllocate p e d₀ = .ok (d₁, some b.buf) ∧
      b.metadata = initSharedMetadata d₁ name := by
  induction es generalizing stride d bs with
  | nil =>
    cases h
    exact fun b hb => absurd hb List.not_mem_nil
  | cons e es ih =>
    obtain ⟨d₁, b₁, stride', bs', hone, hrest, rfl⟩ := of_allocateBuffers_cons h
    have hbuf := bufferAllocate_of_allocateOne hone
    have hfresh : d₁.fresh = d.fresh := DmaBuf.fresh_of_bufferAllocate hbuf
    rintro b hb
    rcases List.mem_cons.mp hb with rfl | hb
    · exact ⟨e, List.mem_cons_self, d, d₁, rfl, hbuf, rfl⟩
    · obtain ⟨e', he', d₀, d₃, hd₀, hrun⟩ := ih hrest b hb
      exact ⟨e', List.mem_cons_of_mem _ he', d₀, d₃, hd₀.trans hfresh, hrun⟩

end

end Gralloc
