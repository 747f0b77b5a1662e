import Gralloc.Aidl.Allocate

/-!
# Names without an end

A buffer has a name, in an array of 128 bytes. Nobody who reads it knows how long it is: to
log it, to find the layer that it names, or to put it into the metadata, strings are made of
what lies in memory from the array on (`Gralloc.NameRead`), up to the first zero. Whether
that is inside the array is up to whoever filled it.

A descriptor that was decoded has a zero in the last byte, whatever the bytes were
(`Gralloc.ends_popDescriptorString`); the name of a client is cut off at 127 characters for
it. A record of the AIDL interface is copied as it is, after its own name was read. So names
are kept, and all the reads of them stay inside, for descriptors that are encoded and for
records that have an end (`Gralloc.nameKept`).
-/

namespace Gralloc

open CInt Mapper

/-! ### Reading names -/

/-- The steps of an allocation that read the name. -/
inductive NameSite where
  /-- The comparison with the name that changes the level of the log. -/
  | debugLog
  /-- The choice of a heap by the name of the layer. -/
  | pickHeapGfx
  | log
  | sharedMetadata
  deriving DecidableEq, Repr

/-- A read of a name: who reads, and what lies in memory from the name on. -/
structure NameRead where
  site : NameSite
  memory : List (BitVec 8)
  deriving DecidableEq, Repr

/-- The string that is read. -/
def NameRead.text (r : NameRead) : List (BitVec 8) := cString r.memory

/-- The bytes that are looked at: the string, and the zero at its end. -/
def NameRead.bytes (r : NameRead) : ℕ := r.text.length + 1

/-- The reads of a descriptor's name. -/
def descriptorReads (memory : List (BitVec 8)) : List NameRead :=
  [⟨.pickHeapGfx, memory⟩, ⟨.log, memory⟩, ⟨.sharedMetadata, memory⟩]

/-- A name ends in its array. -/
def NameEnds (name : List (BitVec 8)) : Prop := 0#8 ∈ name.take nameBufferSize

/-- A read stays inside the array exactly when the name ends there. -/
theorem bytes_le_iff {array behind : List (BitVec 8)} (hlen : array.length = nameBufferSize)
    (site : NameSite) :
    (NameRead.mk site (array ++ behind)).bytes ≤ nameBufferSize ↔ 0#8 ∈ array := by
  rw [NameRead.bytes, NameRead.text, Nat.succ_le_iff, ← hlen, length_cString_append_lt_iff]

/-- A read of a name that ends stays inside. -/
theorem bytes_le_of_nameEnds {memory : List (BitVec 8)} (h : NameEnds memory) (site : NameSite) :
    (NameRead.mk site memory).bytes ≤ nameBufferSize := by
  rw [NameRead.bytes, NameRead.text, Nat.succ_le_iff, ← List.take_append_drop nameBufferSize memory]
  exact (length_cString_append_lt_iff.mpr h).trans_le (List.length_take_le _ _)

/-! ### Requests with a name -/

/-- A request with a name, in one of the two forms. -/
inductive NamedRequest where
  /-- A descriptor, encoded by the mapper. -/
  | encoded (info : BufferDescriptorInfo)
  /-- A record. -/
  | record (info : AidlDescriptorInfo)

namespace NamedRequest

/-- **The name has an end**, which a record must have by itself. -/
def Ends : NamedRequest → Prop
  | .encoded _ => True
  | .record info => NameEnds info.name

/-- The name that is kept: the client's, up to its first zero, and up to 127 characters for
one that is encoded. -/
def keptName : NamedRequest → List (BitVec 8)
  | .encoded info => (cString info.name).take maxNameLength
  | .record info => cString (info.name.take nameBufferSize)

/-- **The reads of an allocation**; `behind` is what lies in memory behind the descriptor's
array. -/
def reads (d : BufferDescriptor) (behind : List (BitVec 8)) : NamedRequest → List NameRead
  | .encoded info =>
    match decodeBufferDescriptor (encodeBufferDescriptor info) d with
    | none => []
    | some r => descriptorReads (r.name ++ behind)
  | .record info => ⟨.debugLog, info.name⟩ :: descriptorReads (Aidl.copyName info behind)

/-- **The request is allocated**, by the memory from the name on. -/
def Allocates (svc : AidlService) (d : BufferDescriptor) (behind : List (BitVec 8))
    (es : List Attempt) (bs : List AllocatedBuffer) : NamedRequest → Prop
  | .encoded info =>
    ∃ r, decodeBufferDescriptor (encodeBufferDescriptor info) d = some r ∧
      Aidl.allocateCommon svc.platform svc.flags (r.name ++ behind) es r.descriptor = .ok (.ok bs)
  | .record info =>
    ∃ cache cache', Aidl.allocate2 svc cache info behind es = .ok (.ok bs, cache')

end NamedRequest

section

variable {svc : AidlService} {d : BufferDescriptor} {behind : List (BitVec 8)}
  {es : List Attempt} {bs : List AllocatedBuffer}

theorem nameEnds_of_length_le {name : List (BitVec 8)} (hlen : name.length ≤ nameBufferSize)
    (h : 0#8 ∈ name) : NameEnds name := by
  rwa [NameEnds, List.take_of_length_le hlen]

/-- **A name that was decoded ends**, whatever it was decoded from. -/
theorem ends_popDescriptorString (bytes : List (BitVec 8)) (pos : ℕ) :
    NameEnds (popDescriptorString bytes pos) := by
  refine nameEnds_of_length_le ?_ (List.mem_append_right _ (List.mem_singleton_self _))
  rw [popDescriptorString, List.length_append, List.length_take, List.length_singleton]
  exact Nat.succ_le_succ (Nat.min_le_left _ _)

/-- What lies behind a name that ends does not change that it does. -/
theorem NameEnds.append {name : List (BitVec 8)} (h : NameEnds name) (behind : List (BitVec 8)) :
    NameEnds (name ++ behind) :=
  ((List.prefix_append name behind).take nameBufferSize).subset h

/-- A name that ends fits. -/
theorem NameEnds.getName {r : BufferDescriptor} {name : List (BitVec 8)} (h : NameEnds name) :
    (initSharedMetadata r name).getName = cString name := by
  have hle : (cString name).length + 1 ≤ nameBufferSize := bytes_le_of_nameEnds h .sharedMetadata
  have hsize : nameBufferSize ≤ nameSize := by decide
  exact getName_initSharedMetadata_of_le (by omega)

/-- Batches see no more of a name than its string, by induction on the batch. -/
theorem allocateBuffers_congr_name {p : Platform} {name name' : List (BitVec 8)}
    (h : cString name = cString name') (es : List Attempt) (stride : ℤ) (d : BufferDescriptor) :
    allocateBuffers p name es stride d = allocateBuffers p name' es stride d := by
  induction es generalizing stride d with
  | nil => rfl
  | cons e es ih =>
    simp only [allocateBuffers, initSharedMetadata, h, ih]

theorem allocateCommon_congr_name {p : Platform} {flags : DescriptorFlags}
    {name name' : List (BitVec 8)} (h : cString name = cString name') (es : List Attempt)
    (d : BufferDescriptor) :
    Aidl.allocateCommon p flags name es d = Aidl.allocateCommon p flags name' es d := by
  rw [Aidl.allocateCommon, Aidl.allocateCommon, allocateBuffers_congr_name h]

/-- **The allocation of a descriptor** is that of the services, which the memory behind its name
does not change. -/
theorem allocates_encoded_iff {info : BufferDescriptorInfo} :
    (NamedRequest.encoded info).Allocates svc d behind es bs ↔
      Hidl.allocate svc.platform svc.flags d (encodeBufferDescriptor info) es = .ok (.ok bs) := by
  have hdecode := decodeBufferDescriptor_encodeBufferDescriptor info d
  have hname : cString (pushDescriptorString info.name ++ behind) =
      cString (pushDescriptorString info.name) :=
    cString_append_of_mem (List.mem_append_right _ (List.mem_singleton_self _)) behind
  simp only [← Aidl.allocate_eq, Aidl.allocate, NamedRequest.Allocates, hdecode,
    Option.some.injEq, exists_eq_left', allocateCommon_congr_name hname]

/-- The name of an imported handle. -/
theorem getMetadata_name {hnd : MetadataHandle} {m : SharedMetadata} (ha : hnd.attr = some m)
    (stablec : Bool) :
    getMetadata hnd stablec (.standard .name) = .ok (.ok (.string m.getName)) := by
  simp only [getMetadata, getStandardMetadata, fromAttr, ha]

/-- **Names are kept inside their array**: for a descriptor that was encoded, and for a record
whose name has an end, every read of the name stays within 128 bytes, and the buffers have the
name of the client. -/
theorem nameKept (q : NamedRequest) (h : q.Ends) :
    (∀ r ∈ q.reads d behind, r.bytes ≤ nameBufferSize) ∧
      (q.Allocates svc d behind es bs → ∀ b ∈ bs, ∀ hnd : MetadataHandle, ∀ stablec,
        hnd.attr = some b.metadata →
          getMetadata hnd stablec (.standard .name) = .ok (.ok (.string q.keptName))) := by
  cases q with
  | encoded info =>
    have hdecode := decodeBufferDescriptor_encodeBufferDescriptor info d
    have hends : NameEnds (pushDescriptorString info.name) :=
      nameEnds_of_length_le (length_pushDescriptorString info.name).le
        (List.mem_append_right _ (List.mem_singleton_self _))
    constructor
    · intro r hr
      simp only [NamedRequest.reads, hdecode, descriptorReads, List.mem_cons, List.not_mem_nil,
        or_false] at hr
      rcases hr with rfl | rfl | rfl <;> exact bytes_le_of_nameEnds (hends.append behind) _
    · intro hrun b hb hnd stablec ha
      rw [allocates_encoded_iff, ← Aidl.allocate_eq] at hrun
      obtain ⟨r, d', hr, hbatch⟩ := Aidl.of_allocate hrun
      rw [hdecode, Option.some.injEq] at hr
      obtain ⟨-, -, d₀, d₁, -, -, hmeta⟩ := exists_of_mem_allocateBuffers hbatch b hb
      rw [getMetadata_name ha, hmeta, ← hr, hends.getName, cString_pushDescriptorString]
      rfl
  | record info =>
    have hcopy : NameEnds (Aidl.copyName info behind) := by
      refine NameEnds.append (nameEnds_of_length_le (List.length_take_le _ _) h) behind
    constructor
    · intro r hr
      simp only [NamedRequest.reads, descriptorReads, List.mem_cons, List.not_mem_nil,
        or_false] at hr
      rcases hr with rfl | rfl | rfl | rfl
      · exact bytes_le_of_nameEnds h _
      all_goals exact bytes_le_of_nameEnds hcopy _
    · rintro ⟨cache, cache', hrun⟩ b hb hnd stablec ha
      obtain ⟨d', hbatch⟩ := Aidl.of_allocate2 hrun
      obtain ⟨-, -, d₀, d₁, -, -, hmeta⟩ := exists_of_mem_allocateBuffers hbatch b hb
      have hcut : cString (Aidl.copyName info behind) =
          cString (info.name.take nameBufferSize) := cString_append_of_mem h behind
      rw [getMetadata_name ha, hmeta, hcopy.getName, hcut]
      rfl

end

/-! ### A name of 128 characters -/

/-- The letter a, 128 times. -/
def longName : List (BitVec 8) := List.replicate 128 97#8

/-- 16 × 16 pixels of RGBA_8888 for the GPU, with a name. -/
def namedInfo (name : List (BitVec 8)) : BufferDescriptorInfo :=
  ⟨name, 16#32, 16#32, 1#32, 1#32, 0x300#64, 0#64⟩

def namedRecord (name : List (BitVec 8)) : AidlDescriptorInfo :=
  ⟨name, 16#32, 16#32, 1#32, 1#32, 0x300#64, []⟩

/-- **A name of 128 characters** is cut off when it is encoded, and has no end in a record: the
comparison with the name of the log reads 129 bytes, or more. -/
theorem not_nameKept_long :
    (Hidl.allocate .plain 0#32 (Hidl.uninitialised ⟨0#32, 0#32, 0#32, 0#32, 0#32, 0#32⟩ 0)
        (encodeBufferDescriptor (namedInfo longName)) [.ofNode noDecoder]).map
          (fun r => r.map (List.map fun b => b.metadata.getName)) =
        .ok (.ok [List.replicate 127 97#8]) ∧
      cString longName = longName ∧
      ¬∀ r ∈ (NamedRequest.record (namedRecord longName)).reads slotSquare [],
        r.bytes ≤ nameBufferSize := by
  refine ⟨by decide +kernel, by decide +kernel, ?_⟩
  intro h
  have hread : (NameRead.mk .debugLog (longName ++ [])).bytes ≤ nameBufferSize := by
    rw [List.append_nil]
    exact h _ List.mem_cons_self
  exact absurd ((bytes_le_iff List.length_replicate .debugLog).mp hread) (by decide +kernel)

/-- A short name. -/
def shortName : List (BitVec 8) := [117#8, 105#8] ++ List.replicate 126 0#8

/-- A record with a short name, and the buffer that it is given. -/
theorem nameKept_short :
    (∀ r ∈ (NamedRequest.record (namedRecord shortName)).reads slotSquare [1#8],
        r.bytes ≤ nameBufferSize) ∧
      ∃ b : AllocatedBuffer, ∀ hnd : MetadataHandle, ∀ stablec, hnd.attr = some b.metadata →
        getMetadata hnd stablec (.standard .name) = .ok (.ok (.string [117#8, 105#8])) := by
  have hrun : (Aidl.allocate2 codecOnly none (namedRecord shortName) [1#8]
      [.ofNode noDecoder]).map (fun r => r.1.map List.length) = .ok (.ok 1) := by
    decide +kernel
  obtain ⟨⟨r, cache⟩, hrun, hr⟩ := map_eq_ok.mp hrun
  have hends : (NamedRequest.record (namedRecord shortName)).Ends := by
    change 0#8 ∈ (namedRecord shortName).name.take nameBufferSize
    decide
  rcases r with err | _ | ⟨b, bs⟩
  · cases hr
  · cases hr
  · have hkept : (NamedRequest.record (namedRecord shortName)).keptName = [117#8, 105#8] := by
      decide
    obtain ⟨hreads, hbuffers⟩ :=
      @nameKept codecOnly slotSquare [1#8] [.ofNode noDecoder] (b :: bs) _ hends
    exact ⟨hreads, b, hkept ▸ hbuffers ⟨none, cache, hrun⟩ b List.mem_cons_self⟩

end Gralloc
