import Gralloc.Heap.Batch
import Gralloc.Mapper.Lock

/-!
# The region behind the metadata

The memory of the shared metadata is a file of its own. A client may have some more of it
for itself, the reserved region, which lies behind the metadata and is as large as the
client asked for (`Gralloc.allocateAttr`). The size of the file is the sum of two sizes, in
64 bits; the file is made with the sum as a signed number, mapped with the sum as an
unsigned one, and mapped again by everyone who imports the buffer. The processes are of 64 bits
(the build makes others, too): there `size_t` and `off_t` are as wide as the sum.

Nobody looks at the carry. Where there is none, all is well: a sum that is negative as a
signed number makes an empty file, which cannot be mapped at that length. Where there is one
the file is small, mapping it works, and neither the metadata nor the reserved region is
inside (`Gralloc.attrFits_iff`).
-/

namespace Gralloc

open CInt Mapper

/-! ### The file -/

/-- The size of the shared metadata in memory. -/
def sharedMetadataSize : ℕ := 6496

/-- The kernel, as far as the file is concerned: whether a call succeeds. -/
structure AttrKernel where
  memfdCreate : Bool
  ftruncate : ℕ → Bool
  addSeals : Bool
  /-- Mapping a number of bytes. -/
  mmap : ℕ → Bool
  /-- No address space has room for so many. -/
  mmap_lt : ∀ n, mmap n = true → n < 2 ^ 63

/-- The file behind the metadata, and what the handle says of it. -/
structure AttrRegion where
  reservedRegionSize : BitVec 64
  attrSize : BitVec 64
  /-- The length of the file. -/
  fileSize : ℕ
  deriving DecidableEq, Repr

section

variable (k : AttrKernel)

/-- A file of some size, sealed: its length. -/
def grallocSharedMemoryAllocate (size : ℤ) : Option ℕ :=
  if !k.memfdCreate then none
  else if 0 < size ∧ k.ftruncate size.toNat = false then none
  else if !k.addSeals then none
  else some size.toNat

/-- **The file of a buffer**, mapped once to write the metadata. -/
def allocateAttr (reserved : BitVec 64) : Except AllocError AttrRegion :=
  let attrSize := BitVec.ofNat 64 sharedMetadataSize + reserved
  match grallocSharedMemoryAllocate k attrSize.toInt with
  | none => .error .badValue
  | some fileSize =>
    if k.mmap attrSize.toNat then .ok ⟨reserved, attrSize, fileSize⟩ else .error .noMemory

/-- Surroundings of a buffer, with its file. -/
def Attempt.withAttr (e : Attempt) (reserved : BitVec 64) : Attempt :=
  { e with
    sharedMemory :=
      match allocateAttr k reserved with
      | .ok _ => .mapped
      | .error .badValue => .noFd
      | .error .noMemory => .noMapping }

end

/-- The buffers of a batch, each with a kernel for its file. -/
def allocateWithAttr (p : Platform) (es : List (Attempt × AttrKernel)) (reserved : BitVec 64)
    (d : BufferDescriptor) : Run (BufferDescriptor × Except AllocError (List DmaBuf)) :=
  allocate p (es.map fun x => x.1.withAttr x.2 reserved) d

/-- **The reserved region** of a handle that was imported, or was not: where it starts in the
mapping, and its size. -/
def getReservedRegion (imported : Bool) (r : AttrRegion) : Except MapperError (ℕ × ℕ) :=
  if !imported then .error .badBuffer
  else if r.reservedRegionSize = 0#64 then .error .badBuffer
  else .ok (sharedMetadataSize, r.reservedRegionSize.toNat)

/-! ### What fits -/

/-- **The file is large enough**: its size is the sum, which is no negative number; the metadata
lies in the mapping, whose length is the size; and so does what is reported of the reserved
region. -/
structure AttrFits (reserved : BitVec 64) (r : AttrRegion) : Prop where
  size_eq : r.attrSize.toNat = sharedMetadataSize + reserved.toNat
  nonneg : r.attrSize.toInt = r.attrSize.toNat
  file_eq : r.fileSize = r.attrSize.toNat
  metadata_le : sharedMetadataSize ≤ r.attrSize.toNat
  reserved_le : ∀ start size, getReservedRegion true r = .ok (start, size) →
    start + size ≤ r.attrSize.toNat

section

variable {k : AttrKernel} {reserved : BitVec 64} {r : AttrRegion}

/-- **The ways to a file.** -/
theorem of_allocateAttr (h : allocateAttr k reserved = .ok r) :
    r.reservedRegionSize = reserved ∧
      r.attrSize = BitVec.ofNat 64 sharedMetadataSize + reserved ∧
      r.fileSize = r.attrSize.toInt.toNat ∧ r.attrSize.toNat < 2 ^ 63 := by
  rw [allocateAttr] at h
  cases hf : grallocSharedMemoryAllocate k
    (BitVec.ofNat 64 sharedMetadataSize + reserved).toInt with
  | none =>
    rw [hf] at h
    cases h
  | some fileSize =>
    simp only [hf] at h
    split_ifs at h with hm
    cases h
    refine ⟨rfl, rfl, ?_, k.mmap_lt _ hm⟩
    rw [grallocSharedMemoryAllocate] at hf
    split_ifs at hf
    exact (Option.some_inj.mp hf).symm

/-- **The file is large enough** exactly when the sum has no carry. -/
theorem attrFits_of_allocateAttr_iff (h : allocateAttr k reserved = .ok r) :
    AttrFits reserved r ↔ sharedMetadataSize + reserved.toNat < 2 ^ 64 := by
  obtain ⟨hreserved, hattr, hfile, hlt⟩ := of_allocateAttr h
  have hnonneg : r.attrSize.toInt = r.attrSize.toNat := by
    rw [BitVec.toInt_eq_toNat_of_lt (by omega)]
  constructor
  · intro hfits
    have hsize := hfits.size_eq
    have := r.attrSize.isLt
    omega
  · intro hsum
    have hsize : r.attrSize.toNat = sharedMetadataSize + reserved.toNat := by
      have hlt : sharedMetadataSize < 2 ^ 64 := by decide
      rw [hattr, BitVec.toNat_add, BitVec.toNat_ofNat, Nat.mod_eq_of_lt hlt, Nat.mod_eq_of_lt hsum]
    refine ⟨hsize, hnonneg, ?_, by omega, ?_⟩
    · rw [hfile, hnonneg, Int.toNat_natCast]
    · intro start size hget
      rw [getReservedRegion, Bool.not_true, if_neg Bool.false_ne_true] at hget
      split_ifs at hget
      cases hget
      rw [hreserved, hsize]

end

/-! ### Batches -/

section

variable {p : Platform} {d d' : BufferDescriptor} {bs : List DmaBuf} {reserved : BitVec 64}

/-- The files of a batch that was allocated are mapped, by induction on the batch. -/
theorem sharedMemory_of_allocateLoop {es : List Attempt} {stride : ℤ}
    (h : allocateLoop p es stride d = .ok (d', .ok bs)) : ∀ e ∈ es, e.sharedMemory = .mapped := by
  induction es generalizing stride d bs with
  | nil => exact fun e he => absurd he List.not_mem_nil
  | cons e es ih =>
    obtain ⟨d₁, b, stride', bs', hone, hrest, rfl⟩ := of_allocateLoop_cons h
    rintro e' he'
    rcases List.mem_cons.mp he' with rfl | he'
    · obtain ⟨⟨d₃, buf⟩, -, hone⟩ := bind_eq_ok.mp hone
      rcases buf with _ | b
      · cases hone
      · cases hm : e'.sharedMemory <;> simp only [hm] at hone <;> first | rfl | cases hone
    · exact ih hrest e' he'

/-- **The file of every buffer of a batch** is large enough exactly when the size that the
client asked for and that of the metadata are less than 2^64 together. -/
theorem attrFits_iff {es : List (Attempt × AttrKernel)}
    (h : allocateWithAttr p es reserved d = .ok (d', .ok bs)) :
    ∀ x ∈ es, ∃ r, allocateAttr x.2 reserved = .ok r ∧
      (AttrFits reserved r ↔ sharedMetadataSize + reserved.toNat < 2 ^ 64) := by
  rintro x hx
  have hmapped := sharedMemory_of_allocateLoop h _ (List.mem_map_of_mem hx)
  cases hr : allocateAttr x.2 reserved with
  | ok r => exact ⟨r, rfl, attrFits_of_allocateAttr_iff hr⟩
  | error err =>
    rw [Attempt.withAttr, hr] at hmapped
    cases err <;> cases hmapped

end

/-! ### One byte less than nothing -/

/-- A kernel that makes files, and maps less than half of the address space. -/
def AttrKernel.lowHalf : AttrKernel where
  memfdCreate := true
  ftruncate _ := true
  addSeals := true
  mmap n := decide (0 < n ∧ n < 2 ^ 63)
  mmap_lt _ h := (of_decide_eq_true h).2

/-- The reserved region is to be as large as a word can say; the file is one byte smaller than
the metadata. -/
theorem not_attrFits_max :
    (allocateWithAttr .plain [(.ofNode noDecoder, .lowHalf)] 0xffffffffffffffff#64 slotSquare).map
        (fun r => r.2.isOk) = .ok true ∧
      allocateAttr .lowHalf 0xffffffffffffffff#64 =
        .ok ⟨0xffffffffffffffff#64, 6495#64, 6495⟩ ∧
      getReservedRegion true ⟨0xffffffffffffffff#64, 6495#64, 6495⟩ = .ok (6496, 2 ^ 64 - 1) ∧
      ¬AttrFits 0xffffffffffffffff#64 ⟨0xffffffffffffffff#64, 6495#64, 6495⟩ := by
  refine ⟨by decide +kernel, by decide +kernel, by decide +kernel, fun h => ?_⟩
  exact absurd h.metadata_le (by decide)

/-- The files of one buffer, with a page of its own for the client. -/
theorem attrFits_page :
    ∃ r, allocateAttr .lowHalf 4096#64 = .ok r ∧
      (AttrFits 4096#64 r ↔ sharedMetadataSize + (4096#64).toNat < 2 ^ 64) := by
  have hok : (allocateWithAttr .plain [(.ofNode noDecoder, .lowHalf)] 4096#64 slotSquare).map
      (fun r => r.2.isOk) = .ok true := by decide +kernel
  obtain ⟨⟨d', bs | bs⟩, h, hbs⟩ := map_eq_ok.mp hok
  · cases hbs
  · exact attrFits_iff h _ List.mem_cons_self

end Gralloc
