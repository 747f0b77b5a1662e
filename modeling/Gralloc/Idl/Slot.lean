import Gralloc.Heap.Alike
import Gralloc.Idl.Allocate

/-!
# The slots of a decoder

A decoder that wants its parameters read from a slot puts the number of the slot into the
usage (`Gralloc.Usage.compSlotId`), in five bits of which three mean something else as well:
bit 15 is a cursor and a one-sixteenth buffer, bit 23 a sensor and a full-size buffer, bit 30
a quarter-size buffer and an AFRC coding size. The number can be read back, but requests for
slots that hold the same parameters need not be treated alike.

They are when the usages are read alike (`Gralloc.Usage.ReadAlike`), and three requests and
one mapping tell all the others apart. So two slots are interchangeable in every request
exactly when their numbers agree in bits 1 and 2, and in bit 0 too unless the other two are
set (`Gralloc.slotsTransparent_iff`).
-/

namespace Gralloc

open CInt

/-! ### Mapping -/

namespace Mapper

/-- Unmapping: how many bytes, if any, and the handle that is left. -/
def allocatorUnmap (pageSize : ℤ) (hnd : ImportedHandle) : Option ℤ × ImportedHandle :=
  if !hnd.needMmap then (none, hnd)
  else if hnd.ionDelayAlloc ≠ 0#32 || hnd.usage.isVideoDecoderQuarter ||
      hnd.usage.isVideoDecoderOneSixteenth then (none, hnd)
  else
    (some (if hnd.usage.isVideoDecoderReplace then pageSize else hnd.size),
      { hnd with base := none, cpuWrite := false, lockCount := 0 })

/-- The same handle, of a buffer of another usage. -/
def ImportedHandle.withUsage (hnd : ImportedHandle) (u : Usage) : ImportedHandle :=
  { hnd with consumerUsage := u, producerUsage := u }

@[simp] theorem ImportedHandle.usage_withUsage (hnd : ImportedHandle) (u : Usage) :
    (hnd.withUsage u).usage = u := BitVec.or_self

section

variable {hnd : ImportedHandle} {u : Usage} (h : Usage.ReadAlike hnd.usage (hnd.withUsage u).usage)

include h

/-- What is not mapped: a one-sixteenth buffer counts where it is no quarter-size one. -/
theorem quarter_or_oneSixteenth_withUsage :
    ((hnd.withUsage u).usage.isVideoDecoderQuarter ||
        (hnd.withUsage u).usage.isVideoDecoderOneSixteenth) =
      (hnd.usage.isVideoDecoderQuarter || hnd.usage.isVideoDecoderOneSixteenth) := by
  rcases h.isVideoDecoderOneSixteenth_cases with h16 | ⟨-, hq⟩
  · rw [h16, h.isVideoDecoderQuarter_eq]
  · rw [h.isVideoDecoderQuarter_eq, hq, Bool.true_or, Bool.true_or]

theorem maliMapBuffer_withUsage (k : Kernel) :
    maliMapBuffer k (hnd.withUsage u) =
      (maliMapBuffer k hnd).map fun hnd' => hnd'.withUsage u := by
  have hmap (size : ℤ) : mapBytes k (hnd.withUsage u) size =
      (mapBytes k hnd size).map fun hnd' => hnd'.withUsage u := by
    unfold mapBytes
    cases k.mmap size <;> rfl
  have halloc : allocatorMap k (hnd.withUsage u) =
      (allocatorMap k hnd).map fun hnd' => hnd'.withUsage u := by
    rw [allocatorMap, allocatorMap, quarter_or_oneSixteenth_withUsage h, hmap,
      ← h.isVideoDecoderReplace_eq]
    show (if hnd.ionDelayAlloc ≠ 0#32 then _ else if !hnd.needMmap then _ else _) = _
    split_ifs <;> rfl
  rw [maliMapBuffer, maliMapBuffer, halloc]
  show (if hnd.base.isNone then _ else _) = _
  split <;> rfl

theorem allocatorUnmap_withUsage (pageSize : ℤ) :
    allocatorUnmap pageSize (hnd.withUsage u) =
      ((allocatorUnmap pageSize hnd).1, (allocatorUnmap pageSize hnd).2.withUsage u) := by
  rw [allocatorUnmap, allocatorUnmap, Bool.or_assoc, Bool.or_assoc,
    quarter_or_oneSixteenth_withUsage h, ← h.isVideoDecoderReplace_eq]
  show (if !hnd.needMmap then _ else if hnd.ionDelayAlloc ≠ 0#32 || _ then _ else _) = _
  split_ifs <;> rfl

end

end Mapper

/-! ### Metadata -/

/-- The dataspace and the siting are asked for with bits of their own. -/
theorem initSharedMetadata_withUsage {d : BufferDescriptor} {u : Usage}
    (h : Usage.ReadAlike d.usage (d.withUsage u).usage) (name : List (BitVec 8)) :
    initSharedMetadata (d.withUsage u) name = initSharedMetadata d name := by
  have hspace (f : Option FormatInfo) :
      getFormatDataspace f (d.withUsage u).usage = getFormatDataspace f d.usage := by
    unfold getFormatDataspace
    rw [h.and_mask Usage.yuvColorSpaceMask (by decide), h.and_mask Usage.rangeMask (by decide)]
  have hsiting (format : InternalFormat) :
      getFormatChromaSiting format (d.withUsage u).usage =
        getFormatChromaSiting format d.usage := by
    unfold getFormatChromaSiting yuvSiting
    rw [h.and_mask Usage.chromaSitingMask (by decide)]
  rw [initSharedMetadata, initSharedMetadata, hspace, hsiting]
  rfl

/-! ### Slots -/

/-- **Two slots that make no difference**: either number can be read back from a usage, and
where the decoder gives the same parameters for both, every request is derived, allocated,
described and mapped in the same way for the one as for the other. -/
structure SlotsTransparent (s t : ℕ) : Prop where
  decodes : ∀ u : Usage, u.has Usage.slotBits = false →
    (u ||| Usage.compSlotId s).decodeSlotId = s ∧ (u ||| Usage.compSlotId t).decodeSlotId = t
  derives : ∀ (caps : Capabilities) (node : ℕ → Option DecoderPara) (d : BufferDescriptor)
    (u : Usage), u.has Usage.slotBits = false → node s = node t →
      deriveFormatAndSize wrapping caps node (d.withUsage (u ||| Usage.compSlotId t)) =
        (deriveFormatAndSize wrapping caps node (d.withUsage (u ||| Usage.compSlotId s))).map
          fun r => (r.1, r.2.withUsage (u ||| Usage.compSlotId t))
  allocates : ∀ (p : Platform) (e : Attempt) (d : BufferDescriptor) (u : Usage),
    u.has Usage.slotBits = false → e.node s = e.node t →
      DmaBuf.bufferAllocate p e (d.withUsage (u ||| Usage.compSlotId t)) =
        (DmaBuf.bufferAllocate p e (d.withUsage (u ||| Usage.compSlotId s))).map fun r =>
          (r.1.withUsage (u ||| Usage.compSlotId t),
            r.2.map fun b => b.withUsage (u ||| Usage.compSlotId t))
  describes : ∀ (d : BufferDescriptor) (name : List (BitVec 8)) (u : Usage),
    u.has Usage.slotBits = false →
      initSharedMetadata (d.withUsage (u ||| Usage.compSlotId t)) name =
        initSharedMetadata (d.withUsage (u ||| Usage.compSlotId s)) name
  maps : ∀ (k : Mapper.Kernel) (hnd : Mapper.ImportedHandle) (u : Usage),
    u.has Usage.slotBits = false →
      Mapper.maliMapBuffer k (hnd.withUsage (u ||| Usage.compSlotId t)) =
        (Mapper.maliMapBuffer k (hnd.withUsage (u ||| Usage.compSlotId s))).map fun hnd' =>
          hnd'.withUsage (u ||| Usage.compSlotId t)
  unmaps : ∀ (pageSize : ℤ) (hnd : Mapper.ImportedHandle) (u : Usage),
    u.has Usage.slotBits = false →
      Mapper.allocatorUnmap pageSize (hnd.withUsage (u ||| Usage.compSlotId t)) =
        ((Mapper.allocatorUnmap pageSize (hnd.withUsage (u ||| Usage.compSlotId s))).1,
          (Mapper.allocatorUnmap pageSize (hnd.withUsage (u ||| Usage.compSlotId s))).2.withUsage
            (u ||| Usage.compSlotId t))

/-- Slots whose bits 1 and 2 are the same, and bit 0 as well unless the others are set. -/
def SlotsAgree (s t : ℕ) : Prop :=
  s.testBit 1 = t.testBit 1 ∧ s.testBit 2 = t.testBit 2 ∧
    (s.testBit 0 = t.testBit 0 ∨ s.testBit 1 = true ∧ s.testBit 2 = true)

instance (s t : ℕ) : Decidable (SlotsAgree s t) := inferInstanceAs (Decidable (_ ∧ _))

namespace Usage

variable {u : Usage} {s t : ℕ}

/-- **The number of a slot can be read back.** -/
theorem decodeSlotId_compSlotId (hu : u.has slotBits = false) (hs : s < 32) :
    (u ||| compSlotId s).decodeSlotId = s := by
  have hand : u &&& slotBits = 0#64 := by simpa [has] using hu
  have hbit (n : ℕ) (hn : slotBits.getLsbD n = true) :
      (u ||| compSlotId s).bitN n = (compSlotId s).bitN n := by
    have hun : u.getLsbD n = false := by
      have := congrArg (fun w : Usage => w.getLsbD n) hand
      simpa only [BitVec.getLsbD_and, hn, Bool.and_true, BitVec.getLsbD_zero] using this
    rw [bitN, bitN, BitVec.getLsbD_or, hun, Bool.false_or]
  have hcomp : ∀ s < 32, (compSlotId s).decodeSlotId = s := by decide +kernel
  rw [decodeSlotId, hbit 15 (by decide), hbit 23 (by decide), hbit 30 (by decide),
    hbit 60 (by decide), hbit 61 (by decide)]
  exact hcomp s hs

/-- The slots that agree are read alike, whatever else the usage says. -/
theorem readAlike_compSlotId (hs : s < 32) (ht : t < 32) (h : SlotsAgree s t) (u : Usage) :
    ReadAlike (u ||| compSlotId s) (u ||| compSlotId t) := by
  have hmask : ∀ s < 32, ∀ t < 32, SlotsAgree s t →
      compSlotId s &&& ~~~hiddenBits = compSlotId t &&& ~~~hiddenBits := by decide +kernel
  have hcursor : ∀ s < 32, ∀ t < 32, SlotsAgree s t →
      compSlotId s &&& cursor = compSlotId t &&& cursor ∨
        (compSlotId s).getLsbD 23 = true ∧ (compSlotId s).getLsbD 30 = true := by decide +kernel
  constructor
  · rw [BitVec.and_or_distrib_right, BitVec.and_or_distrib_right, hmask s hs t ht h]
  · rcases hcursor s hs t ht h with hc | ⟨h23, h30⟩
    · rw [BitVec.and_or_distrib_right, BitVec.and_or_distrib_right, hc]
      exact Or.inl rfl
    · rw [BitVec.getLsbD_or, BitVec.getLsbD_or, h23, h30, Bool.or_true, Bool.or_true]
      exact Or.inr ⟨rfl, rfl⟩

/-- A word with a number of a slot says so. -/
theorem has_usingSlot_compSlotId (u : Usage) (s : ℕ) :
    (u ||| compSlotId s).has usingSlot = true := by
  refine has_of_getLsbD (n := 48) ?_ (by decide)
  rw [compSlotId]
  simp only [BitVec.getLsbD_or, show usingSlot.getLsbD 48 = true by decide, Bool.or_true]

end Usage

/-- The reply to a request with a slot is that for the slot. -/
theorem decoderReply_compSlotId (node : ℕ → Option DecoderPara) (d : BufferDescriptor) {u : Usage}
    {s : ℕ} (hu : u.has Usage.slotBits = false) (hs : s < 32) :
    decoderReply node (d.withUsage (u ||| Usage.compSlotId s)) = node s := by
  rw [decoderReply, BufferDescriptor.usage_withUsage, if_pos (Usage.has_usingSlot_compSlotId u s),
    Usage.decodeSlotId_compSlotId hu hs, getParaFromNode, if_pos hs]

/-! ### Slots that agree -/

theorem slotsTransparent_of_agree {s t : ℕ} (hs : s < 32) (ht : t < 32) (h : SlotsAgree s t) :
    SlotsTransparent s t := by
  have hdescriptor (d : BufferDescriptor) (u : Usage) :
      Usage.ReadAlike (d.withUsage (u ||| Usage.compSlotId s)).usage
        ((d.withUsage (u ||| Usage.compSlotId s)).withUsage (u ||| Usage.compSlotId t)).usage := by
    rw [BufferDescriptor.usage_withUsage, BufferDescriptor.usage_withUsage]
    exact Usage.readAlike_compSlotId hs ht h u
  have hhandle (hnd : Mapper.ImportedHandle) (u : Usage) :
      Usage.ReadAlike (hnd.withUsage (u ||| Usage.compSlotId s)).usage
        ((hnd.withUsage (u ||| Usage.compSlotId s)).withUsage
          (u ||| Usage.compSlotId t)).usage := by
    rw [Mapper.ImportedHandle.usage_withUsage, Mapper.ImportedHandle.usage_withUsage]
    exact Usage.readAlike_compSlotId hs ht h u
  have hreply (node : ℕ → Option DecoderPara) (d : BufferDescriptor) (u : Usage)
      (hu : u.has Usage.slotBits = false) (hn : node s = node t) :
      decoderReply node (d.withUsage (u ||| Usage.compSlotId s)) =
        decoderReply node (d.withUsage (u ||| Usage.compSlotId t)) := by
    rw [decoderReply_compSlotId node d hu hs, decoderReply_compSlotId node d hu ht, hn]
  constructor
  · intro u hu
    exact ⟨Usage.decodeSlotId_compSlotId hu hs, Usage.decodeSlotId_compSlotId hu ht⟩
  · intro caps node d u hu hn
    exact deriveFormatAndSize_congr wrapping caps (hdescriptor d u) (hreply node d u hu hn)
  · intro p e d u hu hn
    exact DmaBuf.bufferAllocate_congr p e (hdescriptor d u) (hreply e.node d u hu hn)
  · intro d name u _
    exact initSharedMetadata_withUsage (hdescriptor d u) name
  · intro k hnd u _
    exact Mapper.maliMapBuffer_withUsage (hhandle hnd u) k
  · intro pageSize hnd u _
    exact Mapper.allocatorUnmap_withUsage (hhandle hnd u) pageSize

/-! ### Slots that do not -/

/-- A private request for RGBA_8888, of the decoder: bit 1 aligns it to 64 pixels. -/
def decoderSquare : BufferDescriptor := .request 16#32 16#32 0#64 0x8001#64 1#32

/-- A YUV request that is not to be compressed: bit 2 takes the demand back. -/
def linearYuv : BufferDescriptor := .request 16#32 16#32 0#64 0x23#64 1#32

/-- Sixteen bytes for the CPU: bits 0 and 1 are hardware to it. -/
def smallBlob : BufferDescriptor := .request 16#32 1#32 0#64 0x21#64 1#32

theorem size_decoderSquare : ∀ s < 32,
    (deriveFormatAndSize wrapping .gpuOnly noDecoder
        (decoderSquare.withUsage (Usage.decoder ||| Usage.compSlotId s))).map (fun r => r.2.size) =
      .ok (if s.testBit 1 then 16384 else 1024) := by
  decide +kernel

theorem status_linearYuv : ∀ s < 32,
    (deriveFormatAndSize wrapping .gpuOnly noDecoder
        (linearYuv.withUsage (0x20000003#64 ||| Usage.compSlotId s))).map (fun r => r.1) =
      .ok (if s.testBit 2 then .success else .einval) := by
  decide +kernel

theorem size_smallBlob : ∀ s < 32,
    (deriveFormatAndSize wrapping .gpuOnly noDecoder
        (smallBlob.withUsage (3#64 ||| Usage.compSlotId s))).map (fun r => r.2.size) =
      .ok (if s.testBit 0 || s.testBit 1 then 64 else 16) := by
  decide +kernel

/-- A buffer that is mapped. -/
def mappedBuffer : Mapper.ImportedHandle where
  size := 1024
  consumerUsage := 0#64
  producerUsage := 0#64
  reqFormat := 1
  allocFormat := .fromAndroid .rgba8888 .unorm
  width := 16
  height := 16
  layerCount := 1
  planeInfo := .zero
  stride := 16
  isMultiPlane := false
  ionDelayAlloc := 0#32
  needMmap := true
  lockCount := 0
  invalidWriteLocks := false
  cpuWrite := false
  importPid := 0
  base := some 4096

/-- Of the decoder's buffers those of a quarter and of one-sixteenth are not unmapped. -/
theorem unmap_mappedBuffer : ∀ s < 32,
    (Mapper.allocatorUnmap 4096
        (mappedBuffer.withUsage (Usage.decoder ||| Usage.compSlotId s))).1.isSome =
      !(s.testBit 0 || s.testBit 2) := by
  decide +kernel

/-- Two values that differ tell which was taken. -/
theorem eq_of_ite_eq {α : Type} {a b : α} (hne : a ≠ b) {c c' : Bool}
    (h : (if c then a else b) = if c' then a else b) : c = c' := by
  cases c <;> cases c'
  · rfl
  · exact absurd h.symm hne
  · exact absurd h hne
  · rfl

namespace SlotsTransparent

variable {s t : ℕ} (h : SlotsTransparent s t)

include h

/-- What is observed of a derivation, but its usage, is the same. -/
theorem map_derive {α : Type} (g : Status × BufferDescriptor → α)
    (hg : ∀ r u, g (r.1, r.2.withUsage u) = g r) (d : BufferDescriptor) (u : Usage)
    (hu : u.has Usage.slotBits = false) :
    (deriveFormatAndSize wrapping .gpuOnly noDecoder
        (d.withUsage (u ||| Usage.compSlotId s))).map g =
      (deriveFormatAndSize wrapping .gpuOnly noDecoder
        (d.withUsage (u ||| Usage.compSlotId t))).map g := by
  rw [h.derives .gpuOnly noDecoder d u hu rfl]
  cases deriveFormatAndSize wrapping .gpuOnly noDecoder
      (d.withUsage (u ||| Usage.compSlotId s)) with
  | error e => rfl
  | ok r => exact congrArg Except.ok (hg r _).symm

/-- **Slots that make no difference agree**: the requests above tell the others apart. -/
theorem agree (hs : s < 32) (ht : t < 32) : SlotsAgree s t := by
  have hfull : s.testBit 1 = t.testBit 1 := by
    have hm := h.map_derive (fun r => r.2.size) (fun _ _ => rfl) decoderSquare Usage.decoder
      (by decide)
    rw [size_decoderSquare s hs, size_decoderSquare t ht] at hm
    exact eq_of_ite_eq (by decide) (Except.ok.inj hm)
  have hquarter : s.testBit 2 = t.testBit 2 := by
    have hm := h.map_derive (fun r => r.1) (fun _ _ => rfl) linearYuv 0x20000003#64 (by decide)
    rw [status_linearYuv s hs, status_linearYuv t ht] at hm
    exact eq_of_ite_eq (by decide) (Except.ok.inj hm)
  refine ⟨hfull, hquarter, ?_⟩
  cases h₁ : s.testBit 1 with
  | false =>
    have hm := h.map_derive (fun r => r.2.size) (fun _ _ => rfl) smallBlob 3#64 (by decide)
    rw [size_smallBlob s hs, size_smallBlob t ht, ← hfull, h₁, Bool.or_false, Bool.or_false] at hm
    exact Or.inl (eq_of_ite_eq (by decide) (Except.ok.inj hm))
  | true =>
    cases h₂ : s.testBit 2 with
    | true => exact Or.inr ⟨rfl, rfl⟩
    | false =>
      have hm := congrArg (fun r => r.1.isSome)
        (h.unmaps 4096 mappedBuffer Usage.decoder (by decide))
      dsimp only at hm
      rw [unmap_mappedBuffer s hs, unmap_mappedBuffer t ht, ← hquarter, h₂, Bool.or_false,
        Bool.or_false] at hm
      exact Or.inl (Bool.not_inj hm).symm

end SlotsTransparent

/-- **Two slots make no difference exactly when they agree**: in the bits of a full-size and
of a quarter-size buffer, and in that of a one-sixteenth one unless both others are set. -/
theorem slotsTransparent_iff {s t : ℕ} (hs : s < 32) (ht : t < 32) :
    SlotsTransparent s t ↔ SlotsAgree s t :=
  ⟨fun h => h.agree hs ht, slotsTransparent_of_agree hs ht⟩

/-- Slots 6 and 31 make no difference. -/
theorem slotsTransparent_six : (6 < 32 ∧ 31 < 32 ∧ SlotsAgree 6 31) ∧ SlotsTransparent 6 31 :=
  ⟨by decide, (slotsTransparent_iff (by decide) (by decide)).mpr (by decide)⟩

/-- Slots 0 and 4 do: a decoder buffer of the one is mapped, and one of the other is not. -/
theorem not_slotsTransparent_zero_four : ¬SlotsTransparent 0 4 := by
  intro h
  have hm := congrArg (fun r => r.1.isSome) (h.unmaps 4096 mappedBuffer Usage.decoder (by decide))
  dsimp only at hm
  rw [unmap_mappedBuffer 0 (by decide), unmap_mappedBuffer 4 (by decide)] at hm
  exact absurd hm (by decide)

end Gralloc
