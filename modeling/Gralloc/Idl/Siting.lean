import Gralloc.Hidl.Agreement
import Gralloc.Idl.Entry

/-!
# The chroma siting of a buffer, set and read back

A chroma siting is a number under the name of an enumeration. There are two of these, the
framework's and that of the vendor, who has added two numbers of its own. A set looks at the
name, and stores the number without it; a get finds the name from the number. So a client
that sets a siting gets the same one exactly when the name is the vendor's for the vendor's
two numbers, and the framework's for all the others (`Gralloc.sitingKept_iff`).

The sitings that the allocator writes are all so named, and come back as they were chosen,
from every import of every buffer of every batch (`Gralloc.siting_of_allocateBuffers`).
-/

namespace Gralloc

open CInt Mapper Hidl

/-! ### A set, and the next get -/

/-- An imported handle, after a siting was set through it. -/
def afterSetSiting (hnd : MetadataHandle) (c : ExtendableType) : MetadataHandle :=
  { hnd with
    attr := hnd.attr.map fun m => (setMetadata hnd.toPrivateHandle m (.chromaSiting c)).2 }

/-- **A siting is accepted** on an imported handle. -/
def SitingAccepted (hnd : MetadataHandle) (c : ExtendableType) : Prop :=
  ∃ m, hnd.attr = some m ∧ (setMetadata hnd.toPrivateHandle m (.chromaSiting c)).1 = .ok ()

/-- The siting that a handle is said to have. -/
def getSiting (hnd : MetadataHandle) (stablec : Bool) : Run (Except MapperError MetadataValue) :=
  getMetadata hnd stablec (.standard .chromaSiting)

/-- The name under which a number is given back. -/
def sitingName (v : BitVec 64) : String :=
  if SharedMetadata.chromaSitingIsArmValue v then armChromaSiting else standardChromaSiting

section

variable {hnd : MetadataHandle} {m : SharedMetadata} {c : ExtendableType} {f : FormatInfo}

theorem armChromaSiting_ne_standard : armChromaSiting ≠ standardChromaSiting := by decide

/-- A get reads the number that is stored, and names it. -/
theorem getSiting_of_stored (ha : hnd.attr = some m) (hf : hnd.allocFormat.getBaseInfo = some f)
    {s : ExtendableType} (hs : m.getChromaSiting = some s) (stablec : Bool) :
    getSiting hnd stablec = .ok (.ok (.extendable s)) := by
  rw [getSiting, getMetadata, getStandardMetadata, ha, hf]
  dsimp only
  rw [hs, Option.getD_some]

/-- What a set accepts: one of the two names, on a format with properties. -/
theorem of_sitingAccepted (h : SitingAccepted hnd c) :
    ∃ m f, hnd.attr = some m ∧ hnd.allocFormat.getBaseInfo = some f ∧
      (c.name = standardChromaSiting ∨ c.name = armChromaSiting) ∧
      (afterSetSiting hnd c).attr = some (m.setChromaSiting c) := by
  rcases h with ⟨m, ha, hset⟩
  by_cases hc : hnd.allocFormat.getBaseInfo.isSome ∧
      (c.name = standardChromaSiting ∨ c.name = armChromaSiting)
  · obtain ⟨f, hf⟩ := Option.isSome_iff_exists.mp hc.1
    refine ⟨m, f, ha, hf, hc.2, ?_⟩
    rw [afterSetSiting, ha, Option.map_some, setMetadata, if_pos hc]
  · rw [setMetadata, if_neg hc] at hset
    cases hset

/-- **After a set that was accepted** a get finds the number, under the name that it has. -/
theorem getSiting_afterSetSiting (h : SitingAccepted hnd c) (stablec : Bool) :
    getSiting (afterSetSiting hnd c) stablec =
      .ok (.ok (.extendable ⟨sitingName c.value, c.value⟩)) := by
  obtain ⟨m, f, -, hf, -, hattr⟩ := of_sitingAccepted h
  exact getSiting_of_stored hattr hf rfl stablec

/-- One of the two names is that of the number exactly when it is the vendor's for the
vendor's numbers. -/
theorem sitingName_eq_iff (h : c.name = standardChromaSiting ∨ c.name = armChromaSiting) :
    sitingName c.value = c.name ↔
      (c.name = armChromaSiting ↔ SharedMetadata.chromaSitingIsArmValue c.value = true) := by
  rw [sitingName]
  rcases h with h | h
  · rw [h]
    split_ifs with hv
    · simp [armChromaSiting_ne_standard, armChromaSiting_ne_standard.symm, hv]
    · simp [armChromaSiting_ne_standard.symm, hv]
  · rw [h]
    split_ifs with hv
    · simp [hv]
    · simp [armChromaSiting_ne_standard.symm, hv]

end

/-! ### What the allocator writes -/

section

variable {p : Platform} {d d' : BufferDescriptor}

/-- The descriptor that a buffer was described with has its format. -/
theorem makePrivateHandle_of_bufferAllocate {e : Attempt} {b : DmaBuf}
    (h : DmaBuf.bufferAllocate p e d = .ok (d', some b)) :
    makePrivateHandle d' = some b.handle.toPrivateHandle := by
  obtain ⟨⟨st, r⟩, -, h⟩ := bind_eq_ok.mp h
  cases st with
  | einval => cases h
  | success =>
    obtain ⟨d'', -, h⟩ := bind_eq_ok.mp h
    obtain ⟨o, ho, h⟩ := bind_eq_ok.mp h
    obtain ⟨rfl, hb⟩ := Prod.mk.inj (Except.ok.inj h)
    obtain ⟨got, -, hdesc⟩ := DmaBuf.obtained_of_allocatorAllocate ho hb
    exact (DmaBuf.of_describeMemory hdesc).1

/-- **A siting that the allocator writes comes back**, from every import of every buffer. -/
theorem siting_of_allocateBuffers {name : List (BitVec 8)} {es : List Attempt} {stride : ℤ}
    {bs : List AllocatedBuffer} {b : AllocatedBuffer} {hnd : MetadataHandle}
    (h : allocateBuffers p name es stride d = .ok (d', .ok bs)) (hb : b ∈ bs)
    (himport : IsImport hnd b) (stablec : Bool) :
    getSiting hnd stablec =
      .ok (.ok (.extendable (getFormatChromaSiting hnd.allocFormat d.usage))) := by
  obtain ⟨e, -, d₀, d₁, hfresh, hbuf, hmeta⟩ := exists_of_mem_allocateBuffers h b hb
  obtain ⟨f, hf, hhandle⟩ :=
    Option.map_eq_some_iff.mp (makePrivateHandle_of_bufferAllocate hbuf)
  have hformat : hnd.allocFormat = d₁.allocFormat := by
    rw [himport.handle, ← hhandle]
  have husage : d₁.usage = d.usage := by
    have hfresh₁ : d₁.fresh = d₀.fresh := DmaBuf.fresh_of_bufferAllocate hbuf
    have hu := congrArg BufferDescriptor.usage (hfresh₁.trans hfresh)
    exact hu
  refine getSiting_of_stored himport.attr (hformat ▸ hf) ?_ stablec
  rw [hmeta, initSharedMetadata, husage, ← hformat]
  exact getChromaSiting_init _ _ _ _

end

/-! ### The round trip -/

/-- **A siting is kept**: the next get returns the one that was set, and those that the
allocator chose are returned as they were chosen. -/
structure SitingKept (hnd : MetadataHandle) (c : ExtendableType) : Prop where
  set_get : ∀ stablec, getSiting (afterSetSiting hnd c) stablec = .ok (.ok (.extendable c))
  written_get : ∀ p name es stride d d' bs,
    allocateBuffers p name es stride d = .ok (d', .ok bs) → ∀ b ∈ bs, ∀ hnd', IsImport hnd' b →
      ∀ stablec, getSiting hnd' stablec =
        .ok (.ok (.extendable (getFormatChromaSiting hnd'.allocFormat d.usage)))

/-- **A siting that is accepted is kept** exactly when the vendor's name comes with one of the
vendor's numbers, and the framework's name with another. -/
theorem sitingKept_iff {hnd : MetadataHandle} {c : ExtendableType} (h : SitingAccepted hnd c) :
    SitingKept hnd c ↔
      (c.name = armChromaSiting ↔ SharedMetadata.chromaSitingIsArmValue c.value = true) := by
  obtain ⟨-, -, -, -, hname, -⟩ := of_sitingAccepted h
  rw [← sitingName_eq_iff hname]
  constructor
  · intro hk
    have hget := (getSiting_afterSetSiting h false).symm.trans (hk.set_get false)
    exact congrArg ExtendableType.name
      (MetadataValue.extendable.inj (Except.ok.inj (Except.ok.inj hget)))
  · intro hn
    refine ⟨fun stablec => ?_, ?_⟩
    · rw [getSiting_afterSetSiting h, hn]
    · intro p name es stride d d' bs halloc b hb hnd' himport stablec
      exact siting_of_allocateBuffers halloc hb himport stablec

/-- The framework's number 3, on a buffer of NV21. -/
theorem sitingKept_iff_nv21 :
    SitingKept (imported nv21Buffer) chromaSitingCositedHorizontal ↔
      (standardChromaSiting = armChromaSiting ↔
        SharedMetadata.chromaSitingIsArmValue 3#64 = true) :=
  sitingKept_iff ⟨nv21Buffer.metadata, rfl, by decide⟩

/-- The number 256 is set under the framework's name, and comes back under the vendor's. -/
theorem not_sitingKept_nv21 :
    SitingAccepted (imported nv21Buffer) ⟨standardChromaSiting, 256#64⟩ ∧
      ¬SitingKept (imported nv21Buffer) ⟨standardChromaSiting, 256#64⟩ := by
  refine ⟨⟨nv21Buffer.metadata, rfl, by decide⟩, ?_⟩
  intro h
  have hget : getSiting (afterSetSiting (imported nv21Buffer) ⟨standardChromaSiting, 256#64⟩)
      false = .ok (.ok (.extendable chromaSitingCositedVertical)) := by decide
  have hname := hget.symm.trans (h.set_get false)
  revert hname
  decide

end Gralloc
