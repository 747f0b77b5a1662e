import Gralloc.Hidl.ValidateSize
import Gralloc.Sharing.Metadata

/-!
# A request, and what is read of its buffer

The mapper answers questions about a buffer before there is one. Then the request is encoded, sent
to the allocator, decoded and derived, and a handle is made, with a record of metadata; the handle
goes from process to process, is imported, locked, and asked. In the end some process asks what the
mapper had been asked before.

It gets the same answer, in every run of the processes and through every imported handle, as long
as nobody has set that type of the record, exactly when the allocation keeps what was requested
(`Gralloc.Sharing.promised_iff_of_reach`). Of each type that is something else
(`Gralloc.Hidl.KeptAt`), and of most of them nothing.
-/

namespace Gralloc

open CInt Mapper

namespace Hidl

/-! ### One type -/

/-- **What the allocation has to keep of a request**, for a type to be answered as before. -/
def KeptAt (p : Platform) (node : ℕ → Option DecoderPara) (flags : DescriptorFlags)
    (info : BufferDescriptorInfo) : StandardMetadataType → Prop
  | .name => info.name.length ≤ maxNameLength ∧ 0#8 ∉ info.name
  | .width => info.width.toNat < 2 ^ 31
  | .height => info.height.toNat < 2 ^ 31
  | .layerCount => info.layerCount.toNat < 2 ^ 31
  | .allocationSize => ∀ r, deriveFormatAndSize wrapping p.caps node (info.toDescriptor flags) =
      .ok (.success, r) → Replaced p.displays r → toInt r.size = toInt p.displays.budget
  -- the last plane ends where a layer does
  | .planeLayouts => ∀ r, deriveFormatAndSize wrapping p.caps node (info.toDescriptor flags) =
      .ok (.success, r) →
        layerSize (partialHandle r) = layerSize (partialHandle (r.final p.displays))
  | .chromaSiting => ∀ f,
      (selectFormat p.caps (info.format.signExtend 64) flags info.usage).getBaseInfo = some f →
        if f.isYuv then
          yuvSiting (selectFormat p.caps (info.format.signExtend 64) flags info.usage)
            info.usage = none
        else f.isRgb = true
  | _ => True

section

variable {ph : PrivateHandle} {f : FormatInfo}

/-- **Handles that differ in their size** have the same planes exactly when their layers have the
same size. -/
theorem describedPlaneLayouts_size_iff (hf : ph.allocFormat.getBaseInfo = some f)
    (hl : ph.layerCount ≠ 0) (size : ℤ) :
    describedPlaneLayouts ph = describedPlaneLayouts { ph with size := size } ↔
      layerSize ph = layerSize { ph with size := size } := by
  have hsized : describedPlaneLayouts { ph with size := size } = _ :=
    describedPlaneLayouts_of_layers hf hl
  rw [describedPlaneLayouts_of_layers hf hl, hsized, Except.ok.injEq, Except.ok.injEq]
  have hcomponents : planeLayoutComponents { ph with size := size } = planeLayoutComponents ph :=
    rfl
  have hplanes : PrivateHandle.getNumPlanes { ph with size := size } = ph.getNumPlanes := rfl
  rw [hcomponents, hplanes]
  have hpos : 0 < ph.getNumPlanes := by
    rcases getNumPlanes_cases ph with h | h | h <;> omega
  constructor
  · intro heq
    -- the last plane ends where a layer does
    have hlast := List.map_inj_left.mp heq _
      (List.mem_range.mpr (Nat.sub_lt hpos Nat.one_pos))
    have hsize := congrArg (fun l => l.2.totalSizeInBytes) hlast
    simp only [layoutAt, hplanes, lt_irrefl, if_false] at hsize
    omega
  · intro heq
    refine List.map_congr_left fun i _ => ?_
    simp only [layoutAt, heq]
    rfl

end

section

variable {p : Platform} {node : ℕ → Option DecoderPara} {flags : DescriptorFlags}
  {info : BufferDescriptorInfo} {r : BufferDescriptor} {hnd : MetadataHandle}
  {t : StandardMetadataType} {m : SharedMetadata}

theorem valueAgrees_planeLayouts_iff {ph : PrivateHandle} {f : FormatInfo} {size fd : ℤ}
    {id : BitVec 64} (hf : ph.allocFormat.getBaseInfo = some f) (hl : ph.layerCount ≠ 0) :
    ValueAgrees info ph (importOf ph size m fd id) .planeLayouts ↔
      layerSize ph = layerSize { ph with size := size } := by
  have hpre := describedPlaneLayouts_of_layers hf hl
  have hpost : describedPlaneLayouts { ph with size := size } = _ :=
    describedPlaneLayouts_of_layers hf hl
  rw [← describedPlaneLayouts_size_iff hf hl, hpre, hpost, Except.ok.injEq, Except.ok.injEq,
    ← MetadataValue.layouts.injEq]
  refine valueAgrees_iff_eq ?_ ?_
  · rw [standardFromDescriptor, hpre]
    rfl
  · have himport : (importOf ph size m fd id).toPrivateHandle = { ph with size := size } := rfl
    rw [getStandardMetadata, himport, hpost]
    rfl

namespace DerivedImport

variable (h : DerivedImport p node flags info r hnd)
include h

/-- **The planes of an import** are those of the request exactly when a layer has the same size. -/
theorem planeLayouts_iff (hl : info.layerCount ≠ 0#32) :
    ValueAgrees info (partialHandle r) hnd .planeLayouts ↔
      layerSize (partialHandle r) = layerSize (partialHandle (r.final p.displays)) := by
  obtain ⟨f, hf⟩ := getBaseInfo_of_makePrivateHandle h.handle
  obtain ⟨-, -, hlc, -⟩ := request_of_derive h.derive
  have hlayers : (partialHandle r).layerCount ≠ 0 := by
    rw [partialHandle_layerCount, hlc]
    exact toInt_ne_zero hl
  rw [h.eq_importOf, partialHandle_final]
  exact valueAgrees_planeLayouts_iff hf hlayers

/-- **One type of an import** is what it is of the request exactly when the allocation keeps it. -/
theorem valueAgrees_iff (hl : info.layerCount ≠ 0#32) (ht : t ∈ commonStandardTypes) :
    ValueAgrees info (partialHandle r) hnd t ↔ KeptAt p node flags info t := by
  obtain ⟨f, hf⟩ := getBaseInfo_of_makePrivateHandle h.handle
  have hsel := allocFormat_of_derive h.derive
  -- what is kept is said of every derivation, and there is one
  have hderive (P : BufferDescriptor → Prop) :
      (∀ r', deriveFormatAndSize wrapping p.caps node (info.toDescriptor flags) =
        .ok (.success, r') → P r') ↔ P r := by
    refine ⟨fun hall => hall r h.derive, fun hP r' hr' => ?_⟩
    cases h.derive.symm.trans hr'
    exact hP
  cases t
  case name => exact h.name_iff
  case width => exact h.width_iff
  case height => exact h.height_iff
  case layerCount => exact h.layerCount_iff
  case allocationSize =>
    exact h.allocationSize_iff.trans (hderive fun r =>
      Replaced p.displays r → toInt r.size = toInt p.displays.budget).symm
  case planeLayouts =>
    exact (h.planeLayouts_iff hl).trans (hderive fun r =>
      layerSize (partialHandle r) = layerSize (partialHandle (r.final p.displays))).symm
  case chromaSiting =>
    rw [h.chromaSiting_iff hf, KeptAt, ← hsel, hf]
    refine ⟨fun hkept f' hf' => ?_, fun hkept => hkept f rfl⟩
    cases hf'
    exact hkept
  case pixelFormatRequested => exact iff_of_true h.pixelFormatRequested trivial
  case usage => exact iff_of_true h.usage trivial
  case dataspace => exact iff_of_true h.dataspace trivial
  all_goals first | exact iff_of_true (h.kept (by decide)) trivial | exact absurd ht (by decide)

end DerivedImport

/-- Answers of one type agree for every encoder exactly when its values do. -/
theorem answersAgree_iff
    (hr : deriveFormatAndSize wrapping p.caps node (info.toDescriptor flags) = .ok (.success, r))
    (ha : hnd.attr = some m) (ht : t ∈ commonStandardTypes) :
    (∀ gralloc4, ∃ bytes,
      getFromBufferDescriptorInfo gralloc4 p.caps node flags info (.standard t) =
          .ok (.ok bytes) ∧
        get gralloc4 hnd (.standard t) = .ok (.ok bytes)) ↔
      ValueAgrees info (partialHandle r) hnd t := by
  refine ⟨valueAgrees_of_encoders hr ha ht, ?_⟩
  rintro ⟨v, hpre, hpost⟩ gralloc4
  refine ⟨gralloc4 t v, ?_, ?_⟩
  · rw [getFromBufferDescriptorInfo_standard _ hr, hpre]
    rfl
  · rw [get_standard _ ha, hpost]
    exact congrArg Except.ok (if_pos (hasEncoder_of_mem ht))

/-- **A buffer that a request was granted**: one of a batch of the allocator, that was sent what the
mapper encoded, while the decoder tells both of them the same. -/
def Granted (p : Platform) (node : ℕ → Option DecoderPara) (flags : DescriptorFlags)
    (info : BufferDescriptorInfo) (b : AllocatedBuffer) : Prop :=
  ∃ para pitches bytes es bs,
    (∀ e ∈ es, decoderReply e.node (info.toDescriptor flags) =
      decoderReply node (info.toDescriptor flags)) ∧
    createDescriptor info = .ok bytes ∧
    allocate p flags (uninitialised para pitches) bytes es = .ok (.ok bs) ∧ b ∈ bs

/-- A request that is granted could be encoded. -/
theorem Granted.validate {b : AllocatedBuffer} (h : Granted p node flags info b) :
    validateDescriptorInfo info = true := by
  obtain ⟨-, -, bytes, -, -, -, hbytes, -⟩ := h
  unfold createDescriptor at hbytes
  split_ifs at hbytes with hv
  exact hv

theorem Granted.layerCount_ne_zero {b : AllocatedBuffer} (h : Granted p node flags info b) :
    info.layerCount ≠ 0#32 := by
  have hv := h.validate
  simp only [validateDescriptorInfo, Bool.and_eq_true, bne_iff_ne] at hv
  exact hv.1.2

/-- **An import of what was granted** is an import of what the request was derived to. -/
theorem Granted.derivedImport {b : AllocatedBuffer} (h : Granted p node flags info b)
    (himport : IsImport hnd b) : ∃ r, DerivedImport p node flags info r hnd := by
  obtain ⟨para, pitches, bytes, es, bs, hnode, hbytes, halloc, hb⟩ := h
  obtain ⟨r, hr, hhandle, hmeta⟩ := isDerived_of_allocate hnode hbytes halloc b hb
  have hfresh : (info.toDescriptor flags).fresh = info.toDescriptor flags := rfl
  rw [hfresh] at hr
  exact ⟨r, hr, himport.handle.symm ▸ hhandle, himport.attr.trans (congrArg some hmeta)⟩

end

end Hidl

namespace Sharing

open Transition

/-! ### In every process -/

section

variable {ι : Type*} [DecidableEq ι] {pageSize : ℤ} {g : Aml.Gralloctypes} {s₀ s s' : System ι}
  {i j : ι} {a c : ℕ} {h : Handle} {order : List ℕ} {ints : Integers} {fds : Fds}
  {share attr : File} {m : SharedMetadata}

/-- What a handle is about, that was received for a new buffer. -/
def Integers.description (ints : Integers) (share attr : File) : Description where
  share := some share
  attr := some attr
  ints := { ints with type := .raw }

/-- The fields that every handle has, of one that says that it was imported. -/
def Handle.saysImported (h : Handle) : Option PrivateHandle :=
  if h.ints.type = .imported then some h.ints.toPrivateHandle else none

/-- **A new buffer is known**, and its record is what the allocator has written. -/
theorem mem_descriptions_allocate (hs : Consistent pageSize s₀ s)
    (hfair : Fair s (.allocate i a ints fds share attr m)) :
    ints.description share attr ∈
        (s.step pageSize g (.allocate i a ints fds share attr m)).descriptions ∧
      (s.step pageSize g (.allocate i a ints fds share attr m)).memory attr = m := by
  obtain ⟨ha, hfds, -⟩ := hfair
  obtain ⟨hchanges, hdescribe⟩ := changesAt_receive (hs.sound i) ha hfds ints share attr
  have hproc : (s.step pageSize g (.allocate i a ints fds share attr m)).procs i =
      (s.procs i).receive a ints fds share attr := Function.update_self ..
  refine ⟨⟨i, a, ⟨ints, fds, none⟩, ?_, ?_⟩, Function.update_self ..⟩
  · rw [hproc, hchanges.handles, Function.update_self]
  · rw [hproc, hdescribe]
    rfl

variable {p : Platform} {node : ℕ → Option DecoderPara} {flags : DescriptorFlags}
  {info : BufferDescriptorInfo} {b : AllocatedBuffer} {t : StandardMetadataType}

/-- **What a buffer will do for**: in every state that the processes can reach, a descriptor and a
stride are accepted through a handle of the buffer exactly when it was imported, the descriptor
stays within what was requested, and the stride is that of the buffer, or none. -/
theorem validateBufferSize_iff_of_reach (hgrant : Hidl.Granted p node flags info b)
    (h₀ : s₀.Bare) (hr : Reach (System.step pageSize g) Fair s₀ s)
    (hints : ints.toPrivateHandle = b.buf.handle.toPrivateHandle)
    (hfair : Fair s (.allocate i a ints fds share attr b.metadata))
    (hr' : Reach (System.step pageSize g) (fun s call => Fair s call ∧ KeepsFile attr call)
      (s.step pageSize g (.allocate i a ints fds share attr b.metadata)) s')
    (hc : (s'.procs j).handles c = some h)
    (hf : (s'.procs j).files (.fd h.fds.shareAttrFd) = some attr) (info' : BufferDescriptorInfo)
    (inStride : BitVec 32) :
    Hidl.validateBufferSize h.saysImported info' inStride = .none ↔
      h.ints.type = .imported ∧ Hidl.Within info info' ∧
        (inStride = 0#32 ∨ inStride = BitVec.ofInt 32 b.buf.handle.stride) := by
  have hs := consistent_of_reach h₀ hr
  obtain ⟨hd, -⟩ := mem_descriptions_allocate (g := g) hs hfair
  obtain ⟨-, hdesc⟩ := description_of_reach (hs.step _ hfair) hd rfl hr'
  -- the integers of every handle are those that were sent
  have hph : h.ints.toPrivateHandle = b.buf.handle.toPrivateHandle := by
    rw [← hints]
    exact congrArg (fun d => d.ints.toPrivateHandle) (hdesc _ ⟨j, c, h, hc, rfl⟩ hf)
  obtain ⟨r, himport⟩ : ∃ r, Hidl.DerivedImport p node flags info r
      ((ints.description share attr).asked (some b.metadata)) :=
    hgrant.derivedImport ⟨hints, rfl⟩
  have hrecords : Hidl.Records info b.buf.handle.toPrivateHandle := by
    rw [← hints]
    exact himport.records
  unfold Handle.saysImported
  rw [hph]
  split_ifs with htype
  · rw [hrecords.validateBufferSize_iff hgrant.validate, htype]
    exact (and_iff_right rfl).symm
  · refine iff_of_false (fun hnone => ?_) fun hsome => htype hsome.1
    unfold Hidl.validateBufferSize at hnone
    split_ifs at hnone

end

/-! ### A square from one process to another -/

/-- The integers of the square in RGBA_8888. -/
def rgbaInts : Integers :=
  { cpuSquare with toPrivateHandle := Hidl.rgbaBuffer.buf.handle.toPrivateHandle }

def rgbaAllocate : SystemCall Bool :=
  .allocate true 100 rgbaInts ⟨3, 4, 5⟩ 1 2 Hidl.rgbaBuffer.metadata

theorem granted_rgba : Hidl.Granted .plain noDecoder DescriptorFlags.hwImpCamUsage
    (Hidl.squareInfo 1#32) Hidl.rgbaBuffer := by
  refine ⟨.zero, 0, _, [.ofNode noDecoder], [Hidl.rgbaBuffer], ?_, rfl, ?_, List.mem_cons_self⟩
  · simp [Attempt.ofNode]
  · decide +kernel

theorem fair_rgbaAllocate : Fair twoProcesses rgbaAllocate := by
  refine ⟨rfl, fresh_given 7, fun j r => ?_⟩
  show (if _ then some 0 else none) ≠ some 1 ∧ (if _ then some 0 else none) ≠ some 2
  split_ifs <;> decide

/-- The second process receives it, and imports it. -/
def sentRgba : System Bool :=
  ((twoProcesses.step 4096 Aml.numbersOnly rgbaAllocate).step 4096 Aml.numbersOnly
    (.transfer true 100 false 100 ⟨3, 4, 5⟩)).step 4096 Aml.numbersOnly
      (.importBuffer false 100 nextAnswers)

theorem reach_sentRgba (t : MetadataType) :
    Reach (System.step 4096 Aml.numbersOnly) (fun s c => Fair s c ∧ Leaves 2 t s c)
      (twoProcesses.step 4096 Aml.numbersOnly rgbaAllocate) sentRgba :=
  .next (.next .start ⟨⟨Option.some_ne_none _, rfl, fresh_given 8⟩, trivial⟩)
    ⟨fresh_nextAnswers 8 rgbaInts, trivial⟩

/-- An encoder of names. -/
def namesOnly : Hidl.Gralloc4
  | _, .string name => leBytes 8 name.length ++ name
  | _, _ => []

/-- There it will do for what was asked for, with its stride. -/
theorem validateBufferSize_iff_of_reach_rgba :
    Hidl.validateBufferSize (some rgbaInts.toPrivateHandle) (Hidl.squareInfo 1#32) 16#32 = .none :=
  (validateBufferSize_iff_of_reach granted_rgba bare_twoProcesses .start rfl fair_rgbaAllocate
    ((reach_sentRgba .other).mono fun _ _ h => ⟨h.1, h.2.keepsFile⟩) (j := false) (c := 200) rfl rfl
    _ _).mpr ⟨rfl, Hidl.Within.refl _, Or.inr rfl⟩

end Sharing

end Gralloc
