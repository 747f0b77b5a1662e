import Gralloc.Alloc.Fixed
import Mathlib.Order.CompletePartialOrder

/-!
# The planes that are reported to clients

A client asks the mapper for the layout of the planes of a handle
(`Gralloc.Mapper.getPlaneLayouts`). The size of a plane is not stored; it is recovered from
the offsets: a plane ends where the next one starts, and the last one ends with the layer.

The code takes the offset of the next plane for the size, without subtracting the plane's
own. This is right for the first plane, which starts at zero, and there is nothing to
subtract it from in the last one, so that one or two planes partition their layer; of three
planes the one in the middle is reported too long, by all of the first
(`Gralloc.Mapper.partitionsLayer_iff`).
-/

namespace Gralloc

open CInt

/-! ### The first plane of a derivation -/

section

variable {A : Arith} {f : FormatInfo} {t : AllocType} {usage : Usage} {onLuma : ℕ → Run ℤ}

/-- **What sizing a plane writes**: the plane, at its own place, the first one without its offset;
and the pixel stride of its rows. -/
theorem of_sizePlane {w h : ℤ} {i : ℕ} {s s' : SizeState}
    (hs : sizePlane A f t usage onLuma w h i s = .ok s') :
    ∃ p, s'.planeInfo = s.planeInfo.set i p ∧
      stepIf (i = 0) (onLuma p.byteStride) s.pixelStride = .ok s'.pixelStride ∧
      (i = 0 → p.offset = (s.planeInfo.get i).offset) := by
  simp only [sizePlane, bind_eq_ok, Planes.set_set] at hs
  obtain ⟨_, -, _, -, wh, -, stride, -, luma, hluma, _, -, _, -, _, -, _, -, offset, hoffset, _, -,
    _, -, hs'⟩ := hs
  cases hs'
  refine ⟨_, rfl, ?_, ?_⟩
  · simpa only [Planes.get_set_self] using hluma
  · rintro rfl
    rw [stepIf_of_not (lt_irrefl 0)] at hoffset
    cases hoffset
    simp only [Planes.get_set_self]

theorem offset_zero_of_sizePlane {w h : ℤ} {i : ℕ} (hi : i < 3) {s s' : SizeState}
    (hs : sizePlane A f t usage onLuma w h i s = .ok s') :
    (s'.planeInfo.get 0).offset = (s.planeInfo.get 0).offset := by
  obtain ⟨p, hinfo, -, hoffset⟩ := of_sizePlane hs
  rw [hinfo]
  rcases Nat.eq_zero_or_pos i with rfl | hpos
  · rw [Planes.get_set_self, hoffset rfl]
  · rw [Planes.get_set_of_ne _ _ hi (show 0 < 3 by decide) hpos.ne]

/-- **The first plane starts where the layout was initialised**, by induction on the number
of planes. -/
theorem offset_zero_of_sizePlanes {w h : ℤ} {n : ℕ} (hn : n ≤ 3) {s s' : SizeState}
    (hs : sizePlanes A f t usage onLuma w h s n = .ok s') :
    (s'.planeInfo.get 0).offset = (s.planeInfo.get 0).offset := by
  induction n generalizing s' with
  | zero =>
    cases hs
    rfl
  | succ n ih =>
    obtain ⟨s₁, hs₁, hplane⟩ := bind_eq_ok.mp hs
    exact (offset_zero_of_sizePlane (by omega) hplane).trans (ih (by omega) hs₁)

variable {caps : Capabilities} {node : ℕ → Option DecoderPara} {d d' : BufferDescriptor}

/-- An accepted request starts at the start of its allocation. -/
theorem offset_zero_of_success (hd : deriveFormatAndSize A caps node d = .ok (.success, d')) :
    (d'.planeInfo.get 0).offset = 0 := by
  obtain ⟨c, -, wh, -, s, hs, size, -, pitches, -, rfl⟩ := deriveFormatAndSize_eq_success.mp hd
  refine (offset_zero_of_sizePlanes c.info_wellFormed.npln_le hs).trans ?_
  rw [Planes.get_set_self]

end

section

variable {displays : Displays} {heap : ℕ → Bool} {caps : Capabilities}
  {node : ℕ → Option DecoderPara} {d : BufferDescriptor} {hnd : PrivateHandle}

/-- **A handle that was allocated** describes a derived request, but for its size. -/
theorem derived_of_bufferAllocate
    (ha : bufferAllocate wrapping displays heap caps node d = .ok (some hnd)) :
    ∃ d' size, deriveFormatAndSize wrapping caps node d = .ok (.success, d') ∧
      makePrivateHandle { d' with size := size } = some hnd := by
  obtain ⟨⟨status, d'⟩, hd, hrest⟩ := bind_eq_ok.mp ha
  cases status with
  | einval => cases hrest
  | success =>
    refine ⟨d', ?_⟩
    simp only [finalDescriptor_wrapping, ok_bind, allocatorAllocate, Except.ok.injEq] at hrest
    by_cases hr : Replaced displays d'
    · refine ⟨displays.budget, hd, ?_⟩
      rw [if_pos hr] at hrest
      exact (Option.ite_none_right_eq_some.mp hrest).2
    · refine ⟨d'.size, hd, ?_⟩
      rw [if_neg hr] at hrest
      exact (Option.ite_none_right_eq_some.mp hrest).2

theorem offset_zero_of_bufferAllocate
    (ha : bufferAllocate wrapping displays heap caps node d = .ok (some hnd)) :
    (hnd.planeInfo.get 0).offset = 0 := by
  obtain ⟨d', size, hd, hm⟩ := derived_of_bufferAllocate ha
  obtain ⟨f, -, rfl⟩ := Option.map_eq_some_iff.mp hm
  exact offset_zero_of_success hd

/-- The format of an allocated handle has properties. -/
theorem getBaseInfo_of_bufferAllocate
    (ha : bufferAllocate wrapping displays heap caps node d = .ok (some hnd)) :
    ∃ f, hnd.allocFormat.getBaseInfo = some f := by
  obtain ⟨d', size, -, hm⟩ := derived_of_bufferAllocate ha
  obtain ⟨f, hf, rfl⟩ := Option.map_eq_some_iff.mp hm
  exact ⟨f, hf⟩

end

namespace Mapper

/-! ### Reporting -/

/-- The results of the mapper. -/
inductive MapperError where
  | badDescriptor
  | badBuffer
  | badValue
  | noResources
  | unsupported
  deriving DecidableEq, Repr

/-- The layout of a plane, as it is reported. -/
structure PlaneLayout where
  offsetInBytes : ℤ
  sampleIncrementInBits : ℤ
  strideInBytes : ℤ
  widthInSamples : ℤ
  heightInSamples : ℤ
  totalSizeInBytes : ℤ
  horizontalSubsampling : ℤ
  verticalSubsampling : ℤ
  deriving DecidableEq, Repr

section

variable (A : Arith) (hnd : PrivateHandle)

/-- The bytes of a plane: to the next one, or to the end of the layer. -/
def planeSize (plane : ℕ) : Run ℤ :=
  if plane < hnd.getNumPlanes - 1 then .ok (hnd.planeInfo.get (plane + 1)).offset
  else do
    let size ← sdiv hnd.size hnd.layerCount
    let layerSize ← A.i32 size
    .ok (layerSize - (hnd.planeInfo.get plane).offset)

/-- The bits from one sample to the next, which packed raw samples do not have. -/
def sampleIncrement (f : FormatInfo) (plane : ℕ) : ℕ :=
  let isRaw := [PixelFormat.raw10, .raw12].contains hnd.allocFormat.getBase
  if hnd.allocFormat.hasModifiers || !isRaw then
    if hnd.allocFormat.isAfbc then f.bppAfbc.get plane else f.bpp.get plane
  else 0

/-- The layout of one plane. -/
def planeLayout (f : FormatInfo) (plane : ℕ) : Run PlaneLayout := do
  let size ← planeSize A hnd plane
  let p := hnd.planeInfo.get plane
  .ok
    { offsetInBytes := p.offset
      sampleIncrementInBits := sampleIncrement hnd f plane
      strideInBytes := p.byteStride
      widthInSamples := p.allocWidth
      heightInSamples := p.allocHeight
      totalSizeInBytes := size
      horizontalSubsampling := if plane = 0 then 1 else f.hsub
      verticalSubsampling := if plane = 0 then 1 else f.vsub }

/-- The layouts of the first planes. -/
def planeLayouts (f : FormatInfo) : ℕ → Run (List PlaneLayout)
  | 0 => .ok []
  | n + 1 => do
    let layouts ← planeLayouts f n
    let layout ← planeLayout A hnd f n
    .ok (layouts ++ [layout])

/-- **The layout of the planes of a handle.** -/
def getPlaneLayouts : Run (Except MapperError (List PlaneLayout)) :=
  match hnd.allocFormat.getBaseInfo with
  | none => .ok (.error .badValue)
  | some f => do
    let layouts ← planeLayouts A hnd f hnd.getNumPlanes
    .ok (.ok layouts)

end

/-! ### The run of a report -/

section

variable (hnd : PrivateHandle) (f : FormatInfo)

/-- The bytes of a layer, as the machine divides them. -/
def layerSize : ℤ := (hnd.size.tdiv hnd.layerCount).bmod (2 ^ 32)

/-- The layout of a plane of a handle with layers. -/
def layoutAt (plane : ℕ) : PlaneLayout where
  offsetInBytes := (hnd.planeInfo.get plane).offset
  sampleIncrementInBits := sampleIncrement hnd f plane
  strideInBytes := (hnd.planeInfo.get plane).byteStride
  widthInSamples := (hnd.planeInfo.get plane).allocWidth
  heightInSamples := (hnd.planeInfo.get plane).allocHeight
  totalSizeInBytes :=
    if plane < hnd.getNumPlanes - 1 then ((hnd.planeInfo.get (plane + 1)).offset : ℤ)
    else layerSize hnd - (hnd.planeInfo.get plane).offset
  horizontalSubsampling := if plane = 0 then 1 else f.hsub
  verticalSubsampling := if plane = 0 then 1 else f.vsub

theorem getNumPlanes_cases :
    hnd.getNumPlanes = 1 ∨ hnd.getNumPlanes = 2 ∨ hnd.getNumPlanes = 3 := by
  unfold PrivateHandle.getNumPlanes
  split_ifs
  · exact Or.inr (Or.inl rfl)
  · exact Or.inr (Or.inr rfl)
  · exact Or.inl rfl

/-- A plane of a handle with layers is reported. -/
theorem planeLayout_eq_ok (hl : hnd.layerCount ≠ 0) (plane : ℕ) :
    planeLayout wrapping hnd f plane = .ok (layoutAt hnd f plane) := by
  have hi (x : ℤ) : wrapping.i32 x = .ok (x.bmod (2 ^ 32)) := rfl
  have hdiv : sdiv hnd.size hnd.layerCount = .ok (hnd.size.tdiv hnd.layerCount) := if_neg hl
  by_cases hn : plane < hnd.getNumPlanes - 1
  · simp only [planeLayout, planeSize, layoutAt, if_pos hn, ok_bind]
  · simp only [planeLayout, planeSize, layoutAt, if_neg hn, hdiv, hi, ok_bind, layerSize]

/-- **The planes of a handle with layers are reported**, by induction on their number. -/
theorem planeLayouts_eq_ok (hl : hnd.layerCount ≠ 0) (n : ℕ) :
    planeLayouts wrapping hnd f n = .ok ((List.range n).map (layoutAt hnd f)) := by
  induction n with
  | zero => rfl
  | succ n ih =>
    rw [planeLayouts, ih, ok_bind, planeLayout_eq_ok hnd f hl, ok_bind, List.range_succ,
      List.map_append, List.map_singleton]

/-- Without layers, the size of the last plane is a division by zero. -/
theorem planeLayouts_of_layerCount_eq_zero (hl : hnd.layerCount = 0)
    (layouts : List PlaneLayout) :
    planeLayouts wrapping hnd f hnd.getNumPlanes ≠ .ok layouts := by
  obtain ⟨n, hn⟩ : ∃ n, hnd.getNumPlanes = n + 1 := by
    rcases getNumPlanes_cases hnd with h | h | h
    · exact ⟨0, h⟩
    · exact ⟨1, h⟩
    · exact ⟨2, h⟩
  intro h
  rw [hn] at h
  obtain ⟨_, -, h⟩ := bind_eq_ok.mp h
  obtain ⟨_, h, -⟩ := bind_eq_ok.mp h
  obtain ⟨_, h, -⟩ := bind_eq_ok.mp h
  -- plane `n` is the last one, whose size is that of the layer
  rw [planeSize, if_neg (by omega), hl] at h
  cases h

variable {f}

/-- **The layouts of a handle with layers**, whose format has properties. -/
theorem getPlaneLayouts_of_layers (hf : hnd.allocFormat.getBaseInfo = some f)
    (hl : hnd.layerCount ≠ 0) :
    getPlaneLayouts wrapping hnd =
      .ok (.ok ((List.range hnd.getNumPlanes).map (layoutAt hnd f))) := by
  rw [getPlaneLayouts, hf]
  simp only [planeLayouts_eq_ok hnd f hl, ok_bind]

/-- And without layers there are none. -/
theorem getPlaneLayouts_of_layerCount_eq_zero (hf : hnd.allocFormat.getBaseInfo = some f)
    (hl : hnd.layerCount = 0) (r : Except MapperError (List PlaneLayout)) :
    getPlaneLayouts wrapping hnd ≠ .ok r := by
  intro h
  rw [getPlaneLayouts, hf] at h
  obtain ⟨layouts, hlayouts, -⟩ := bind_eq_ok.mp h
  exact planeLayouts_of_layerCount_eq_zero hnd f hl layouts hlayouts

end

/-! ### Partitions of a layer -/

/-- The bytes that a plane is reported to have. -/
def PlaneLayout.bytes (l : PlaneLayout) : Set ℤ :=
  Set.Ico l.offsetInBytes (l.offsetInBytes + l.totalSizeInBytes)

/-- **The reported planes partition a layer**: they share no byte, each starts where the one
before it ends, and together they have the bytes of the layer. -/
structure Partition (total : ℤ) (layouts : List PlaneLayout) : Prop where
  disjoint : layouts.Pairwise fun l l' => Disjoint l.bytes l'.bytes
  consecutive : layouts.IsChain fun l l' => l.offsetInBytes + l.totalSizeInBytes = l'.offsetInBytes
  sum : (layouts.map PlaneLayout.totalSizeInBytes).sum = total

/-- The planes of a handle are reported, and partition its layer. -/
def PartitionsLayer (hnd : PrivateHandle) : Prop :=
  ∃ layouts, getPlaneLayouts wrapping hnd = .ok (.ok layouts) ∧ Partition (layerSize hnd) layouts

section

variable {hnd : PrivateHandle}

/-- One or two planes partition a layer, and three when the first is empty. -/
theorem partition_layoutAt_iff (f : FormatInfo) (h₀ : (hnd.planeInfo.get 0).offset = 0) :
    Partition (layerSize hnd) ((List.range hnd.getNumPlanes).map (layoutAt hnd f)) ↔
      (hnd.getNumPlanes = 3 → (hnd.planeInfo.get 1).offset = 0) := by
  rcases getNumPlanes_cases hnd with hn | hn | hn
  · -- the only plane has the layer
    have hrange : List.range 1 = [0] := rfl
    refine iff_of_true ?_ fun h => absurd (hn.symm.trans h) (by decide)
    rw [hn, hrange]
    refine ⟨List.pairwise_singleton _ _, List.isChain_singleton _, ?_⟩
    simp [layoutAt, hn, h₀]
  · -- the first plane ends where the second starts, since it starts at zero itself
    have hrange : List.range 2 = [0, 1] := rfl
    refine iff_of_true ?_ fun h => absurd (hn.symm.trans h) (by decide)
    rw [hn, hrange]
    refine ⟨?_, ?_, ?_⟩
    · simp [layoutAt, hn, h₀, PlaneLayout.bytes, Set.Ico_disjoint_Ico]
    · simp [layoutAt, hn, h₀]
    · simp [layoutAt, hn, h₀]
  · have hrange : List.range 3 = [0, 1, 2] := rfl
    rw [hn, hrange, imp_iff_right rfl]
    constructor
    · intro h
      -- the middle plane starts where the first one ends, and has the offset of the last
      have hmid := (List.isChain_cons_cons.mp (List.isChain_cons_cons.mp h.consecutive).2).1
      simp only [layoutAt, hn, if_pos (show 1 < 3 - 1 by decide), Nat.reduceAdd] at hmid
      omega
    · intro h₁
      refine ⟨?_, ?_, ?_⟩
      · simp [layoutAt, hn, h₀, h₁, PlaneLayout.bytes, Set.Ico_disjoint_Ico]
      · simp [layoutAt, hn, h₀, h₁]
      · simp [layoutAt, hn, h₁]

variable {displays : Displays} {heap : ℕ → Bool} {caps : Capabilities}
  {node : ℕ → Option DecoderPara} {d : BufferDescriptor}

/-- **The reported planes of an allocated handle partition its layer** exactly when it has
layers, and no plane in the middle, unless the first one is empty. -/
theorem partitionsLayer_iff
    (ha : bufferAllocate wrapping displays heap caps node d = .ok (some hnd)) :
    PartitionsLayer hnd ↔
      hnd.layerCount ≠ 0 ∧ (hnd.getNumPlanes = 3 → (hnd.planeInfo.get 1).offset = 0) := by
  obtain ⟨f, hf⟩ := getBaseInfo_of_bufferAllocate ha
  rw [← partition_layoutAt_iff f (offset_zero_of_bufferAllocate ha)]
  by_cases hl : hnd.layerCount = 0
  · refine iff_of_false ?_ fun h => h.1 hl
    rintro ⟨layouts, hrun, -⟩
    exact getPlaneLayouts_of_layerCount_eq_zero hnd hf hl _ hrun
  · have hget := getPlaneLayouts_of_layers hnd hf hl
    constructor
    · rintro ⟨layouts, hrun, hpart⟩
      cases hget.symm.trans hrun
      exact ⟨hl, hpart⟩
    · rintro ⟨-, hpart⟩
      exact ⟨_, hget, hpart⟩

end

/-! ### Three planes -/

/-- 16 × 16 pixels of YV12. -/
def yv12 : BufferDescriptor := .request 16#32 16#32 0x33#64 0x32315659#64 1#32

/-- The handle that is allocated: one plane of 256 bytes and two of 128. -/
def yv12Handle : PrivateHandle where
  size := 512
  consumerUsage := 0x33#64
  producerUsage := 0x33#64
  reqFormat := 0x32315659
  allocFormat := ⟨.unorm, 0x10e#32, 0#32⟩
  width := 16
  height := 16
  layerCount := 1
  planeInfo := ⟨⟨0, 16, 16, 16⟩, ⟨256, 16, 16, 8⟩, ⟨384, 16, 16, 8⟩⟩
  stride := 16
  isMultiPlane := true

/-- The equivalence, at the three planes. -/
theorem partitionsLayer_iff_yv12 :
    PartitionsLayer yv12Handle ↔
      yv12Handle.layerCount ≠ 0 ∧
        (yv12Handle.getNumPlanes = 3 → (yv12Handle.planeInfo.get 1).offset = 0) :=
  partitionsLayer_iff (show bufferAllocate wrapping fullHd (fun _ => true) .gpuOnly noDecoder yv12 =
    .ok (some yv12Handle) by decide +kernel)

/-- **The middle plane is reported with 384 bytes**: those of the first are counted too. -/
theorem not_partitionsLayer_yv12 :
    bufferAllocate wrapping fullHd (fun _ => true) .gpuOnly noDecoder yv12 =
        .ok (some yv12Handle) ∧
      ¬PartitionsLayer yv12Handle := by
  refine ⟨by decide +kernel, ?_⟩
  rintro ⟨layouts, hrun, hpart⟩
  have hsum : (getPlaneLayouts wrapping yv12Handle).map (fun r => r.map fun ls =>
      (ls.map PlaneLayout.totalSizeInBytes).sum) = .ok (.ok 768) := by
    decide
  rw [hrun] at hsum
  have h768 : (layouts.map PlaneLayout.totalSizeInBytes).sum = 768 :=
    Except.ok.inj (Except.ok.inj hsum)
  rw [hpart.sum] at h768
  exact absurd h768 (by decide)

end Mapper

end Gralloc
