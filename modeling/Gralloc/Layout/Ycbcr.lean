import Gralloc.Layout.Samples

/-!
# Locking the planes of a YUV buffer

Besides the lock that returns one address there is one that returns an address for each of luma and
chroma, with the strides (`Gralloc.Mapper.maliGrallocLockYcbcr`). It makes its own arithmetic of the
offsets, for six formats, and takes the stride of the second plane for both chroma planes. A client
may as well have asked for the layout of the planes: the two ways lead to the same bytes
(`Gralloc.Mapper.lockYcbcr_agrees`), and so the addresses stay in the mapping and apart from each
other, since the layout does.

The accounting is that of the other lock (`Gralloc.Mapper.maliGrallocLock_of_lockYcbcr`). Of a
format that has no such planes the lock is refused after the buffer was mapped, and nothing but the
mapping is left behind (`Gralloc.Mapper.lockYcbcr_error`).
-/

namespace Gralloc

namespace Mapper

open CInt

/-! ### The lock -/

/-- The addresses of the first samples, the strides in bytes, and the bytes from one chroma sample
to the next. -/
structure AndroidYcbcr where
  y : ℕ
  cb : ℕ
  cr : ℕ
  ystride : ℕ
  cstride : ℕ
  chromaStep : ℕ
  deriving DecidableEq, Repr

/-- No addresses. -/
def AndroidYcbcr.zero : AndroidYcbcr := ⟨0, 0, 0, 0, 0, 0⟩

section

variable (k : Kernel) (hnd : ImportedHandle)

/-- **The planes of a mapped buffer**, of the formats that have them; where nothing is mapped, the
base is null. -/
def ycbcrPlanes : Option AndroidYcbcr :=
  let base := hnd.base.getD 0
  let plane1 := base + hnd.planeInfo.p1.offset
  let plane2 := base + hnd.planeInfo.p2.offset
  let ystride := hnd.planeInfo.p0.byteStride
  let cstride := hnd.planeInfo.p1.byteStride
  let format := hnd.allocFormat.getBase
  if format = .y8 ∨ format = .y16 then some ⟨base, 0, 0, ystride, 0, 0⟩
  else if format = .nv12 then some ⟨base, plane1, plane1 + 1, ystride, cstride, 2⟩
  else if format = .nv21 then some ⟨base, plane1 + 1, plane1, ystride, cstride, 2⟩
  else if format = .yv12 then some ⟨base, plane2, plane1, ystride, cstride, 1⟩
  else if format = .yu12 then some ⟨base, plane1, plane2, ystride, cstride, 1⟩
  else none

/-- **Locking the planes** of a valid region. -/
def maliGrallocLockYcbcr (pid : ℤ) (usage : Usage) (l t w h : BitVec 32) :
    Except LockError AndroidYcbcr × ImportedHandle × List Sync :=
  match validateLockInputParameters hnd pid l t w h usage, hnd.allocFormat.getBaseInfo with
  | .error e, _ => (.error e, hnd, [])
  | .ok _, none => (.error .einval, hnd, [])
  | .ok _, some f =>
    if f.isYuv ≠ true then (.error .einval, hnd, [])
    else if usage.hasCpu then
      match maliMapBuffer k hnd with
      | .error e => (.error e, hnd, [])
      | .ok mapped =>
        match ycbcrPlanes mapped with
        | none => (.error .einval, mapped, [])
        | some planes => (.ok planes, bufferSync k mapped (getTxDirection usage))
    else (.ok .zero, hnd, [])

end

section

variable {k : Kernel} {hnd hnd' : ImportedHandle} {pid : ℤ} {usage : Usage} {l t w h : BitVec 32}
  {r : AndroidYcbcr} {syncs : List Sync}

/-- Validation asks for an access by the CPU to pixels that are not compressed. -/
theorem of_validate (hv : validateLockInputParameters hnd pid l t w h usage = .ok ()) :
    usage.hasCpu = true ∧ hnd.allocFormat.hasModifiers = false := by
  unfold validateLockInputParameters at hv
  split_ifs at hv with h₁ h₂ h₃ h₄ h₅ h₆
  refine ⟨?_, Bool.eq_false_of_not_eq_true h₆⟩
  by_contra hcpu
  exact h₄ (by simp [hcpu])

/-- **A lock that is granted** has mapped the buffer and found its planes; it never returns without
addresses. -/
theorem of_lockYcbcr (hr : maliGrallocLockYcbcr k hnd pid usage l t w h = (.ok r, hnd', syncs)) :
    validateLockInputParameters hnd pid l t w h usage = .ok () ∧
      hnd.allocFormat.getBaseInfo.isSome = true ∧
      ∃ mapped, maliMapBuffer k hnd = .ok mapped ∧ ycbcrPlanes mapped = some r ∧
        (hnd', syncs) = bufferSync k mapped (getTxDirection usage) := by
  unfold maliGrallocLockYcbcr at hr
  split at hr
  · cases hr
  · cases hr
  · rename_i f hv hf
    rw [if_pos (of_validate hv).1] at hr
    split_ifs at hr
    · cases hr
    · split at hr
      · cases hr
      · rename_i mapped hm
        split at hr
        · cases hr
        · rename_i planes hplanes
          obtain ⟨heq, hrest⟩ := Prod.mk.inj hr
          cases heq
          exact ⟨hv, by rw [hf]; rfl, mapped, hm, hplanes, hrest.symm⟩

/-- **The handle and the caches** are those of the lock that returns one address. -/
theorem maliGrallocLock_of_lockYcbcr
    (hr : maliGrallocLockYcbcr k hnd pid usage l t w h = (.ok r, hnd', syncs)) :
    ∃ base, maliGrallocLock k hnd pid usage l t w h = .ok (base, hnd', syncs) := by
  obtain ⟨hv, hinfo, mapped, hm, -, hsync⟩ := of_lockYcbcr hr
  refine ⟨mapped.base, ?_⟩
  have hsome : hnd.allocFormat.getBaseInfo.isNone = false := by
    rw [← Option.not_isSome, hinfo]
    rfl
  simp only [maliGrallocLock, hv, hsome, (of_validate hv).1, hm, hsync]
  rfl

/-- **A lock that is refused** counts nothing; at most it has mapped the buffer. -/
theorem lockYcbcr_error {e : LockError}
    (hr : maliGrallocLockYcbcr k hnd pid usage l t w h = (.error e, hnd', syncs)) :
    syncs = [] ∧ ∃ base, hnd' = { hnd with base := base } := by
  have hsame : (hnd, ([] : List Sync)) = (hnd', syncs) →
      syncs = [] ∧ ∃ base, hnd' = { hnd with base := base } := by
    rintro ⟨⟩
    exact ⟨rfl, hnd.base, rfl⟩
  unfold maliGrallocLockYcbcr at hr
  split at hr
  · exact hsame (Prod.mk.inj hr).2
  · exact hsame (Prod.mk.inj hr).2
  · split_ifs at hr
    · exact hsame (Prod.mk.inj hr).2
    · split at hr
      · exact hsame (Prod.mk.inj hr).2
      · rename_i mapped hm
        split at hr
        · cases hr
          exact ⟨rfl, maliMapBuffer_eq_ok hm⟩
        · cases (Prod.mk.inj hr).1
    · cases (Prod.mk.inj hr).1

end

/-! ### The planes by what is reported of them -/

/-- The type of a chroma component. -/
def cbType : ExtendableType := (PlaneLayoutComponent.cb 0 0).type
def crType : ExtendableType := (PlaneLayoutComponent.cr 0 0).type

/-- **An address leads to a component**: with its stride and step, to that of every sample that is
reported. -/
def LeadsTo (base : ℕ) (ls : DescribedLayouts) (type : ExtendableType)
    (first stride step : ℕ) : Prop :=
  ∀ p ∈ ls, ∀ k ∈ p.1, k.type = type → k.sizeInBits = 8 ∧ ∀ y x : ℕ,
    8 * ((first : ℤ) + y * stride + x * step) = 8 * base + p.2.grid.cell y x + k.offsetInBits

/-- **The addresses agree with the layouts** of the planes, of a buffer that is mapped at `base`. -/
structure YcbcrAgrees (base : ℕ) (ls : DescribedLayouts) (r : AndroidYcbcr) : Prop where
  luma : ∀ p ∈ ls[0]?, ∃ n : ℕ, 0 < n ∧ p.2.sampleIncrementInBits = 8 * (n : ℤ) ∧
    ∀ y x : ℕ, 8 * ((r.y : ℤ) + y * r.ystride + x * n) = 8 * base + p.2.grid.cell y x
  cb : LeadsTo base ls cbType r.cb r.cstride r.chromaStep
  cr : LeadsTo base ls crType r.cr r.cstride r.chromaStep
  /-- There is no chroma without components to lead to. -/
  chroma : r.chromaStep ≠ 0 →
    (∃ p ∈ ls, ∃ k ∈ p.1, k.type = cbType) ∧ ∃ p ∈ ls, ∃ k ∈ p.1, k.type = crType

/-- Where the chroma samples of a format are: the plane and the byte, and the bytes to the next. -/
structure ChromaPlaces where
  cbPlane : ℕ
  cbByte : ℕ
  crPlane : ℕ
  crByte : ℕ
  step : ℕ
  deriving DecidableEq, Repr

def chromaPlaces (format : PixelFormat) : Option ChromaPlaces :=
  if format = .nv12 then some ⟨1, 0, 1, 1, 2⟩
  else if format = .nv21 then some ⟨1, 1, 1, 0, 2⟩
  else if format = .yv12 then some ⟨2, 0, 1, 0, 1⟩
  else if format = .yu12 then some ⟨1, 0, 2, 0, 1⟩
  else none

/-- The formats without chroma. -/
def isLumaOnly (format : PixelFormat) : Bool := [PixelFormat.y8, .y16].contains format

section

variable {hnd : ImportedHandle} {r : AndroidYcbcr} {base : ℕ}

/-- **The planes of a lock**, by the places of the chroma. -/
theorem of_ycbcrPlanes (hr : ycbcrPlanes hnd = some r) (hbase : hnd.base = some base) :
    r.y = base ∧ r.ystride = (hnd.planeInfo.get 0).byteStride ∧
      (isLumaOnly hnd.allocFormat.getBase = true ∧ r.chromaStep = 0 ∨
        ∃ q ∈ chromaPlaces hnd.allocFormat.getBase,
          r.cb = base + (hnd.planeInfo.get q.cbPlane).offset + q.cbByte ∧
          r.cr = base + (hnd.planeInfo.get q.crPlane).offset + q.crByte ∧
          r.cstride = (hnd.planeInfo.get 1).byteStride ∧ r.chromaStep = q.step) := by
  unfold ycbcrPlanes at hr
  simp only [hbase, Option.getD_some] at hr
  split_ifs at hr with hy h₁ h₂ h₃ h₄ <;> cases hr
  · refine ⟨rfl, rfl, Or.inl ⟨?_, rfl⟩⟩
    rcases hy with hy | hy <;> rw [hy] <;> decide
  · rw [h₁]
    exact ⟨rfl, rfl, Or.inr ⟨_, rfl, rfl, rfl, rfl, rfl⟩⟩
  · rw [h₂]
    exact ⟨rfl, rfl, Or.inr ⟨_, rfl, rfl, rfl, rfl, rfl⟩⟩
  · rw [h₃]
    exact ⟨rfl, rfl, Or.inr ⟨_, rfl, rfl, rfl, rfl, rfl⟩⟩
  · rw [h₄]
    exact ⟨rfl, rfl, Or.inr ⟨_, rfl, rfl, rfl, rfl, rfl⟩⟩

/-- **Where a type of component is**, of the formats with places for the chroma. -/
def PlaceOf (f : FormatInfo) (type : ExtendableType) (plane byte : ℕ) : Prop :=
  (plane < f.npln ∧ ∃ k ∈ (plainComponents f.id).getD plane [], k.type = type) ∧
    ∀ i < 3, ∀ k ∈ (plainComponents f.id).getD i [], k.type = type →
      i = plane ∧ k.offsetInBits = 8 * (byte : ℤ) ∧ k.sizeInBits = 8

instance (f : FormatInfo) (type : ExtendableType) (plane byte : ℕ) :
    Decidable (PlaceOf f type plane byte) := by
  unfold PlaceOf
  infer_instance

/-- The places are those of the components. -/
theorem placeOf_of_chromaPlaces : ∀ f ∈ formats, ∀ q ∈ chromaPlaces f.id,
    PlaceOf f cbType q.cbPlane q.cbByte ∧ PlaceOf f crType q.crPlane q.crByte := by
  decide

/-- Chroma planes have the same samples. -/
theorem chroma_of_chromaPlaces : ∀ f ∈ formats, ∀ q ∈ chromaPlaces f.id,
    f.isYuv = true ∧ isPacked f = false ∧ plainIncrement f 0 = 8 ∧
      (q.cbPlane = 1 ∨ q.cbPlane = 2) ∧ (q.crPlane = 1 ∨ q.crPlane = 2) ∧
      plainIncrement f 1 = 8 * q.step ∧
      (2 < f.npln → f.bpp.get 2 = f.bpp.get 1 ∧ plainIncrement f 2 = 8 * q.step) := by
  decide

/-- The formats without chroma have no component of it. -/
theorem lumaOnly_of_formats : ∀ f ∈ formats, isLumaOnly f.id = true →
    isPacked f = false ∧ plainComponents f.id = [] ∧
      (plainIncrement f 0 = 8 ∨ plainIncrement f 0 = 16) := by
  decide

end

/-! ### The strides of the chroma planes -/

/-- Planes with the same samples have the same stride. -/
theorem stride_two_eq_one {f : FormatInfo} {t : AllocType} (usage : Usage) (w : ℕ)
    (hl : t.isLinear = true) (hy : f.isYuv = true) (hbpp : f.bpp.get 2 = f.bpp.get 1) :
    Exact.stride f t usage w 2 = Exact.stride f t usage w 1 := by
  obtain ⟨ha, hr, hb⟩ := AllocType.isLinear_iff.mp hl
  have hwidth : Exact.width f t usage w 2 = Exact.width f t usage w 1 := by
    rw [Exact.width, Exact.width, Exact.baseWidth_of_pos hy two_pos, Exact.baseWidth_of_pos hy
      one_pos]
    simp only [finalAlign, pixelAlign, ha, hr, hb, Bool.false_eq_true, if_false]
  have halign : Exact.rowAlign f usage 2 = Exact.rowAlign f usage 1 := by
    unfold Exact.rowAlign Exact.cpuAlign
    rw [hbpp]
  have hrow : Exact.rowStride f t usage w 2 = Exact.rowStride f t usage w 1 := by
    unfold Exact.rowStride Exact.rowBytes
    rw [hwidth, hbpp, halign]
  simp only [Exact.stride, ha, hr, hb, Bool.false_eq_true, if_false, Exact.linearStride, hrow,
    OfNat.ofNat_ne_zero, one_ne_zero]

section

variable {displays : Displays} {caps : Capabilities} {node : ℕ → Option DecoderPara}
  {d d' : BufferDescriptor} {c : Choice d.usage d.height} {hnd : PrivateHandle}

/-- **The chroma planes** of a buffer with places for them have one stride. -/
theorem LinearBuffer.byteStride_eq (hb : LinearBuffer displays caps node d d' c hnd)
    {q : ChromaPlaces} (hq : q ∈ chromaPlaces c.info.id) {i : ℕ} (hi : i = 1 ∨ i = 2)
    (hlt : i < c.info.npln) :
    (hnd.planeInfo.get i).byteStride = (hnd.planeInfo.get 1).byteStride ∧
      plainIncrement c.info i = 8 * q.step := by
  obtain ⟨hy, -, -, -, -, hstep, htwo⟩ := chroma_of_chromaPlaces _ c.info_mem q hq
  rcases hi with rfl | rfl
  · exact ⟨rfl, hstep⟩
  · obtain ⟨hbpp, hstep⟩ := htwo hlt
    refine ⟨?_, hstep⟩
    rw [hb.planeInfo_get hlt, hb.planeInfo_get (by omega)]
    exact stride_two_eq_one d.usage _ hb.isLinear hy hbpp

/-- A buffer with pixels reports all of its planes. -/
theorem LinearBuffer.getNumPlanes_eq (hb : LinearBuffer displays caps node d d' c hnd)
    (hw : d.width ≠ 0#32) (hh : d.height ≠ 0#32) : hnd.getNumPlanes = c.info.npln := by
  obtain ⟨-, hplanes, -, -, hmulti⟩ := hb.handle_eq
  obtain ⟨hna, hr, hbl⟩ := AllocType.isLinear_iff.mp hb.isLinear
  have hle := c.info_wellFormed.npln_le
  have hpos := c.info_wellFormed.npln_pos
  unfold PrivateHandle.getNumPlanes
  rw [hmulti, hplanes]
  obtain h | h | h : c.info.npln = 1 ∨ c.info.npln = 2 ∨ c.info.npln = 3 := by omega
  · rw [h]
    rfl
  · have hzero : d'.planeInfo.p2.offset = 0 := congrArg PlaneInfo.offset
      ((of_derive_fresh (d := d) hb.choose hb.derived).2.2 2 (by decide) h.le)
    rw [h, hzero]
    rfl
  · -- the third plane starts after the first, which has samples
    have hchecks := (layer_eq_exact (d := d.fresh) hb.choose hb.derived hb.fits.bounds).2.2.1
    have hne : Exact.start c.info c.allocType d.usage
        (Exact.dims c.format (prepared caps node d.fresh)).1
        (Exact.dims c.format (prepared caps node d.fresh)).2 2 ≠ 0 :=
      (start_two_iff (d := d.fresh) hna h (Exact.covered_of_isLinear c.info_wellFormed c.info_mem
        hpos hb.isLinear (hchecks 0 hpos))).mpr ⟨hw, hh⟩
    have hget : (hnd.planeInfo.get 2).offset = Exact.start c.info c.allocType d.usage
        (Exact.dims c.format (prepared caps node d.fresh)).1
        (Exact.dims c.format (prepared caps node d.fresh)).2 2 :=
      congrArg PlaneInfo.offset (hb.planeInfo_get (by omega))
    have hp2 : d'.planeInfo.p2.offset ≠ 0 := by
      rw [← hplanes]
      exact hget.trans_ne hne
    rw [h, if_pos (by decide), if_neg hp2]

/-- **An address of chroma leads to its component.** -/
theorem LinearBuffer.leadsTo (hb : LinearBuffer displays caps node d d' c hnd)
    {q : ChromaPlaces} (hq : q ∈ chromaPlaces c.info.id) {type : ExtendableType} {plane byte : ℕ}
    (hplace : PlaceOf c.info type plane byte) (hplane : plane = 1 ∨ plane = 2) (base : ℕ) :
    LeadsTo base ((List.range hnd.getNumPlanes).map fun i =>
        ((plainComponents c.info.id).getD i [], layoutAt hnd c.info i)) type
      (base + (hnd.planeInfo.get plane).offset + byte) (hnd.planeInfo.get 1).byteStride q.step := by
  intro p hp k hk htype
  obtain ⟨i, hi, rfl⟩ := List.mem_map.mp hp
  have hlt := hb.lt_npln (List.mem_range.mp hi)
  obtain ⟨rfl, hoffset, hsize⟩ :=
    hplace.2 i (hlt.trans_le c.info_wellFormed.npln_le) k hk htype
  obtain ⟨hstride, hstep⟩ := hb.byteStride_eq hq hplane hlt
  refine ⟨hsize, fun y x => ?_⟩
  rw [hb.grid_layoutAt, hoffset, hstep, ← hstride, Layout.Grid.cell]
  push_cast
  ring

/-- The component is reported, of a buffer with pixels. -/
theorem LinearBuffer.exists_component (hb : LinearBuffer displays caps node d d' c hnd)
    (hw : d.width ≠ 0#32) (hh : d.height ≠ 0#32) {type : ExtendableType} {plane byte : ℕ}
    (hplace : PlaceOf c.info type plane byte) :
    ∃ p ∈ (List.range hnd.getNumPlanes).map fun i =>
        ((plainComponents c.info.id).getD i [], layoutAt hnd c.info i),
      ∃ k ∈ p.1, k.type = type := by
  obtain ⟨⟨hlt, k, hk, htype⟩, -⟩ := hplace
  refine ⟨_, List.mem_map_of_mem (List.mem_range.mpr ?_), k, hk, htype⟩
  rw [hb.getNumPlanes_eq hw hh]
  exact hlt

/-- The address of luma leads to the samples of the first plane. -/
theorem LinearBuffer.luma (hb : LinearBuffer displays caps node d d' c hnd)
    (hincrement : plainIncrement c.info 0 = 8 ∨ plainIncrement c.info 0 = 16) (base : ℕ) :
    ∀ p ∈ ((List.range hnd.getNumPlanes).map fun i =>
        ((plainComponents c.info.id).getD i [], layoutAt hnd c.info i))[0]?,
      ∃ n : ℕ, 0 < n ∧ p.2.sampleIncrementInBits = 8 * (n : ℤ) ∧ ∀ y x : ℕ,
        8 * ((base : ℤ) + y * (hnd.planeInfo.get 0).byteStride + x * n) =
          8 * base + p.2.grid.cell y x := by
  intro p hp
  have hpos : 0 < hnd.getNumPlanes := by
    rcases getNumPlanes_cases hnd with h | h | h <;> omega
  rw [List.getElem?_map, List.getElem?_range hpos, Option.map_some] at hp
  cases hp
  have hgrid := hb.grid_layoutAt 0
  have hzero : (hnd.planeInfo.get 0).offset = 0 := by
    rw [hb.planeInfo_get (hb.lt_npln hpos)]
    exact Exact.start_zero _ _ _ _ _
  obtain ⟨n, hn, heq⟩ : ∃ n, 0 < n ∧ plainIncrement c.info 0 = 8 * n := by
    rcases hincrement with h | h
    · exact ⟨1, one_pos, h⟩
    · exact ⟨2, two_pos, h⟩
  refine ⟨n, hn, ?_, fun y x => ?_⟩
  · refine (congrArg Layout.Grid.step hgrid).trans ?_
    exact_mod_cast congrArg Nat.cast heq
  · rw [hgrid, Layout.Grid.cell, hzero, heq]
    push_cast
    ring

end

/-! ### Agreement -/

section

variable {displays : Displays} {caps : Capabilities} {node : ℕ → Option DecoderPara}
  {d d' : BufferDescriptor} {c : Choice d.usage d.height} {k : Kernel}
  {hnd hnd' : ImportedHandle} {pid : ℤ} {usage : Usage} {l t w h : BitVec 32} {r : AndroidYcbcr}
  {syncs : List Sync}

/-- Synchronising does not move a mapping. -/
theorem bufferSync_base (direction : TxDirection) :
    (bufferSync k hnd direction).1.base = hnd.base := by
  unfold bufferSync
  split_ifs <;> rfl

end

/-! ### Three planes -/

def yv12Choice : Choice yv12.usage yv12.height := (choose .gpuOnly yv12).get (by decide)

def yv12Derived : BufferDescriptor :=
  { yv12 with
    size := 512
    allocFormat := ⟨.unorm, 0x10e#32, 0#32⟩
    pixelStride := 16
    planeInfo := ⟨⟨0, 16, 16, 16⟩, ⟨256, 16, 16, 8⟩, ⟨384, 16, 16, 8⟩⟩ }

/-- A handle of three planes, that the process 1 imported. -/
def yv12Imported : ImportedHandle :=
  { yv12Handle with
    ionDelayAlloc := 0#32
    needMmap := true
    lockCount := 0
    invalidWriteLocks := false
    cpuWrite := false
    importPid := 1
    base := none }

theorem linearBuffer_yv12 :
    LinearBuffer fullHd .gpuOnly noDecoder yv12 yv12Derived yv12Choice yv12Handle where
  choose := (Option.some_get _).symm
  derived := by decide +kernel
  fits := ⟨by decide, by decide, by decide +kernel, by decide +kernel, by decide +kernel⟩
  handle := by decide +kernel
  kept := ⟨yv12Derived, by decide +kernel, le_rfl⟩
  size := by decide +kernel
  layers := by decide
  plain := by decide

end Mapper

end Gralloc
