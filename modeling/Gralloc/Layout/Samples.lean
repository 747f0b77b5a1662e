import Gralloc.Idl.Entry
import Gralloc.Layout.Grid
import Gralloc.Mapper.Metadata

/-!
# Addressing the samples of a linear buffer

A client that maps a buffer finds its samples by what is reported of the planes: sample `x` of row
`y` of a plane starts `x` increments after `y` strides after the offset of the plane, and its
components are at the bits that are listed for the format. Such a buffer can be used
(`Gralloc.Mapper.Addressable`) when every component of every sample lies in the layer, and no two
of them share a bit.

The planes are grids of samples (`Gralloc.Mapper.PlaneLayout.grid`), and so this is a matter of the
rows fitting in their strides, of the planes following each other, and of the components fitting
in the increment. The first two hold of every layout that is computed without overflow. The last one
does not hold of three formats, which have the components of a pair or a square of pixels listed for
every pixel; of these no buffer with a pixel can be addressed as it is reported
(`Gralloc.Mapper.addressable_iff`).
-/

namespace Gralloc

namespace Mapper

open CInt

/-! ### Samples of the reported planes -/

/-- The samples of a plane, counted in bits. -/
def PlaneLayout.grid (l : PlaneLayout) : Layout.Grid ℤ where
  start := 8 * l.offsetInBytes
  pitch := 8 * l.strideInBytes
  step := l.sampleIncrementInBits
  rows := l.heightInSamples.toNat
  cols := l.widthInSamples.toNat

/-- The layouts of the planes, with their components. -/
abbrev DescribedLayouts : Type := List (List PlaneLayoutComponent × PlaneLayout)

/-- A component of a sample. -/
structure SampleSite where
  plane : ℕ
  row : ℕ
  column : ℕ
  component : ℕ
  deriving DecidableEq, Repr

/-- **A site has its bits**, by the layouts. -/
def SampleSite.HasBits (ls : DescribedLayouts) (s : SampleSite) (bits : Set ℤ) : Prop :=
  ∃ p ∈ ls[s.plane]?, ∃ c ∈ p.1[s.component]?, s.row < p.2.grid.rows ∧ s.column < p.2.grid.cols ∧
    bits = p.2.grid.span s.row s.column c.offsetInBits c.sizeInBits

/-- **The samples of a buffer can be addressed**, in a layer of so many bytes. -/
structure Addressable (layer : ℤ) (ls : DescribedLayouts) : Prop where
  inside : ∀ (s : SampleSite) (bits : Set ℤ), s.HasBits ls bits → bits ⊆ Set.Ico 0 (8 * layer)
  apart : ∀ (s s' : SampleSite) (bits bits' : Set ℤ), s ≠ s' → s.HasBits ls bits →
    s'.HasBits ls bits' → Disjoint bits bits'

/-- **Planes that are laid out well**: one after the other, with rows that fit in their strides and
components that fit in the increment. -/
structure WellLaid (layer : ℤ) (ls : DescribedLayouts) : Prop where
  proper : ∀ p ∈ ls, p.2.grid.Proper
  fits : ∀ p ∈ ls, ∀ c ∈ p.1, 0 ≤ c.offsetInBits ∧
    c.offsetInBits + c.sizeInBits ≤ p.2.sampleIncrementInBits
  ordered : ∀ p ∈ ls, p.1.Pairwise fun c c' => c.offsetInBits + c.sizeInBits ≤ c'.offsetInBits
  planes : ls.Pairwise fun p p' => p.2.grid.stop ≤ p'.2.grid.start
  inside : ∀ p ∈ ls, 0 ≤ p.2.grid.start ∧ p.2.grid.stop ≤ 8 * layer

section

variable {layer : ℤ} {ls : DescribedLayouts}

/-- The bits of a site are those of its plane. -/
theorem WellLaid.subset_extent (h : WellLaid layer ls) {s : SampleSite} {bits : Set ℤ}
    (hs : s.HasBits ls bits) : ∃ p ∈ ls[s.plane]?, bits ⊆ p.2.grid.extent := by
  obtain ⟨p, hp, c, hc, hrow, hcol, rfl⟩ := hs
  have hp' := List.mem_of_getElem? hp
  obtain ⟨h₀, h₁⟩ := h.fits p hp' c (List.mem_of_getElem? hc)
  exact ⟨p, hp, (h.proper p hp').span_subset hrow hcol h₀ h₁⟩

/-- Later planes are further on. -/
theorem WellLaid.disjoint_planes (h : WellLaid layer ls) {i j : ℕ} (hij : i < j)
    {p p' : List PlaneLayoutComponent × PlaneLayout} (hp : p ∈ ls[i]?) (hp' : p' ∈ ls[j]?) :
    Disjoint p.2.grid.extent p'.2.grid.extent := by
  obtain ⟨hi, rfl⟩ := List.getElem?_eq_some_iff.mp hp
  obtain ⟨hj, rfl⟩ := List.getElem?_eq_some_iff.mp hp'
  have hle := List.pairwise_iff_getElem.mp h.planes i j hi hj hij
  exact Set.Ico_disjoint_Ico.mpr ((min_le_left _ _).trans (hle.trans (le_max_right _ _)))

/-- **What is laid out well can be addressed.** -/
theorem WellLaid.addressable (h : WellLaid layer ls) : Addressable layer ls := by
  constructor
  · intro s bits hs
    obtain ⟨p, hp, hsub⟩ := h.subset_extent hs
    obtain ⟨h₀, h₁⟩ := h.inside p (List.mem_of_getElem? hp)
    exact hsub.trans (Set.Ico_subset_Ico h₀ h₁)
  · intro s s' bits bits' hne hs hs'
    obtain ⟨q, hq, hsub⟩ := h.subset_extent hs
    obtain ⟨q', hq', hsub'⟩ := h.subset_extent hs'
    rcases lt_trichotomy s.plane s'.plane with hlt | heq | hlt
    · exact (h.disjoint_planes hlt hq hq').mono hsub hsub'
    · -- two samples of a plane, or two components of a sample
      obtain ⟨p, hp, c, hc, hrow, hcol, rfl⟩ := hs
      obtain ⟨p', hp', c', hc', hrow', hcol', rfl⟩ := hs'
      rw [← heq] at hp'
      cases Option.mem_unique hp hp'
      have hmem := List.mem_of_getElem? hp
      obtain ⟨h₀, h₁⟩ := h.fits p hmem c (List.mem_of_getElem? hc)
      obtain ⟨h₀', h₁'⟩ := h.fits p hmem c' (List.mem_of_getElem? hc')
      by_cases hcell : (s.row, s.column) = (s'.row, s'.column)
      · obtain ⟨hr, hcl⟩ := Prod.mk.inj hcell
        have hcomp : s.component ≠ s'.component := by
          intro hcomp
          cases s
          cases s'
          exact hne (by simp_all)
        rw [hr, hcl]
        obtain ⟨hi, rfl⟩ := List.getElem?_eq_some_iff.mp hc
        obtain ⟨hj, rfl⟩ := List.getElem?_eq_some_iff.mp hc'
        have hpair := List.pairwise_iff_getElem.mp (h.ordered p hmem)
        rcases hcomp.lt_or_gt with hlt | hlt
        · exact Layout.Grid.disjoint_span_of_le (hpair _ _ hi hj hlt)
        · exact (Layout.Grid.disjoint_span_of_le (hpair _ _ hj hi hlt)).symm
      · exact (h.proper p hmem).disjoint_span hcol hcol' h₀ h₁ h₀' h₁' hcell
    · exact (h.disjoint_planes hlt hq' hq).symm.mono hsub hsub'

end

/-! ### Components of formats without modifiers -/

/-- The FourCC code of a format without modifiers. -/
def plainFourcc (base : PixelFormat) : BitVec 32 :=
  ((drmFourccs.find? fun e => e.1 == base).map Prod.snd).getD drmFormatInvalid

/-- Packed raw samples, which have no increment. -/
def isPackedRaw (base : PixelFormat) : Bool := [PixelFormat.raw10, .raw12].contains base

/-- The components of a format without modifiers. -/
def plainComponents (base : PixelFormat) : List (List PlaneLayoutComponent) :=
  if base = .depth16 then [[.depth 0 16]]
  else if base = .depth24Stencil8 then [[.depth 0 24, .stencil 24 8]]
  else if base = .depth24Stencil8Afbc then [[.depth 0 24], [.stencil 0 8]]
  else if base = .depth32f then [[.depth 0 32]]
  else if isPackedRaw base = true then [[.raw 0 (-1)]]
  else if plainFourcc base ≠ drmFormatInvalid then
    (componentTable.lookup (plainFourcc base)).getD []
  else []

/-- The increment of a format without modifiers. -/
def plainIncrement (f : FormatInfo) (plane : ℕ) : ℕ :=
  if isPackedRaw f.id then 0 else f.bpp.get plane

/-- **The formats of pairs and squares of pixels**: their components are those of several pixels,
and their increment is that of one. -/
def isPacked (f : FormatInfo) : Bool :=
  [PixelFormat.yuv422_8bit, .y0l2, .y210].contains f.id

section

variable {hnd : PrivateHandle} {f : FormatInfo}

/-- No modifier, and so none of the layouts that they ask for. -/
theorem not_isCompressed_of_plain {a : InternalFormat} (h : a.hasModifiers = false) :
    a.isAfbc = false ∧ a.isAfrc = false ∧ a.isBlockLinear = false := by
  have hzero : a.modifiers = 0#32 := by simpa [InternalFormat.hasModifiers] using h
  simp [InternalFormat.isAfbc, InternalFormat.isAfrc, InternalFormat.isBlockLinear,
    InternalFormat.getModifier, hzero]

theorem drmFourccFromHandle_of_plain (h : hnd.allocFormat.hasModifiers = false) :
    drmFourccFromHandle hnd = plainFourcc hnd.allocFormat.getBase := by
  obtain ⟨hafbc, hafrc, -⟩ := not_isCompressed_of_plain h
  simp only [drmFourccFromHandle, plainFourcc, hafrc, hafbc, Bool.false_and, Bool.false_eq_true,
    if_false]
  cases drmFourccs.find? fun e => e.1 == hnd.allocFormat.getBase with
  | none => rfl
  | some e => rfl

theorem planeLayoutComponents_of_plain (h : hnd.allocFormat.hasModifiers = false) :
    planeLayoutComponents hnd = plainComponents hnd.allocFormat.getBase := by
  cases hraw : [PixelFormat.raw10, .raw12].contains hnd.allocFormat.getBase <;>
    simp only [planeLayoutComponents, plainComponents, isPackedRaw, h, hraw, true_and,
      drmFourccFromHandle_of_plain h]

theorem sampleIncrement_of_plain (h : hnd.allocFormat.hasModifiers = false)
    (hf : f.id = hnd.allocFormat.getBase) (plane : ℕ) :
    sampleIncrement hnd f plane = plainIncrement f plane := by
  obtain ⟨hafbc, -, -⟩ := not_isCompressed_of_plain h
  unfold sampleIncrement plainIncrement isPackedRaw
  rw [hf, h, hafbc]
  cases [PixelFormat.raw10, .raw12].contains hnd.allocFormat.getBase <;> rfl

/-- The components are listed one after the other. -/
theorem plainComponents_ordered : ∀ f ∈ formats, ∀ i < 3,
    ((plainComponents f.id).getD i []).Pairwise
      fun c c' => c.offsetInBits + c.sizeInBits ≤ c'.offsetInBits := by
  decide

/-- **Components fit in the increment**, of formats that are not of several pixels. -/
theorem plainComponents_fit : ∀ f ∈ formats, f.linear = true → isPacked f = false → ∀ i < 3,
    ∀ c ∈ (plainComponents f.id).getD i [],
      0 ≤ c.offsetInBits ∧ c.offsetInBits + c.sizeInBits ≤ plainIncrement f i := by
  decide

/-- **In the others** the third component overlaps the first one of the next sample. -/
theorem plainComponents_overlap : ∀ f ∈ formats, isPacked f = true →
    f.alignW = 2 ∧ ∃ cs ∈ (plainComponents f.id)[0]?, ∃ c ∈ cs[0]?, ∃ c' ∈ cs[2]?,
      0 < c.sizeInBits ∧ 0 < c'.sizeInBits ∧
      c'.offsetInBits < (plainIncrement f 0 : ℤ) + c.offsetInBits + c.sizeInBits ∧
        (plainIncrement f 0 : ℤ) + c.offsetInBits < c'.offsetInBits + c'.sizeInBits := by
  decide

end

/-! ### Linear buffers -/

section

variable (displays : Displays) (caps : Capabilities) (node : ℕ → Option DecoderPara)
  (d d' : BufferDescriptor) (c : Choice d.usage d.height) (hnd : PrivateHandle)

/-- **A linear buffer** of a request: the handle `hnd` is of the descriptor `d'` that was derived
from it without overflow, as one of a format without modifiers. -/
structure LinearBuffer : Prop where
  choose : choose caps d.fresh = some c
  derived : deriveFormatAndSize wrapping caps node d.fresh = .ok (.success, d')
  fits : SizesFit caps node d.fresh c
  handle : makePrivateHandle (d'.final displays) = some hnd
  /-- A frame buffer is not given a smaller size. -/
  kept : SizeKept displays d'
  size : (d'.final displays).size < 2 ^ 31
  layers : 1 ≤ hnd.layerCount
  plain : hnd.allocFormat.hasModifiers = false

end

namespace LinearBuffer

variable {displays : Displays} {caps : Capabilities} {node : ℕ → Option DecoderPara}
  {d d' : BufferDescriptor} {c : Choice d.usage d.height} {hnd : PrivateHandle}
  (hb : LinearBuffer displays caps node d d' c hnd)

include hb

theorem handle_eq :
    hnd.allocFormat = c.format ∧ hnd.planeInfo = d'.planeInfo ∧
      hnd.size = (d'.final displays).size ∧ hnd.layerCount = toInt d.layerCount.toNat ∧
      hnd.isMultiPlane = decide (c.info.npln > 1) := by
  have hderived : d'.allocFormat = c.format :=
    allocFormat_of_success (d := d.fresh) hb.choose hb.derived
  have hformat : (d'.final displays).allocFormat = c.format := by
    rw [final_eq]
    exact hderived
  have hinfo : (d'.final displays).allocFormat.getBaseInfo = some c.info := by
    rw [hformat]
    exact c.info_eq
  have hplanes : (d'.final displays).planeInfo = d'.planeInfo := by rw [final_eq]
  have hlayers : (d'.final displays).layerCount = d.layerCount := by
    rw [final_eq]
    exact layerCount_of_fresh (fresh_of_derive hb.derived)
  have hhnd := (makePrivateHandle_eq_some hinfo).mp hb.handle
  have hsize := toInt_of_lt hb.size
  rw [hhnd, ← hlayers]
  dsimp only
  exact ⟨hformat, hplanes, hsize, rfl, rfl⟩

theorem base_eq : c.info.id = hnd.allocFormat.getBase := by
  rw [hb.handle_eq.1]
  exact id_of_getFormatInfo c.info_eq

theorem getBaseInfo_eq : hnd.allocFormat.getBaseInfo = some c.info := by
  rw [hb.handle_eq.1]
  exact c.info_eq

/-- Its allocation is linear. -/
theorem isLinear : c.allocType.isLinear = true := by
  obtain ⟨hafbc, hafrc, hbl⟩ := not_isCompressed_of_plain (hb.handle_eq.1 ▸ hb.plain)
  have ht := c.allocType_eq
  simp only [getAllocType, c.info_eq, Option.bind_some, hafbc, hafrc, Bool.false_eq_true, if_false,
    Option.some.injEq] at ht
  rw [← ht]
  simp [AllocType.isLinear, AllocType.isAfbc, AllocType.isAfrc, AllocType.isBlockLinear,
    getUncompressedAllocType, hbl]

theorem info_linear : c.info.linear = true :=
  (supported_of_validateFormat c.valid).2.2.2 hb.isLinear

/-- Its planes are those of the exact layout. -/
theorem planeInfo_get {i : ℕ} (hi : i < c.info.npln) :
    hnd.planeInfo.get i = Exact.plane c.info c.allocType d.usage
      (Exact.dims c.format (prepared caps node d.fresh)).1
      (Exact.dims c.format (prepared caps node d.fresh)).2 i := by
  rw [hb.handle_eq.2.1, (layer_eq_exact (d := d.fresh) hb.choose hb.derived hb.fits.bounds).1]
  exact Exact.layer_get c _ 0 hi

/-- The handle has no more planes than the format. -/
theorem lt_npln {i : ℕ} (hi : i < hnd.getNumPlanes) : i < c.info.npln := by
  obtain ⟨-, hplanes, -, -, hmulti⟩ := hb.handle_eq
  have hlast : hnd.getNumPlanes - 1 < c.info.npln := by
    refine lastPlane_lt c.info_wellFormed.npln_pos hmulti fun hn => ?_
    rw [hplanes]
    exact congrArg PlaneInfo.offset
      ((of_derive_fresh (d := d) hb.choose hb.derived).2.2 2 (by decide) hn)
  omega

/-- **Its planes hold what their rows need**: a row fits in its stride, and the rows in the share of
the plane. -/
theorem covered {i : ℕ} (hi : i < c.info.npln) :
    (hnd.planeInfo.get i).allocWidth * c.info.bpp.get i ≤ (hnd.planeInfo.get i).byteStride * 8 ∧
      (hnd.planeInfo.get i).byteStride * (hnd.planeInfo.get i).allocHeight ≤
        Exact.share c.info c.allocType d.usage (Exact.dims c.format (prepared caps node d.fresh)).1
          (Exact.dims c.format (prepared caps node d.fresh)).2 i := by
  obtain ⟨-, hr, -⟩ := AllocType.isLinear_iff.mp hb.isLinear
  have hchecks := (layer_eq_exact (d := d.fresh) hb.choose hb.derived hb.fits.bounds).2.2.1 i hi
  have hcov := Exact.covered_of_isLinear (h := (Exact.dims c.format (prepared caps node d.fresh)).2)
    c.info_wellFormed c.info_mem hi hb.isLinear hchecks
  have hneed := hcov.need
  rw [Exact.planeNeed, if_neg hr] at hneed
  rw [hb.planeInfo_get hi]
  exact ⟨hcov.stride hr, hneed.trans (Nat.le_add_right _ _)⟩

/-- Its planes follow each other. -/
theorem end_le_offset {i j : ℕ} (hij : i < j) (hj : j < c.info.npln) :
    (hnd.planeInfo.get i).offset +
        (hnd.planeInfo.get i).byteStride * (hnd.planeInfo.get i).allocHeight ≤
      (hnd.planeInfo.get j).offset := by
  have hshare := (hb.covered (hij.trans hj)).2
  have hend := Exact.start_add_share_le_total d.usage
    (Exact.dims c.format (prepared caps node d.fresh)).1
    (Exact.dims c.format (prepared caps node d.fresh)).2 c.allocType_wellFormed hij
  have hstart := Exact.total_le_start d.usage (Exact.dims c.format (prepared caps node d.fresh)).1
    (Exact.dims c.format (prepared caps node d.fresh)).2 c.allocType_wellFormed j
  have hi : (hnd.planeInfo.get i).offset = Exact.start c.info c.allocType d.usage
      (Exact.dims c.format (prepared caps node d.fresh)).1
      (Exact.dims c.format (prepared caps node d.fresh)).2 i :=
    congrArg PlaneInfo.offset (hb.planeInfo_get (hij.trans hj))
  have hj : (hnd.planeInfo.get j).offset = Exact.start c.info c.allocType d.usage
      (Exact.dims c.format (prepared caps node d.fresh)).1
      (Exact.dims c.format (prepared caps node d.fresh)).2 j :=
    congrArg PlaneInfo.offset (hb.planeInfo_get hj)
  omega

/-- **And they end in the layer** that the handle has for them. -/
theorem end_le_layerSize {i : ℕ} (hi : i < c.info.npln) :
    (((hnd.planeInfo.get i).offset +
        (hnd.planeInfo.get i).byteStride * (hnd.planeInfo.get i).allocHeight : ℕ) : ℤ) ≤
      layerSize hnd := by
  obtain ⟨-, hplanes, hsize, hlayers, -⟩ := hb.handle_eq
  obtain ⟨layer, hlayer, hend⟩ := hb.fits.layer (d := d.fresh) hb.choose hb.derived
  have hcount := (one_le_toInt_iff d.layerCount).mp (hlayers ▸ hb.layers)
  have hcount' : hnd.layerCount = d.layerCount.toNat := hlayers.trans (toInt_of_lt hcount.2)
  obtain ⟨d'', hfinal, hkept⟩ := hb.kept
  rw [finalDescriptor_wrapping, Except.ok.injEq] at hfinal
  have hfits : layer * d.layerCount.toNat ≤ (d'.final displays).size := by
    have hmax : max 1 d.fresh.layerCount.toNat = d.layerCount.toNat := max_eq_right hcount.1
    rw [← hmax, ← hlayer, BufferDescriptor.final, hfinal]
    exact hkept
  have hle : (hnd.planeInfo.get i).offset +
      (hnd.planeInfo.get i).byteStride * (hnd.planeInfo.get i).allocHeight ≤ layer := by
    have hplane := hend i hi
    have hshare := (hb.covered hi).2
    rw [← hplanes] at hplane
    exact (Nat.add_le_add_left hshare _).trans hplane
  have hhi := hb.size
  rw [layerSize_eq hb.layers (by omega) (by omega), hsize, hcount']
  refine (Int.ofNat_le.mpr hle).trans ((le_tdiv_iff (Int.natCast_nonneg _) ?_).mpr (Or.inl ?_))
  · exact Int.ofNat_le.mpr hcount.1
  · exact_mod_cast hfits

/-- **What is reported** of its planes. -/
theorem describedPlaneLayouts_eq :
    describedPlaneLayouts hnd = .ok (.ok ((List.range hnd.getNumPlanes).map fun i =>
      ((plainComponents c.info.id).getD i [], layoutAt hnd c.info i))) := by
  have hl : hnd.layerCount ≠ 0 := by
    have := hb.layers
    omega
  rw [describedPlaneLayouts_of_layers hb.getBaseInfo_eq hl, planeLayoutComponents_of_plain hb.plain,
    ← hb.base_eq]

/-- The samples of a reported plane. -/
theorem grid_layoutAt (i : ℕ) :
    (layoutAt hnd c.info i).grid =
      { start := 8 * (hnd.planeInfo.get i).offset
        pitch := 8 * (hnd.planeInfo.get i).byteStride
        step := plainIncrement c.info i
        rows := (hnd.planeInfo.get i).allocHeight
        cols := (hnd.planeInfo.get i).allocWidth } := by
  rw [PlaneLayout.grid, layoutAt, sampleIncrement_of_plain hb.plain hb.base_eq]
  simp only [Int.toNat_natCast]

theorem stop_layoutAt (i : ℕ) :
    (layoutAt hnd c.info i).grid.stop =
      8 * (((hnd.planeInfo.get i).offset +
        (hnd.planeInfo.get i).byteStride * (hnd.planeInfo.get i).allocHeight : ℕ) : ℤ) := by
  rw [Layout.Grid.stop, hb.grid_layoutAt]
  push_cast
  ring

/-- Its rows fit in their strides. -/
theorem proper_layoutAt {i : ℕ} (hi : i < c.info.npln) :
    (layoutAt hnd c.info i).grid.Proper := by
  rw [hb.grid_layoutAt]
  refine ⟨Int.natCast_nonneg _, ?_⟩
  have hle : plainIncrement c.info i ≤ c.info.bpp.get i := by
    unfold plainIncrement
    split_ifs
    · exact Nat.zero_le _
    · exact le_rfl
  have hrow := (hb.covered hi).1
  have hmul := Nat.mul_le_mul_left (hnd.planeInfo.get i).allocWidth hle
  dsimp only
  exact_mod_cast (hmul.trans hrow).trans_eq (Nat.mul_comm _ _)

/-- **The planes are laid out well**, of a format whose components are those of a pixel. -/
theorem wellLaid (hp : isPacked c.info = false) :
    WellLaid (layerSize hnd) ((List.range hnd.getNumPlanes).map fun i =>
      ((plainComponents c.info.id).getD i [], layoutAt hnd c.info i)) := by
  have hmem {P : List PlaneLayoutComponent × PlaneLayout → Prop}
      (h : ∀ i < c.info.npln, P ((plainComponents c.info.id).getD i [], layoutAt hnd c.info i)) :
      ∀ p ∈ (List.range hnd.getNumPlanes).map fun i =>
        ((plainComponents c.info.id).getD i [], layoutAt hnd c.info i), P p := by
    intro p hp
    obtain ⟨i, hi, rfl⟩ := List.mem_map.mp hp
    exact h i (hb.lt_npln (List.mem_range.mp hi))
  have hle {i : ℕ} (hi : i < c.info.npln) : i < 3 := hi.trans_le c.info_wellFormed.npln_le
  constructor
  · exact hmem fun i hi => hb.proper_layoutAt hi
  · refine hmem fun i hi k hk => ?_
    obtain ⟨h₀, h₁⟩ := plainComponents_fit _ c.info_mem hb.info_linear hp i (hle hi) k hk
    refine ⟨h₀, h₁.trans_eq ?_⟩
    exact congrArg Layout.Grid.step (hb.grid_layoutAt i).symm
  · exact hmem fun i hi => plainComponents_ordered _ c.info_mem i (hle hi)
  · rw [List.pairwise_map]
    refine List.pairwise_lt_range.imp_of_mem fun {i j} _ hj hij => ?_
    rw [hb.stop_layoutAt, hb.grid_layoutAt]
    have hend := hb.end_le_offset hij (hb.lt_npln (List.mem_range.mp hj))
    dsimp only
    omega
  · refine hmem fun i hi => ?_
    rw [hb.stop_layoutAt, hb.grid_layoutAt]
    have hend := hb.end_le_layerSize hi
    dsimp only
    omega

/-- **Without a pixel** there are no samples. -/
theorem no_samples (h₀ : d.width = 0#32 ∨ d.height = 0#32) {i : ℕ} (hi : i < c.info.npln) :
    (hnd.planeInfo.get i).allocWidth = 0 ∨ (hnd.planeInfo.get i).allocHeight = 0 := by
  have hafbc : c.format.isAfbc ≠ true := by
    rw [← c.isAfbc_eq]
    exact (AllocType.isLinear_iff.mp hb.isLinear).1
  obtain ⟨hw, hh⟩ := Exact.dims_pos_iff c.format (prepared caps node d.fresh) hafbc
  rw [prepared_width] at hw
  rw [prepared_height] at hh
  rw [hb.planeInfo_get hi]
  rcases h₀ with h₀ | h₀
  · have hzero : (Exact.dims c.format (prepared caps node d.fresh)).1 = 0 := by
      by_contra hne
      exact hw.mp (Nat.pos_of_ne_zero hne) h₀
    left
    simp [Exact.plane, Exact.width, Exact.baseWidth, hzero]
  · have hzero : (Exact.dims c.format (prepared caps node d.fresh)).2 = 0 := by
      by_contra hne
      exact hh.mp (Nat.pos_of_ne_zero hne) h₀
    right
    simp [Exact.plane, Exact.height, Exact.baseHeight, hzero]

/-- **Two samples of pairs of pixels** share a bit. -/
theorem not_addressable (hp : isPacked c.info = true) (hw : d.width ≠ 0#32)
    (hh : d.height ≠ 0#32) :
    ¬Addressable (layerSize hnd) ((List.range hnd.getNumPlanes).map fun i =>
      ((plainComponents c.info.id).getD i [], layoutAt hnd c.info i)) := by
  obtain ⟨halign, cs, hcs, k, hk, k', hk', hsize, hsize', hlt, hlt'⟩ :=
    plainComponents_overlap _ c.info_mem hp
  have hpos := c.info_wellFormed.npln_pos
  obtain ⟨hwidth, hheight⟩ := base_le_plane caps node (d := d.fresh) c 0
  rw [Exact.baseWidth_zero, halign] at hwidth
  rw [Exact.baseHeight_zero] at hheight
  have hw₀ : 0 < d.width.toNat := Nat.pos_of_ne_zero fun h => hw (BitVec.eq_of_toNat_eq h)
  have hh₀ : 0 < d.height.toNat := Nat.pos_of_ne_zero fun h => hh (BitVec.eq_of_toNat_eq h)
  have hcols : 2 ≤ (hnd.planeInfo.get 0).allocWidth := by
    rw [hb.planeInfo_get hpos]
    exact (le_trans (Nat.le_of_dvd (alignUp_pos two_pos hw₀) (dvd_alignUp _ _)) hwidth)
  have hrows : 0 < (hnd.planeInfo.get 0).allocHeight := by
    rw [hb.planeInfo_get hpos]
    exact (alignUp_pos c.info_wellFormed.alignH_pos hh₀).trans_le hheight
  have hgrid := hb.grid_layoutAt 0
  have hplane : ((List.range hnd.getNumPlanes).map fun i =>
      ((plainComponents c.info.id).getD i [], layoutAt hnd c.info i))[0]? =
        some (cs, layoutAt hnd c.info 0) := by
    have hzero : 0 < hnd.getNumPlanes := by
      rcases getNumPlanes_cases hnd with h | h | h <;> omega
    have hcomps : (plainComponents c.info.id).getD 0 [] = cs := by
      rw [List.getD_eq_getElem?_getD, Option.mem_def.mp hcs, Option.getD_some]
    rw [List.getElem?_map, List.getElem?_range hzero, Option.map_some, hcomps]
  intro h
  -- the third component of the first sample, and the first one of the second sample
  have hdisjoint := h.apart ⟨0, 0, 0, 2⟩ ⟨0, 0, 1, 0⟩ _ _ (by decide)
    ⟨_, hplane, k', hk', by rw [hgrid]; exact hrows, by rw [hgrid]; exact two_pos.trans_le hcols,
      rfl⟩
    ⟨_, hplane, k, hk, by rw [hgrid]; exact hrows, by rw [hgrid]; exact hcols, rfl⟩
  rw [Layout.Grid.span, Layout.Grid.span, Set.Ico_disjoint_Ico, hgrid] at hdisjoint
  simp only [Layout.Grid.cell, Nat.cast_zero, Nat.cast_one, zero_mul, one_mul, add_zero]
    at hdisjoint
  omega

end LinearBuffer

/-- **A linear buffer can be addressed by what is reported of it**, exactly when its format is not
of pairs or squares of pixels, or it has no pixels. -/
theorem addressable_iff {displays : Displays} {caps : Capabilities} {node : ℕ → Option DecoderPara}
    {d d' : BufferDescriptor} {c : Choice d.usage d.height} {hnd : PrivateHandle}
    (hb : LinearBuffer displays caps node d d' c hnd) :
    (∃ ls, describedPlaneLayouts hnd = .ok (.ok ls) ∧ Addressable (layerSize hnd) ls) ↔
      (isPacked c.info = true → d.width = 0#32 ∨ d.height = 0#32) := by
  rw [hb.describedPlaneLayouts_eq]
  constructor
  · rintro ⟨ls, hls, h⟩ hp
    cases hls
    by_contra! hne
    exact hb.not_addressable hp hne.1 hne.2 h
  · intro h
    refine ⟨_, rfl, ?_⟩
    by_cases hp : isPacked c.info = true
    · have hno {s : SampleSite} {bits : Set ℤ} (hs : s.HasBits ((List.range
          hnd.getNumPlanes).map fun i =>
            ((plainComponents c.info.id).getD i [], layoutAt hnd c.info i)) bits) : False := by
        obtain ⟨p, hpl, k, -, hrow, hcol, -⟩ := hs
        obtain ⟨i, hi, rfl⟩ := List.mem_map.mp (List.mem_of_getElem? hpl)
        rw [hb.grid_layoutAt] at hrow hcol
        rcases hb.no_samples (h hp) (hb.lt_npln (List.mem_range.mp hi)) with h₀ | h₀
        · exact absurd hcol (by simp [h₀])
        · exact absurd hrow (by simp [h₀])
      exact ⟨fun _ _ hs => (hno hs).elim, fun _ _ _ _ _ hs => (hno hs).elim⟩
    · exact (hb.wellLaid (Bool.eq_false_of_not_eq_true hp)).addressable

/-! ### A pair of pixels -/

/-- 2 × 1 pixels of YUYV for the CPU. -/
def pairOfPixels : BufferDescriptor := .request 2#32 1#32 0x33#64 0x14#64 1#32

def pairChoice : Choice pairOfPixels.usage pairOfPixels.height :=
  (choose .gpuOnly pairOfPixels).get (by decide)

/-- The descriptor that is derived: a row of four bytes. -/
def pairDerived : BufferDescriptor :=
  { pairOfPixels with
    size := 4
    allocFormat := ⟨.unorm, 0x102#32, 0#32⟩
    pixelStride := 2
    planeInfo := PlaneLayout.zero.set 0 ⟨0, 4, 2, 1⟩ }

def pairHandle : PrivateHandle where
  size := 4
  consumerUsage := 0x33#64
  producerUsage := 0x33#64
  reqFormat := 0x14
  allocFormat := ⟨.unorm, 0x102#32, 0#32⟩
  width := 2
  height := 1
  layerCount := 1
  planeInfo := PlaneLayout.zero.set 0 ⟨0, 4, 2, 1⟩
  stride := 2
  isMultiPlane := false

theorem linearBuffer_pair :
    LinearBuffer fullHd .gpuOnly noDecoder pairOfPixels pairDerived pairChoice pairHandle where
  choose := (Option.some_get _).symm
  derived := by decide +kernel
  fits := ⟨by decide, by decide, by decide, by decide, by decide +kernel⟩
  handle := by decide +kernel
  kept := ⟨pairDerived, by decide +kernel, le_rfl⟩
  size := by decide +kernel
  layers := by decide
  plain := by decide

/-- The pair is reported as two samples of four bytes, in two bytes each. -/
theorem addressable_iff_pair :
    ¬∃ ls, describedPlaneLayouts pairHandle = .ok (.ok ls) ∧
      Addressable (layerSize pairHandle) ls := by
  rw [addressable_iff linearBuffer_pair]
  decide

end Mapper

end Gralloc
