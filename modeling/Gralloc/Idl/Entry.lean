import Gralloc.Aidl.Allocate
import Gralloc.Hidl.FromDescriptor

/-!
# Handles without layers

A mapper that makes a descriptor refuses one without layers (`Gralloc.validateDescriptorInfo`).
The services behind it do not look: bytes that no mapper encoded are decoded, a record of
the AIDL interface is copied, and a question about a buffer that is not there yet makes a
handle of whatever was asked (`Gralloc.EntryPoint`). The derivation takes no layers for one
layer, and the handle keeps the number as it came, in an `int`.

Asked for the layout of its planes, the handle is divided by that number. So it may be asked
exactly when the number is positive as an `int`, and when the size in the handle reaches as
far as the last plane starts (`Gralloc.queriesSafe_iff`). The size that was derived does, unless
it has overflowed (`Gralloc.lastPlaneInside_of_sizesFit`); the one that a frame buffer gets instead
need not. Of a request without overflow this decides (`Gralloc.safe_iff_of_fits`).
-/

namespace Gralloc

open CInt Mapper

/-! ### What the last plane needs -/

namespace Mapper

/-- **A handle may be asked** for the layout of its planes: it has layers to divide the size
by, and the last plane is reported with a size that is not negative. -/
structure QueriesSafe (hnd : PrivateHandle) : Prop where
  layers : 1 ≤ hnd.layerCount
  last : ∃ layouts, getPlaneLayouts wrapping hnd = .ok (.ok layouts) ∧
    ∀ l ∈ layouts.getLast?, 0 ≤ l.totalSizeInBytes

/-- **The size reaches the start of the last plane** in every layer; a plane that starts at
zero makes do with less than a byte a layer, on either side. -/
def LastPlaneInside (hnd : PrivateHandle) : Prop :=
  let start : ℤ := (hnd.planeInfo.get (hnd.getNumPlanes - 1)).offset
  start * hnd.layerCount ≤ hnd.size ∨ start = 0 ∧ -hnd.layerCount < hnd.size

section

variable {hnd : PrivateHandle}

/-- What a truncated quotient is at least. -/
theorem le_tdiv_iff {o s l : ℤ} (ho : 0 ≤ o) (hl : 1 ≤ l) :
    o ≤ s.tdiv l ↔ o * l ≤ s ∨ o = 0 ∧ -l < s := by
  rcases le_or_gt 0 s with hs | hs
  · rw [Int.tdiv_eq_ediv_of_nonneg hs, Int.le_ediv_iff_mul_le (by omega)]
    refine ⟨Or.inl, ?_⟩
    rintro (h | ⟨rfl, -⟩)
    · exact h
    · rwa [zero_mul]
  · -- below zero the quotient is rounded up
    have hneg : s.tdiv l = -((-s) / l) := by
      rw [← Int.tdiv_eq_ediv_of_nonneg (show 0 ≤ -s by omega), Int.neg_tdiv, neg_neg]
    have hquot : 0 ≤ -s / l := Int.ediv_nonneg (by omega) (by omega)
    have hmul : 0 ≤ o * l := mul_nonneg ho (by omega)
    rw [hneg]
    constructor
    · intro h
      have hzero : -s / l = 0 := by omega
      have hlt : -s < 1 * l := (Int.ediv_lt_iff_lt_mul (by omega)).mp (by omega)
      exact Or.inr ⟨by omega, by omega⟩
    · rintro (h | ⟨rfl, h⟩)
      · omega
      · rw [Int.ediv_eq_zero_of_lt (by omega) (by omega), neg_zero]

/-- Dividing an `int` by layers gives an `int`. -/
theorem layerSize_eq (hl : 1 ≤ hnd.layerCount) (hlo : -2 ^ 31 ≤ hnd.size)
    (hhi : hnd.size < 2 ^ 31) : layerSize hnd = hnd.size.tdiv hnd.layerCount := by
  have habs : (hnd.size.tdiv hnd.layerCount).natAbs ≤ hnd.size.natAbs := by
    rw [Int.natAbs_tdiv]
    exact Nat.div_le_self _ _
  have hneg : hnd.size ≤ 0 → hnd.size.tdiv hnd.layerCount ≤ 0 := by
    intro h
    have hquot : 0 ≤ (-hnd.size).tdiv hnd.layerCount := Int.tdiv_nonneg (by omega) (by omega)
    rw [Int.neg_tdiv] at hquot
    omega
  exact Int.bmod_eq_of_le_mul_two (by omega) (by omega)

/-- **When a handle may be asked**, for one whose format has properties and whose size is an
`int`. -/
theorem queriesSafe_iff_of_format {f : FormatInfo} (hf : hnd.allocFormat.getBaseInfo = some f)
    (hlo : -2 ^ 31 ≤ hnd.size) (hhi : hnd.size < 2 ^ 31) :
    QueriesSafe hnd ↔ 1 ≤ hnd.layerCount ∧ LastPlaneInside hnd := by
  have hpos : 0 < hnd.getNumPlanes := by
    rcases getNumPlanes_cases hnd with h | h | h <;> omega
  have hlast (hl : 1 ≤ hnd.layerCount) :
      (∀ l ∈ ((List.range hnd.getNumPlanes).map (layoutAt hnd f)).getLast?,
        0 ≤ l.totalSizeInBytes) ↔ LastPlaneInside hnd := by
    have hrange : (List.range hnd.getNumPlanes).getLast? = some (hnd.getNumPlanes - 1) := by
      rw [List.getLast?_range, if_neg (by omega)]
    rw [List.getLast?_map, hrange]
    simp only [Option.map_some, Option.mem_def, Option.some.injEq, forall_eq', layoutAt,
      lt_irrefl, if_false, layerSize_eq hl hlo hhi, Int.sub_nonneg]
    exact le_tdiv_iff (Int.natCast_nonneg _) hl
  have hget (hl : 1 ≤ hnd.layerCount) :=
    getPlaneLayouts_of_layers hnd hf (show hnd.layerCount ≠ 0 by omega)
  constructor
  · rintro ⟨hl, layouts, hrun, hsize⟩
    cases (hget hl).symm.trans hrun
    exact ⟨hl, (hlast hl).mp hsize⟩
  · rintro ⟨hl, hin⟩
    exact ⟨hl, _, hget hl, (hlast hl).mpr hin⟩

end

end Mapper

/-! ### Sizes that reach -/

section

variable {displays : Displays} {caps : Capabilities} {node : ℕ → Option DecoderPara}
  {d d' : BufferDescriptor} {hnd : PrivateHandle}

/-- The layers of a request are not derived. -/
theorem layerCount_of_fresh (h : d'.fresh = d.fresh) : d'.layerCount = d.layerCount := by
  change d'.fresh.layerCount = d.fresh.layerCount
  rw [h]

/-- The last plane of a handle is one that its format has. -/
theorem lastPlane_lt {n : ℕ} (hpos : 0 < n) (hmulti : hnd.isMultiPlane = decide (n > 1))
    (hzero : n ≤ 2 → hnd.planeInfo.p2.offset = 0) : hnd.getNumPlanes - 1 < n := by
  unfold PrivateHandle.getNumPlanes
  rw [hmulti]
  split_ifs with hn hp
  · have := of_decide_eq_true hn
    omega
  · have : ¬n ≤ 2 := fun h => hp (hzero h)
    omega
  · omega

/-- Where the last plane of a request starts, exactly. -/
def lastStart (caps : Capabilities) (node : ℕ → Option DecoderPara) (d : BufferDescriptor)
    (c : Choice d.usage d.height) : ℕ :=
  Exact.start c.info c.allocType d.usage (Exact.dims c.format (prepared caps node d)).1
    (Exact.dims c.format (prepared caps node d)).2 (c.info.npln - 1)

/-- **A frame buffer keeps its last plane**: where it is given the size of the display instead of
its own, that reaches the start of the plane in every layer; a plane that starts at zero makes do
with less than a byte a layer, on either side. -/
def KeepsLastPlane (displays : Displays) (caps : Capabilities) (node : ℕ → Option DecoderPara)
    (d : BufferDescriptor) (c : Choice d.usage d.height) : Prop :=
  d.usage.has Usage.hwFb = true ∧ d.height.toNat ≤ displays.used.2 ∧
      d.width.toNat ≤ displays.used.1 ∧
      twoExtFbBufferSizeUpper < (Exact.sized c (prepared caps node d) 0).size →
    ((lastStart caps node d c * d.layerCount.toNat : ℕ) : ℤ) ≤ toInt displays.budget ∨
      lastStart caps node d c = 0 ∧ -(d.layerCount.toNat : ℤ) < toInt displays.budget

section

variable {c : Choice d.usage d.height} (hfit : SizesFit caps node d c) (hc : choose caps d = some c)
  (hd : deriveFormatAndSize wrapping caps node d = .ok (.success, d'))

include hfit hc hd

/-- The planes of a request whose sizes fit start where the exact ones do. -/
theorem offset_of_sizesFit {i : ℕ} (hi : i < c.info.npln) :
    (d'.planeInfo.get i).offset = Exact.start c.info c.allocType d.usage
      (Exact.dims c.format (prepared caps node d)).1
      (Exact.dims c.format (prepared caps node d)).2 i := by
  have hinfo := congrArg SizeState.planeInfo (hfit.sizing hc hd).2
  rw [show d'.planeInfo = _ from hinfo]
  exact congrArg PlaneInfo.offset (Exact.layer_get c (prepared caps node d) 0 hi)

/-- **The last plane of a handle** starts where that of the request does; a third plane that starts
at zero is not counted, but then the second one starts there too. -/
theorem offset_lastPlane (hfresh : d.fresh = d) (hplanes : hnd.planeInfo = d'.planeInfo)
    (hmulti : hnd.isMultiPlane = decide (c.info.npln > 1)) :
    (hnd.planeInfo.get (hnd.getNumPlanes - 1)).offset = lastStart caps node d c := by
  have hstart {i : ℕ} (hi : i < c.info.npln) := offset_of_sizesFit hfit hc hd hi
  have hunwritten : c.info.npln ≤ 2 → d'.planeInfo.p2.offset = 0 := by
    intro hn
    rw [← hfresh] at hd
    exact congrArg PlaneInfo.offset ((of_derive_fresh (d := d) hc hd).2.2 2 (by decide) hn)
  have hpos := c.info_wellFormed.npln_pos
  have hle := c.info_wellFormed.npln_le
  rw [PrivateHandle.getNumPlanes, hmulti, hplanes, lastStart]
  by_cases hone : c.info.npln > 1
  · rw [if_pos (decide_eq_true hone)]
    by_cases hzero : d'.planeInfo.p2.offset = 0
    · rw [if_pos hzero, hstart hone]
      rcases (show c.info.npln = 2 ∨ c.info.npln = 3 by omega) with hn | hn
      · rw [hn]
      · -- a third plane at zero has the second one before it
        have hthird : (d'.planeInfo.get 2).offset = 0 := hzero
        rw [hstart (by omega)] at hthird
        have hsecond := Exact.start_le_start d.usage (Exact.dims c.format (prepared caps node d)).1
          (Exact.dims c.format (prepared caps node d)).2 c.allocType_wellFormed
          (show 1 < 2 by decide)
        rw [hn, show 3 - 1 = 2 from rfl, hthird]
        exact Nat.le_zero.mp (hthird ▸ hsecond)
    · have hn : c.info.npln = 3 := by
        by_contra hne
        exact hzero (hunwritten (by omega))
      rw [if_neg hzero, hstart (by omega), hn]
  · have hn : c.info.npln = 1 := by omega
    rw [if_neg (by simpa using hone), hstart (by omega), hn]

/-- The derived size reaches the last plane in every layer. -/
theorem lastStart_mul_le : lastStart caps node d c * d.layerCount.toNat ≤ d'.size := by
  have hlast : c.info.npln - 1 < c.info.npln := by
    have hpos := c.info_wellFormed.npln_pos
    omega
  obtain ⟨layer, hlayer, hplane⟩ := hfit.layer hc hd
  have hoffset : lastStart caps node d c ≤ layer := by
    rw [lastStart, ← offset_of_sizesFit hfit hc hd hlast]
    exact (Nat.le_add_right _ _).trans (hplane _ hlast)
  calc
    _ ≤ layer * d.layerCount.toNat := Nat.mul_le_mul_right _ hoffset
    _ ≤ layer * max 1 d.layerCount.toNat := Nat.mul_le_mul_left _ (Nat.le_max_right _ _)
    _ = d'.size := hlayer.symm

/-- The handle of a request, with any size. -/
theorem lastPlaneInside_iff_size (hfresh : d.fresh = d) (hlayers : d.layerCount.toNat < 2 ^ 31)
    {size : ℕ} (hm : makePrivateHandle { d' with size := size } = some hnd) :
    LastPlaneInside hnd ↔
      ((lastStart caps node d c * d.layerCount.toNat : ℕ) : ℤ) ≤ toInt size ∨
        lastStart caps node d c = 0 ∧ -(d.layerCount.toNat : ℤ) < toInt size := by
  have hinfo : ({ d' with size := size } : BufferDescriptor).allocFormat.getBaseInfo =
      some c.info := by
    have hformat : d'.allocFormat = c.format := allocFormat_of_success hc hd
    dsimp only
    rw [hformat]
    exact c.info_eq
  have hhnd := (makePrivateHandle_eq_some hinfo).mp hm
  have hlast : (hnd.planeInfo.get (hnd.getNumPlanes - 1)).offset = lastStart caps node d c :=
    offset_lastPlane hfit hc hd hfresh (by rw [hhnd]) (by rw [hhnd])
  have hcount : hnd.layerCount = d.layerCount.toNat := by
    have hkept : d'.fresh = d.fresh := fresh_of_derive hd
    rw [hhnd]
    dsimp only
    rw [layerCount_of_fresh hkept, toInt_of_lt hlayers]
  have hsize : hnd.size = toInt size := by rw [hhnd]
  rw [LastPlaneInside, hlast, hcount, hsize]
  simp only [Nat.cast_mul, Nat.cast_eq_zero]

/-- **The size that was derived reaches the last plane.** -/
theorem lastPlaneInside_of_sizesFit (hfresh : d.fresh = d)
    (hlayers : d.layerCount.toNat < 2 ^ 31) (hm : makePrivateHandle d' = some hnd) :
    LastPlaneInside hnd := by
  have hm' : makePrivateHandle { d' with size := d'.size } = some hnd := hm
  refine (lastPlaneInside_iff_size hfit hc hd hfresh hlayers hm').mpr (Or.inl ?_)
  have hsize : d'.size < 2 ^ 31 := by
    rw [hfit.size_eq hc hd]
    exact hfit.size
  rw [toInt_of_lt hsize]
  exact_mod_cast lastStart_mul_le hfit hc hd

/-- **The size that is given reaches the last plane** exactly where a frame buffer keeps it. -/
theorem lastPlaneInside_iff_keeps (hfresh : d.fresh = d)
    (hlayers : d.layerCount.toNat < 2 ^ 31)
    (hm : makePrivateHandle (d'.final displays) = some hnd) :
    LastPlaneInside hnd ↔ KeepsLastPlane displays caps node d c := by
  rw [KeepsLastPlane, ← hfit.size_eq hc hd, ← replaced_iff_of_success hd]
  by_cases hr : Replaced displays d'
  · rw [BufferDescriptor.final, if_pos hr] at hm
    rw [lastPlaneInside_iff_size hfit hc hd hfresh hlayers hm]
    exact ⟨fun h _ => h, fun h => h hr⟩
  · rw [BufferDescriptor.final, if_neg hr] at hm
    exact iff_of_true (lastPlaneInside_of_sizesFit hfit hc hd hfresh hlayers hm)
      fun h => absurd h hr

end

end

/-! ### The ways in -/

/-- The ways of a request into the services. -/
inductive EntryPoint where
  /-- Encoded bytes, for the HIDL allocator. -/
  | hidlAllocate (para : DecoderPara) (pitches : ℕ) (bytes : List (BitVec 8)) (es : List Attempt)
  /-- Encoded bytes, for the AIDL allocator. -/
  | aidlAllocate (para : DecoderPara) (pitches : ℕ) (bytes : List (BitVec 8)) (es : List Attempt)
  /-- A record, for the AIDL allocator. -/
  | aidlAllocate2 (cache : ProtectedCache) (info : AidlDescriptorInfo)
    (behind : List (BitVec 8)) (es : List Attempt)
  /-- A question about a buffer that is not there yet. -/
  | getFromBufferDescriptorInfo (info : BufferDescriptorInfo)

/-- The number of layers that is asked for. -/
def EntryPoint.layerCount : EntryPoint → BitVec 32
  | .hidlAllocate _ _ bytes _ => popDescriptorUint32 bytes 8
  | .aidlAllocate _ _ bytes _ => popDescriptorUint32 bytes 8
  | .aidlAllocate2 _ info _ _ => info.layerCount
  | .getFromBufferDescriptorInfo info => info.layerCount

/-- **A handle is built** for a request that is accepted. -/
def EntryPoint.Builds (svc : AidlService) (hnd : PrivateHandle) : EntryPoint → Prop
  | .hidlAllocate para pitches bytes es =>
    ∃ bs, Hidl.allocate svc.platform svc.flags (Hidl.uninitialised para pitches) bytes es =
      .ok (.ok bs) ∧ ∃ b ∈ bs, b.buf.handle.toPrivateHandle = hnd
  | .aidlAllocate para pitches bytes es =>
    ∃ bs, Aidl.allocate svc.platform svc.flags (Hidl.uninitialised para pitches) bytes es =
      .ok (.ok bs) ∧ ∃ b ∈ bs, b.buf.handle.toPrivateHandle = hnd
  | .aidlAllocate2 cache info behind es =>
    ∃ bs cache', Aidl.allocate2 svc cache info behind es = .ok (.ok bs, cache') ∧
      ∃ b ∈ bs, b.buf.handle.toPrivateHandle = hnd
  | .getFromBufferDescriptorInfo info =>
    ∃ r, deriveFormatAndSize wrapping svc.platform.caps svc.node (info.toDescriptor svc.flags) =
      .ok (.success, r) ∧ Hidl.partialHandle r = hnd

/-- The request that bytes are decoded to. -/
def decodedRequest (flags : DescriptorFlags) (bytes : List (BitVec 8)) : BufferDescriptor :=
  { BufferDescriptor.request (popDescriptorUint32 bytes 0) (popDescriptorUint32 bytes 4)
      (popDescriptorUint64 bytes 16) ((popDescriptorUint32 bytes 12).setWidth 64)
      (popDescriptorUint32 bytes 8) with
    flags := flags }

/-- What is asked for. -/
def EntryPoint.request (flags : DescriptorFlags) : EntryPoint → BufferDescriptor
  | .hidlAllocate _ _ bytes _ => decodedRequest flags bytes
  | .aidlAllocate _ _ bytes _ => decodedRequest flags bytes
  | .aidlAllocate2 _ info _ _ => info.toDescriptor flags
  | .getFromBufferDescriptorInfo info => info.toDescriptor flags

/-- The decoders that are asked: one for each buffer of a batch. -/
def EntryPoint.nodes (svc : AidlService) : EntryPoint → List (ℕ → Option DecoderPara)
  | .hidlAllocate _ _ _ es => es.map Attempt.node
  | .aidlAllocate _ _ _ es => es.map Attempt.node
  | .aidlAllocate2 _ _ _ es => es.map Attempt.node
  | .getFromBufferDescriptorInfo _ => [svc.node]

/-- Frame buffers are given the size of the display, when they are allocated. -/
def EntryPoint.allocates : EntryPoint → Bool
  | .getFromBufferDescriptorInfo _ => false
  | _ => true

/-- A handle is that of the request, with the reply of a decoder. -/
def EntryPoint.Made (svc : AidlService) (node : ℕ → Option DecoderPara) (hnd : PrivateHandle)
    (e : EntryPoint) : Prop :=
  ∃ r, deriveFormatAndSize wrapping svc.platform.caps node (e.request svc.flags) =
      .ok (.success, r) ∧
    makePrivateHandle (if e.allocates then r.final svc.platform.displays else r) = some hnd

/-- **All the handles that are built may be asked.** -/
def EntryPoint.Safe (svc : AidlService) (e : EntryPoint) : Prop :=
  ∀ hnd, e.Builds svc hnd → QueriesSafe hnd

/-- **The sizes of a request fit**, whichever the reply. -/
def EntryPoint.Fits (svc : AidlService) (e : EntryPoint) : Prop :=
  ∀ node ∈ e.nodes svc, ∀ c, choose svc.platform.caps (e.request svc.flags) = some c →
    SizesFit svc.platform.caps node (e.request svc.flags) c

/-- **Frame buffers keep their last plane**, whichever the reply. -/
def EntryPoint.Keeps (svc : AidlService) (e : EntryPoint) : Prop :=
  e.allocates = true → ∀ node ∈ e.nodes svc, ∀ c,
    choose svc.platform.caps (e.request svc.flags) = some c →
      KeepsLastPlane svc.platform.displays svc.platform.caps node (e.request svc.flags) c

/-- **A handle describes a request**: its format has properties, and its size and layers are
`int`s, the layers those of the request. -/
structure Describes (layers : BitVec 32) (hnd : PrivateHandle) : Prop where
  format : ∃ f, hnd.allocFormat.getBaseInfo = some f
  size : ∃ n : ℕ, hnd.size = toInt n
  layerCount : hnd.layerCount = toInt layers.toNat

section

variable {svc : AidlService} {hnd : PrivateHandle}

/-- The handle of an allocation describes its request. -/
theorem describes_of_bufferAllocate {p : Platform} {e : Attempt} {d d' : BufferDescriptor}
    {b : DmaBuf} (h : DmaBuf.bufferAllocate p e d = .ok (d', some b)) :
    Describes d.layerCount b.handle.toPrivateHandle := by
  have hrefines := DmaBuf.bufferAllocate_refines h
  obtain ⟨r, size, hr, hhandle⟩ := derived_of_bufferAllocate hrefines
  have hlayers : r.layerCount = d.layerCount := layerCount_of_fresh (fresh_of_derive hr)
  obtain ⟨f, hf, heq⟩ := Option.map_eq_some_iff.mp hhandle
  rw [← heq, ← hlayers]
  refine ⟨⟨f, hf⟩, ⟨size, ?_⟩, ?_⟩ <;> dsimp only

/-- The handles of a batch describe its request. -/
theorem describes_of_mem {p : Platform} {name : List (BitVec 8)} {es : List Attempt} {stride : ℤ}
    {d d' : BufferDescriptor} {bs : List AllocatedBuffer} {b : AllocatedBuffer}
    (h : allocateBuffers p name es stride d = .ok (d', .ok bs)) (hb : b ∈ bs) :
    Describes d.layerCount b.buf.handle.toPrivateHandle := by
  obtain ⟨e, -, d₀, d₁, hfresh, hrun, -⟩ := exists_of_mem_allocateBuffers h b hb
  rw [← layerCount_of_fresh hfresh]
  exact describes_of_bufferAllocate hrun

/-- The handle without memory describes its request. -/
theorem describes_partialHandle {d r : BufferDescriptor} {node : ℕ → Option DecoderPara}
    (hr : deriveFormatAndSize wrapping svc.platform.caps node d = .ok (.success, r)) :
    Describes d.layerCount (Hidl.partialHandle r) := by
  obtain ⟨c, hc, -⟩ := deriveFormatAndSize_eq_success.mp hr
  have hlayers : r.layerCount = d.layerCount := layerCount_of_fresh (fresh_of_derive hr)
  refine ⟨⟨c.info, ?_⟩, ⟨r.size, Hidl.partialHandle_size r⟩, ?_⟩
  · rw [Hidl.partialHandle, allocFormat_of_success hc hr]
    exact c.info_eq
  · rw [Hidl.partialHandle_layerCount, hlayers]

/-- **Every handle that is built describes its request.** -/
theorem EntryPoint.Builds.describes {e : EntryPoint} (h : e.Builds svc hnd) :
    Describes e.layerCount hnd := by
  have hbytes {para : DecoderPara} {pitches : ℕ} {bytes : List (BitVec 8)} {es : List Attempt}
      {bs : List AllocatedBuffer} {b : AllocatedBuffer}
      (hrun : Aidl.allocate svc.platform svc.flags (Hidl.uninitialised para pitches) bytes es =
        .ok (.ok bs)) (hb : b ∈ bs) :
      Describes (popDescriptorUint32 bytes 8) b.buf.handle.toPrivateHandle := by
    obtain ⟨r, d', hdecode, hbatch⟩ := Aidl.of_allocate hrun
    have hlayers : popDescriptorUint32 bytes 8 = r.descriptor.layerCount := by
      have hr := Option.some.inj (Option.ite_none_right_eq_some.mp hdecode).2
      rw [← hr]
    rw [hlayers]
    exact describes_of_mem (d := { r.descriptor with flags := svc.flags }) hbatch hb
  cases e with
  | hidlAllocate para pitches bytes es =>
    obtain ⟨bs, hrun, b, hb, rfl⟩ := h
    exact hbytes hrun hb
  | aidlAllocate para pitches bytes es =>
    obtain ⟨bs, hrun, b, hb, rfl⟩ := h
    exact hbytes hrun hb
  | aidlAllocate2 cache info behind es =>
    obtain ⟨bs, cache', hrun, b, hb, rfl⟩ := h
    obtain ⟨d', hbatch⟩ := Aidl.of_allocate2 hrun
    exact describes_of_mem hbatch hb
  | getFromBufferDescriptorInfo info =>
    obtain ⟨r, hr, rfl⟩ := h
    exact describes_partialHandle hr

/-- A word is stored as what it is as a signed number. -/
theorem toInt_toNat (w : BitVec 32) : toInt w.toNat = w.toInt :=
  (BitVec.toInt_eq_toNat_bmod w).symm

/-- A word that is positive as an `int`. -/
theorem one_le_toInt_iff (w : BitVec 32) :
    1 ≤ toInt w.toNat ↔ 1 ≤ w.toNat ∧ w.toNat < 2 ^ 31 := by
  rw [toInt_toNat, BitVec.toInt_eq_toNat_cond]
  have hlt := w.isLt
  split_ifs <;> omega

/-- When the handle of an accepted request may be asked: the request has layers, fewer than
2^31, and the size in the handle reaches the start of the last plane. -/
theorem queriesSafe_iff {e : EntryPoint} (h : e.Builds svc hnd) :
    QueriesSafe hnd ↔
      (1 ≤ e.layerCount.toNat ∧ e.layerCount.toNat < 2 ^ 31) ∧ LastPlaneInside hnd := by
  obtain ⟨⟨f, hf⟩, ⟨n, hsize⟩, hlayers⟩ := h.describes
  have hlo : -2 ^ 31 ≤ hnd.size := by
    rw [hsize]
    exact le_toInt n
  have hhi : hnd.size < 2 ^ 31 := by
    rw [hsize]
    exact toInt_lt n
  rw [queriesSafe_iff_of_format hf hlo hhi, hlayers, one_le_toInt_iff]

/-! ### The handles of a request -/

theorem EntryPoint.request_fresh (flags : DescriptorFlags) (e : EntryPoint) :
    (e.request flags).fresh = e.request flags := by
  cases e <;> rfl

theorem EntryPoint.layerCount_request (flags : DescriptorFlags) (e : EntryPoint) :
    (e.request flags).layerCount = e.layerCount := by
  cases e <;> rfl

/-- The buffers of a batch are made of its request, each with the reply of its decoder. -/
theorem forall₂_made {e : EntryPoint} {name : List (BitVec 8)} {es : List Attempt}
    {d d' : BufferDescriptor} {bs : List AllocatedBuffer}
    (h : allocateBuffers svc.platform name es 0 d = .ok (d', .ok bs))
    (hrequest : d.fresh = e.request svc.flags) (hplanes : d.planeInfo = .zero)
    (hallocates : e.allocates = true) :
    List.Forall₂ (fun a b => e.Made svc a.node b.buf.handle.toPrivateHandle) es bs := by
  have hun : Unwritten svc.platform.caps d := fun i _ _ => by rw [hplanes]
  refine (forall₂_isDerived hun h).imp ?_
  rintro a b ⟨r, hr, hhandle, -⟩
  rw [hrequest] at hr
  exact ⟨r, hr, by rw [hallocates, if_pos rfl, hhandle]⟩

/-- In a batch each decoder makes a buffer, and each buffer is made with the reply of one. -/
theorem made_of_forall₂ {e : EntryPoint} {es : List Attempt} {bs : List AllocatedBuffer}
    (hnodes : e.nodes svc = es.map Attempt.node)
    (hbuilds : ∀ b ∈ bs, e.Builds svc b.buf.handle.toPrivateHandle)
    (h : List.Forall₂ (fun a b => e.Made svc a.node b.buf.handle.toPrivateHandle) es bs)
    {b : AllocatedBuffer} (hb : b ∈ bs) :
    (∃ node ∈ e.nodes svc, e.Made svc node b.buf.handle.toPrivateHandle) ∧
      ∀ node ∈ e.nodes svc, ∃ hnd, e.Builds svc hnd ∧ e.Made svc node hnd := by
  obtain ⟨hall, hmade⟩ := exists_of_forall₂ h
  rw [hnodes]
  constructor
  · obtain ⟨a, ha, hm⟩ := hmade b hb
    exact ⟨a.node, List.mem_map_of_mem ha, hm⟩
  · rw [List.forall_mem_map]
    intro a ha
    obtain ⟨b', hb', hm⟩ := hall a ha
    exact ⟨_, hbuilds b' hb', hm⟩

/-- **What is built is made of the request**, and each decoder that is asked makes some of it. -/
theorem EntryPoint.Builds.made {e : EntryPoint} (h : e.Builds svc hnd) :
    (∃ node ∈ e.nodes svc, e.Made svc node hnd) ∧
      ∀ node ∈ e.nodes svc, ∃ hnd', e.Builds svc hnd' ∧ e.Made svc node hnd' := by
  cases e with
  | hidlAllocate para pitches bytes es =>
    obtain ⟨bs, hrun, b, hb, rfl⟩ := h
    obtain ⟨r, d', hdecode, hbatch⟩ := Aidl.of_allocate hrun
    obtain rfl := Option.some.inj (Option.ite_none_right_eq_some.mp hdecode).2
    have hbuilds : ∀ b ∈ bs, (EntryPoint.hidlAllocate para pitches bytes es).Builds svc
        b.buf.handle.toPrivateHandle := fun b hb => ⟨bs, hrun, b, hb, rfl⟩
    exact made_of_forall₂ rfl hbuilds (forall₂_made hbatch rfl rfl rfl) hb
  | aidlAllocate para pitches bytes es =>
    obtain ⟨bs, hrun, b, hb, rfl⟩ := h
    obtain ⟨r, d', hdecode, hbatch⟩ := Aidl.of_allocate hrun
    obtain rfl := Option.some.inj (Option.ite_none_right_eq_some.mp hdecode).2
    have hbuilds : ∀ b ∈ bs, (EntryPoint.aidlAllocate para pitches bytes es).Builds svc
        b.buf.handle.toPrivateHandle := fun b hb => ⟨bs, hrun, b, hb, rfl⟩
    exact made_of_forall₂ rfl hbuilds (forall₂_made hbatch rfl rfl rfl) hb
  | aidlAllocate2 cache info behind es =>
    obtain ⟨bs, cache', hrun, b, hb, rfl⟩ := h
    obtain ⟨d', hbatch⟩ := Aidl.of_allocate2 hrun
    have hbuilds : ∀ b ∈ bs, (EntryPoint.aidlAllocate2 cache info behind es).Builds svc
        b.buf.handle.toPrivateHandle := fun b hb => ⟨bs, cache', hrun, b, hb, rfl⟩
    exact made_of_forall₂ rfl hbuilds (forall₂_made hbatch rfl rfl rfl) hb
  | getFromBufferDescriptorInfo info =>
    obtain ⟨r, hr, rfl⟩ := h
    obtain ⟨c, hc, -⟩ := deriveFormatAndSize_eq_success.mp hr
    have hinfo : r.allocFormat.getBaseInfo = some c.info := by
      rw [allocFormat_of_success hc hr]
      exact c.info_eq
    have hmade : (EntryPoint.getFromBufferDescriptorInfo info).Made svc svc.node
        (Hidl.partialHandle r) :=
      ⟨r, hr, by rw [Hidl.makePrivateHandle_eq_map, show EntryPoint.allocates _ = false from rfl,
        if_neg (by decide), hinfo, Option.map_some]⟩
    refine ⟨⟨svc.node, List.mem_singleton_self _, hmade⟩, fun node hnode => ?_⟩
    obtain rfl := List.mem_singleton.mp hnode
    exact ⟨_, ⟨r, hr, rfl⟩, hmade⟩

/-- The size of a handle reaches its last plane exactly where a frame buffer keeps it, if the sizes
of the request fit. -/
theorem lastPlaneInside_iff_of_made {e : EntryPoint} {node : ℕ → Option DecoderPara}
    (hlayers : e.layerCount.toNat < 2 ^ 31)
    (hfit : ∀ c, choose svc.platform.caps (e.request svc.flags) = some c →
      SizesFit svc.platform.caps node (e.request svc.flags) c)
    (h : e.Made svc node hnd) :
    LastPlaneInside hnd ↔ (e.allocates = true → ∀ c,
      choose svc.platform.caps (e.request svc.flags) = some c →
        KeepsLastPlane svc.platform.displays svc.platform.caps node (e.request svc.flags) c) := by
  obtain ⟨r, hr, hm⟩ := h
  obtain ⟨c, hc, -⟩ := deriveFormatAndSize_eq_success.mp hr
  have hfresh := e.request_fresh svc.flags
  rw [← e.layerCount_request svc.flags] at hlayers
  cases ha : e.allocates with
  | true =>
    rw [ha, if_pos rfl] at hm
    rw [lastPlaneInside_iff_keeps (hfit c hc) hc hr hfresh hlayers hm]
    constructor
    · intro h _ c' hc'
      rw [← Option.some.inj (hc.symm.trans hc')]
      exact h
    · exact fun h => h rfl c hc
  | false =>
    rw [ha, if_neg (by decide)] at hm
    exact iff_of_true (lastPlaneInside_of_sizesFit (hfit c hc) hc hr hfresh hlayers hm) nofun

/-- **When the handles of an accepted request may be asked.** The request has layers, fewer than
2^31. If its sizes fit, whichever the replies, that is enough, but for a frame buffer that is given
the size of the display: it has to keep its last plane. -/
theorem safe_iff_of_fits {e : EntryPoint} (h : ∃ hnd, e.Builds svc hnd) :
    (e.Safe svc → 1 ≤ e.layerCount.toNat ∧ e.layerCount.toNat < 2 ^ 31) ∧
      (e.Fits svc →
        (e.Safe svc ↔
          (1 ≤ e.layerCount.toNat ∧ e.layerCount.toNat < 2 ^ 31) ∧ e.Keeps svc)) := by
  obtain ⟨hnd₀, hbuilds₀⟩ := h
  have hlayers (hsafe : e.Safe svc) := ((queriesSafe_iff hbuilds₀).mp (hsafe hnd₀ hbuilds₀)).1
  refine ⟨hlayers, fun hfit => ⟨fun hsafe => ⟨hlayers hsafe, ?_⟩, ?_⟩⟩
  · intro ha node hnode
    obtain ⟨hnd, hbuilds, hmade⟩ := hbuilds₀.made.2 node hnode
    have hinside := ((queriesSafe_iff hbuilds).mp (hsafe hnd hbuilds)).2
    exact (lastPlaneInside_iff_of_made (hlayers hsafe).2 (hfit node hnode) hmade).mp hinside ha
  · rintro ⟨hl, hkeeps⟩ hnd hbuilds
    obtain ⟨node, hnode, hmade⟩ := hbuilds.made.1
    refine (queriesSafe_iff hbuilds).mpr ⟨hl, ?_⟩
    exact (lastPlaneInside_iff_of_made hl.2 (hfit node hnode) hmade).mpr fun ha =>
      hkeeps ha node hnode

end

/-! ### A record without layers -/

/-- 16 × 16 pixels of RGBA_8888 for the GPU, in some number of layers. -/
def layersInfo (layers : BitVec 32) : AidlDescriptorInfo where
  name := []
  width := 16#32
  height := 16#32
  layerCount := layers
  format := 1#32
  usage := 0x300#64
  additionalOptions := []

/-- The handle of the record without layers: the size is that of one. -/
def layerlessHandle : PrivateHandle where
  size := 1024
  consumerUsage := 0x300#64
  producerUsage := 0x300#64
  reqFormat := 1
  allocFormat := ⟨.unorm, 1#32, 0#32⟩
  width := 16
  height := 16
  layerCount := 0
  planeInfo := PlaneLayout.zero.set 0 ⟨0, 64, 16, 16⟩
  stride := 16
  isMultiPlane := false

theorem builds_layerless :
    (EntryPoint.aidlAllocate2 none (layersInfo 0#32) [] [.ofNode noDecoder]).Builds codecOnly
      layerlessHandle := by
  have hrun : (Aidl.allocate2 codecOnly none (layersInfo 0#32) [] [.ofNode noDecoder]).map
      (fun r => r.1.map (List.map fun b => b.buf.handle.toPrivateHandle)) =
        .ok (.ok [layerlessHandle]) := by
    decide +kernel
  obtain ⟨⟨bs, cache⟩, hrun, hbs⟩ := map_eq_ok.mp hrun
  cases bs with
  | error e => cases hbs
  | ok bs =>
    refine ⟨bs, cache, hrun, ?_⟩
    have hmem : layerlessHandle ∈ bs.map fun b => b.buf.handle.toPrivateHandle := by
      rw [Except.ok.inj hbs]
      exact List.mem_singleton_self _
    exact List.mem_map.mp hmem

/-- **A record without layers is accepted**, and asking the handle for its planes divides by
zero. -/
theorem not_queriesSafe_layerless :
    (EntryPoint.aidlAllocate2 none (layersInfo 0#32) [] [.ofNode noDecoder]).Builds codecOnly
        layerlessHandle ∧
      getPlaneLayouts wrapping layerlessHandle = .error .divByZero ∧
      ¬QueriesSafe layerlessHandle :=
  ⟨builds_layerless, by decide +kernel, fun h => absurd h.layers (by decide)⟩

/-- A record of 16 × 16 pixels of RGBA_8888 in two layers, for two buffers. -/
def pairEntry : EntryPoint :=
  .aidlAllocate2 none (layersInfo 2#32) [] [.ofNode noDecoder, .ofNode noDecoder]

theorem builds_pair : ∃ hnd, pairEntry.Builds codecOnly hnd := by
  have hrun : (Aidl.allocate2 codecOnly none (layersInfo 2#32) []
      [.ofNode noDecoder, .ofNode noDecoder]).map (fun r => r.1.map List.length) =
        .ok (.ok 2) := by
    decide +kernel
  obtain ⟨⟨bs, cache⟩, hrun, hbs⟩ := map_eq_ok.mp hrun
  rcases bs with e | _ | ⟨b, bs⟩
  · cases hbs
  · cases hbs
  · exact ⟨_, b :: bs, cache, hrun, b, List.mem_cons_self, rfl⟩

/-- The format that is chosen for it. -/
def pairEntryChoice : Choice (pairEntry.request codecOnly.flags).usage
    (pairEntry.request codecOnly.flags).height :=
  (choose codecOnly.platform.caps (pairEntry.request codecOnly.flags)).get (by decide)

theorem choose_pairEntry : choose codecOnly.platform.caps (pairEntry.request codecOnly.flags) =
    some pairEntryChoice :=
  (Option.some_get _).symm

/-- The sizes of the record fit, and its handles may be asked. -/
theorem safe_iff_of_fits_pair : pairEntry.Fits codecOnly ∧ pairEntry.Safe codecOnly := by
  have hsizes : SizesFit codecOnly.platform.caps noDecoder (pairEntry.request codecOnly.flags)
      pairEntryChoice :=
    ⟨by decide +kernel, by decide +kernel, by decide +kernel, by decide +kernel, by decide +kernel⟩
  have hfit : pairEntry.Fits codecOnly := by
    intro node hnode c hc
    obtain rfl := Option.some.inj (choose_pairEntry.symm.trans hc)
    have hsame : node = noDecoder := by
      simpa [pairEntry, EntryPoint.nodes, Attempt.ofNode] using hnode
    rw [hsame]
    exact hsizes
  refine ⟨hfit, ((safe_iff_of_fits builds_pair).2 hfit).mpr ⟨by decide, ?_⟩⟩
  -- it is not a frame buffer
  rintro - node - c - ⟨hfb, -⟩
  exact absurd hfb (by decide)

end Gralloc
