import Gralloc.Alloc.Handle
import Gralloc.Alloc.Readings

/-!
# When the sizes are those of unbounded integers

Nothing in the derivation bounds the dimensions or the number of layers, and most of its
products are computed in 32 bits. This file says exactly when the result is nevertheless
the one of unbounded integers, and no intermediate value was reduced on the way
(`Gralloc.NoWrap`): when the adjusted dimensions are `int`s, the row and the pixels of
each plane stay below `2 ^ 32`, and the size of all layers below `2 ^ 31`
(`Gralloc.SizesFit`). All the other results of the computation, some twenty a plane, are
bounded by these, by `Gralloc.Exact.exactly_sizing`.

The condition does not hold by itself: `Gralloc.not_noWrap_square` is a buffer of
65536 × 65536 pixels whose size is computed as zero.
-/

namespace Gralloc

open CInt

/-! ### Layers add up -/

namespace Exact

section

variable {f : FormatInfo} {t : AllocType}

theorem total_le_start (usage : Usage) (w h : ℕ) (ht : t.WellFormed f) (i : ℕ) :
    total f t usage w h i ≤ start f t usage w h i :=
  le_startFrom ht i _

/-- A plane ends within the size of the planes up to it. -/
theorem start_add_share_le_total (usage : Usage) (w h : ℕ) (ht : t.WellFormed f) {i n : ℕ}
    (hi : i < n) :
    start f t usage w h i + share f t usage w h i ≤ total f t usage w h n := by
  induction n with
  | zero => exact absurd hi (Nat.not_lt_zero i)
  | succ n ih =>
    rcases Nat.lt_succ_iff_lt_or_eq.mp hi with hi | rfl
    · have := total_le_start usage w h ht n
      rw [total_succ]
      exact (ih hi).trans (this.trans (Nat.le_add_right _ _))
    · rw [total_succ]

/-- Planes follow each other. -/
theorem start_le_start (usage : Usage) (w h : ℕ) (ht : t.WellFormed f) {i n : ℕ} (hi : i < n) :
    start f t usage w h i ≤ start f t usage w h n := by
  have hend := start_add_share_le_total usage w h ht hi
  exact (Nat.le_add_right _ _).trans (hend.trans (total_le_start usage w h ht n))

/-- Layers are as many copies of one, which is aligned. -/
theorem layers_eq (format : InternalFormat) (layerCount : BitVec 32) (size : ℕ) :
    ∃ layer, size ≤ layer ∧ layers format layerCount size = layer * max 1 layerCount.toNat := by
  unfold layers
  by_cases hn : 1 < layerCount.toNat
  · rw [if_pos hn, max_eq_right hn.le]
    exact ⟨_, le_alignUp_ite _ (layerAlign_pos format), rfl⟩
  · rw [if_neg hn, max_eq_left (not_lt.mp hn)]
    exact ⟨size, le_rfl, (Nat.mul_one size).symm⟩

/-- One layer is at most all of them. -/
theorem le_layers (format : InternalFormat) (layerCount : BitVec 32) (size : ℕ) :
    size ≤ layers format layerCount size := by
  obtain ⟨layer, hle, heq⟩ := layers_eq format layerCount size
  rw [heq]
  exact hle.trans (Nat.le_mul_of_pos_right _ (lt_max_of_lt_left Nat.one_pos))

end

/-- The specification of a run that makes nothing of the stride. -/
theorem exactly_noLuma (n : ℕ) : Exactly True True (noLuma n) 0 := .pure 0

end Exact

/-! ### The machine's layer -/

section

variable {caps : Capabilities} {node : ℕ → Option DecoderPara} {d d' : BufferDescriptor}
  {c : Choice d.usage d.height}

/-- **The machine's layer is the exact one** within the bounds, and its assertions hold. -/
theorem layer_eq_exact (hc : choose caps d = some c)
    (hd : deriveFormatAndSize wrapping caps node d = .ok (.success, d'))
    (hB : Exact.Bounds c (prepared caps node d)) :
    d'.planeInfo = (Exact.layer c (prepared caps node d) 0).planeInfo ∧
      c.layer wrapping (prepared caps node d) noLuma =
        .ok (Exact.layer c (prepared caps node d) 0) ∧
      Exact.Asserts c (prepared caps node d) ∧
      allLayers wrapping c.format d.layerCount (Exact.layer c (prepared caps node d) 0).size =
        .ok d'.size := by
  obtain ⟨size, hlayer, hsize⟩ := layer_of_success hc hd
  have hex := Exact.exactly_layer c (prepared caps node d) (Exact.exactly_noLuma _)
  have happ := (Approx.layer checked_approx_wrapping c (prepared caps node d)
    fun n => .refl (noLuma n)).eq (hex.avoids ⟨hB, trivial⟩)
  obtain ⟨hs, -, hP, -⟩ := hex.of_ok _ (happ.trans hlayer)
  rw [← hs]
  exact ⟨rfl, hlayer, hP, hsize⟩

end

/-! ### Sizes that fit -/

section

variable (caps : Capabilities) (node : ℕ → Option DecoderPara) (d : BufferDescriptor)

/-- **No value was reduced.** The layout, the size and the size stored in the handle are
those of unbounded integers, and the checked reading meets no overflow on the way. -/
def NoWrap (d' : BufferDescriptor) : Prop :=
  ∃ c s, choose caps d = some c ∧ c.sizing unbounded (prepared caps node d) noLuma = .ok s ∧
    d'.planeInfo = s.planeInfo ∧ d'.size = s.size ∧
    (∀ hnd, makePrivateHandle d' = some hnd → hnd.size = s.size) ∧
    Avoids .overflow (c.sizing checked (prepared caps node d) noLuma)

/-- **The sizes fit**: a condition on the dimensions and the layer count that were
requested, by way of the exact layout of `Gralloc.Exact`. -/
structure SizesFit (c : Choice d.usage d.height) : Prop where
  width : (Exact.dims c.format (prepared caps node d)).1 < 2 ^ 31
  height : (Exact.dims c.format (prepared caps node d)).2 < 2 ^ 31
  row : ∀ i < c.info.npln, Exact.rowProduct c.info c.allocType d.usage
    (Exact.dims c.format (prepared caps node d)).1 i < 2 ^ 32
  pixels : ∀ i < c.info.npln, Exact.pixels c.info c.allocType d.usage
    (Exact.dims c.format (prepared caps node d)).1
    (Exact.dims c.format (prepared caps node d)).2 i < 2 ^ 32
  size : (Exact.sized c (prepared caps node d) 0).size < 2 ^ 31

end

section

variable {caps : Capabilities} {node : ℕ → Option DecoderPara} {d d' : BufferDescriptor}
  {c : Choice d.usage d.height}

theorem sized_size (c : Choice d.usage d.height) (p : ℤ) :
    (Exact.sized c (prepared caps node d) p).size =
      Exact.layers c.format d.layerCount (Exact.layer c (prepared caps node d) p).size := by
  rw [Exact.sized, prepared_layerCount]

/-- The bytes and the offset of each plane are below the size of all the layers. -/
theorem SizesFit.bounds (h : SizesFit caps node d c) : Exact.Bounds c (prepared caps node d) where
  width := h.width
  height := h.height
  planes i hi := by
    have hend := Exact.start_add_share_le_total d.usage
      (Exact.dims c.format (prepared caps node d)).1
      (Exact.dims c.format (prepared caps node d)).2 c.allocType_wellFormed hi
    have hle := Exact.le_layers c.format d.layerCount
      (Exact.layer c (prepared caps node d) 0).size
    have hlt := h.size
    rw [sized_size] at hlt
    rw [Exact.layer_size] at hle hlt
    exact ⟨h.row i hi, h.pixels i hi, by omega, by omega⟩

/-- Sizes that fit meet no overflow. -/
theorem SizesFit.avoids (h : SizesFit caps node d c) :
    Avoids .overflow (c.sizing checked (prepared caps node d) noLuma) :=
  (Exact.exactly_sizing c (prepared caps node d) (Exact.exactly_noLuma _)).avoids
    ⟨⟨h.bounds, trivial⟩, fun _ => h.size.trans (by decide)⟩

/-- The machine's sizing, of an accepted request. -/
theorem sizing_of_success (hc : choose caps d = some c)
    (hd : deriveFormatAndSize wrapping caps node d = .ok (.success, d')) :
    c.sizing wrapping (prepared caps node d) noLuma = .ok ⟨d'.planeInfo, 0, d'.size⟩ := by
  obtain ⟨size, hlayer, hsize⟩ := layer_of_success hc hd
  rw [Choice.sizing, hlayer]
  simp only [ok_bind, prepared_layerCount, hsize]

/-- **Sizes that fit are exact**: the checked run is the machine's, and the layout it
returns is that of the closed forms. -/
theorem SizesFit.sizing (h : SizesFit caps node d c) (hc : choose caps d = some c)
    (hd : deriveFormatAndSize wrapping caps node d = .ok (.success, d')) :
    c.sizing checked (prepared caps node d) noLuma = .ok ⟨d'.planeInfo, 0, d'.size⟩ ∧
      ⟨d'.planeInfo, 0, d'.size⟩ = Exact.sized c (prepared caps node d) 0 := by
  have hch := ((Approx.sizing checked_approx_wrapping c (prepared caps node d)
    fun n => .refl (noLuma n)).eq h.avoids).trans (sizing_of_success hc hd)
  exact ⟨hch, ((Exact.exactly_sizing c (prepared caps node d)
    (Exact.exactly_noLuma _)).of_ok _ hch).1⟩

theorem SizesFit.size_eq (h : SizesFit caps node d c) (hc : choose caps d = some c)
    (hd : deriveFormatAndSize wrapping caps node d = .ok (.success, d')) :
    d'.size = (Exact.sized c (prepared caps node d) 0).size :=
  congrArg SizeState.size (h.sizing hc hd).2

/-- **Sizes that fit are made of layers**, and every plane ends within its own. -/
theorem SizesFit.layer (h : SizesFit caps node d c) (hc : choose caps d = some c)
    (hd : deriveFormatAndSize wrapping caps node d = .ok (.success, d')) :
    ∃ layer, d'.size = layer * max 1 d.layerCount.toNat ∧
      ∀ i < c.info.npln, (d'.planeInfo.get i).offset + Exact.share c.info c.allocType d.usage
        (Exact.dims c.format (prepared caps node d)).1
        (Exact.dims c.format (prepared caps node d)).2 i ≤ layer := by
  obtain ⟨layer, hle, heq⟩ := Exact.layers_eq c.format d.layerCount
    (Exact.layer c (prepared caps node d) 0).size
  refine ⟨layer, by rw [h.size_eq hc hd, sized_size, heq], fun i hi => ?_⟩
  have hget : (d'.planeInfo.get i).offset = Exact.start c.info c.allocType d.usage
      (Exact.dims c.format (prepared caps node d)).1
      (Exact.dims c.format (prepared caps node d)).2 i := by
    have hinfo := congrArg SizeState.planeInfo (h.sizing hc hd).2
    rw [show d'.planeInfo = _ from hinfo]
    exact congrArg PlaneInfo.offset (Exact.layer_get c (prepared caps node d) 0 hi)
  have hend := Exact.start_add_share_le_total d.usage
    (Exact.dims c.format (prepared caps node d)).1
    (Exact.dims c.format (prepared caps node d)).2 c.allocType_wellFormed hi
  rw [Exact.layer_size] at hle
  rw [hget]
  exact hend.trans hle

/-- A plane of any of the layers ends within the size, where the sizes fit. -/
theorem SizesFit.plane_le (h : SizesFit caps node d c) (hc : choose caps d = some c)
    (hd : deriveFormatAndSize wrapping caps node d = .ok (.success, d')) {i l : ℕ}
    (hi : i < c.info.npln) (hl : l < max 1 d.layerCount.toNat) :
    l * (d'.size / max 1 d.layerCount.toNat) +
        ((d'.planeInfo.get i).offset + Exact.share c.info c.allocType d.usage
          (Exact.dims c.format (prepared caps node d)).1
          (Exact.dims c.format (prepared caps node d)).2 i) ≤ d'.size := by
  obtain ⟨layer, hsize, hplane⟩ := h.layer hc hd
  -- the planes end within their own layer, and it is at most the last one
  calc
    _ = l * layer + _ := by
      rw [hsize, Nat.mul_div_cancel _ (lt_max_of_lt_left Nat.one_pos)]
    _ ≤ l * layer + layer := Nat.add_le_add_left (hplane i hi) _
    _ = (l + 1) * layer := (Nat.succ_mul l layer).symm
    _ ≤ max 1 d.layerCount.toNat * layer := Nat.mul_le_mul_right layer hl
    _ = d'.size := by rw [hsize, Nat.mul_comm]

/-- The size in the handle of an accepted request. -/
theorem size_of_makePrivateHandle (hc : choose caps d = some c)
    (hd : deriveFormatAndSize wrapping caps node d = .ok (.success, d')) {n : ℤ} :
    (∀ hnd, makePrivateHandle d' = some hnd → hnd.size = n) ↔ toInt d'.size = n := by
  have hinfo := c.info_eq
  rw [← allocFormat_of_success hc hd] at hinfo
  simp only [makePrivateHandle_eq_some hinfo, forall_eq]

/-- **The sizes of an accepted request are those of unbounded integers exactly when they
fit.** -/
theorem noWrap_iff (hd : deriveFormatAndSize wrapping caps node d = .ok (.success, d')) :
    NoWrap caps node d d' ↔ ∃ c, choose caps d = some c ∧ SizesFit caps node d c := by
  constructor
  · -- a checked run that meets no overflow is the unbounded one, and keeps the bounds
    rintro ⟨c, s, hc, hs, hlayout, hsize, hhandle, havoids⟩
    have hex := Exact.exactly_sizing c (prepared caps node d) (Exact.exactly_noLuma _)
    have happ := (Approx.sizing checked_approx_unbounded c (prepared caps node d)
      fun n => .refl (noLuma n)).eq havoids
    obtain ⟨rfl, ⟨⟨hB, -⟩, -⟩, -⟩ := hex.of_ok _ (happ.trans hs)
    rw [size_of_makePrivateHandle hc hd, hsize] at hhandle
    have hlt := toInt_lt (Exact.sized c (prepared caps node d) 0).size
    refine ⟨c, hc, hB.width, hB.height, fun i hi => (hB.planes i hi).row,
      fun i hi => (hB.planes i hi).pixels, ?_⟩
    omega
  · -- within the bounds the checked run is the machine's and the unbounded one
    rintro ⟨c, hc, hfit⟩
    obtain ⟨hch, -⟩ := hfit.sizing hc hd
    have hun := (Approx.sizing checked_approx_unbounded c (prepared caps node d)
      fun n => .refl (noLuma n)).eq_ok hch
    have hlt : d'.size < 2 ^ 31 := (hfit.size_eq hc hd).trans_lt hfit.size
    exact ⟨c, _, hc, hun, rfl, rfl,
      (size_of_makePrivateHandle hc hd).mpr (toInt_of_lt hlt), hfit.avoids⟩

end

/-! ### A square whose size is computed as zero -/

/-- 65536 × 65536 pixels of RGBA_8888 for the CPU, on a platform without compression. -/
def square : BufferDescriptor := .request 65536#32 65536#32 0x33#64 1#64 1#32

/-- The descriptor that is derived: every field is right but the size. -/
def squareDerived : BufferDescriptor :=
  { square with
    allocFormat := ⟨.unorm, 1#32, 0#32⟩
    pixelStride := 65536
    planeInfo := PlaneLayout.zero.set 0 ⟨0, 262144, 65536, 65536⟩ }

/-- The equivalence, at the square. -/
theorem noWrap_iff_square :
    NoWrap .gpuOnly noDecoder square squareDerived ↔
      ∃ c, choose .gpuOnly square = some c ∧ SizesFit .gpuOnly noDecoder square c :=
  noWrap_iff (by decide +kernel)

/-- **The square is accepted with a size of zero**, which is not its size. -/
theorem not_noWrap_square :
    deriveFormatAndSize wrapping .gpuOnly noDecoder square = .ok (.success, squareDerived) ∧
      ¬NoWrap .gpuOnly noDecoder square squareDerived := by
  refine ⟨by decide +kernel, ?_⟩
  rintro ⟨c, s, hc, hs, -, hsize, -⟩
  have h : (choose .gpuOnly square).map (fun c =>
      (c.sizing unbounded (prepared .gpuOnly noDecoder square) noLuma).toOption.map
        SizeState.size) = some (some (2 ^ 34)) := by decide
  rw [hc, Option.map_some, hs] at h
  rw [Option.some.inj (Option.some.inj h)] at hsize
  exact absurd hsize (by decide)

end Gralloc
