import Gralloc.Alloc.Afbc

/-!
# The layers of a compressed buffer

The layers of a buffer are copies of one, placed one behind the other. Inside a layer
headers, bodies and coding units are aligned plane by plane; the distance between two
layers is only what the size of one happens to be, rounded for AFBC to 4096 under tiled
headers and to 128 otherwise, and not rounded for AFRC. The second layer is therefore
aligned like the first one exactly when that distance is a multiple of every alignment
inside a layer (`Gralloc.forall_dvd_copies_iff`).

Under tiled headers the rounding takes care of it, and so do the aligned bodies of several
planes. What is left is a condition on the contents (`Gralloc.Exact.LayerResidue`): an
AFBC buffer of one plane is as long as its bodies, which are multiples of 128 and not of
1024, and AFRC aligns the luma plane to its own coding unit but leaves the end of the layer
to the chroma planes.
-/

namespace Gralloc

open CInt

/-- **Copies stay aligned** exactly when their distance is a multiple of each alignment. -/
theorem forall_dvd_copies_iff {copies : ℕ} (parts distance : ℕ) (align offset : ℕ → ℕ)
    (hn : 1 < copies) (hoff : ∀ i < parts, align i ∣ offset i) :
    (∀ n < copies, ∀ i < parts, align i ∣ n * distance + offset i) ↔
      ∀ i < parts, align i ∣ distance := by
  constructor
  · intro h i hi
    have h₁ := h 1 hn i hi
    rwa [Nat.one_mul, Nat.dvd_add_left (hoff i hi)] at h₁
  · exact fun h n _ i hi => ((h i hi).mul_left n).add (hoff i hi)

namespace Exact

section

variable {f : FormatInfo} {t : AllocType} {usage : Usage} {w h : ℕ} {i : ℕ}

/-! ### AFRC planes -/

theorem body_of_isAfrc (hr : t.isAfrc = true) (i : ℕ) : body f t usage w h i =
    width f t usage w i / t.afrc.clumpWidth.get i *
      (height f t usage h i / t.afrc.clumpHeight.get i) * t.codingUnitBytes i := by
  simp only [body, AllocType.not_isAfbc_of_isAfrc hr, hr, Bool.false_eq_true, if_true, if_false]

theorem share_of_isAfrc (hr : t.isAfrc = true) (i : ℕ) :
    share f t usage w h i = body f t usage w h i := by
  rw [share, header, if_neg (AllocType.not_isAfbc_of_isAfrc hr), Nat.add_zero]

/-- AFRC planes start aligned. -/
theorem planeAlignment_dvd_start (hr : t.isAfrc = true) (i : ℕ) :
    t.planeAlignment i ∣ start f t usage w h i := by
  rw [start, startFrom, if_pos hr]
  exact dvd_alignUp _ _

/-- **Whole paging tiles**: without CPU access the coding units of a plane are a multiple
of the alignment of the plane. -/
theorem planeAlignment_dvd_body (w h : ℕ) (hf : f.WellFormed) (ht : t.WellFormed f)
    (hr : t.isAfrc = true) (hcpu : usage.hasCpu = false) (hi : i < f.npln) :
    t.planeAlignment i ∣ body f t usage w h i := by
  have ha := AllocType.not_isAfbc_of_isAfrc hr
  obtain ⟨⟨hcw, -⟩, hch, -⟩ := clump_bounds hf ht hr hi
  have hts := hf.tileSize_le
  have htp := hf.tileSize_pos
  have htile : t.afrc.pagingTileWidth * t.afrc.pagingTileHeight = 64 ∧
      2 ≤ t.afrc.pagingTileWidth ∧ 2 ≤ t.afrc.pagingTileHeight := by
    rcases ht.pagingTile hr with ⟨h₁, h₂⟩ | ⟨h₁, h₂⟩ <;> rw [h₁, h₂] <;> decide
  have hmw := Nat.mul_le_mul htile.2.1 hcw
  have hmh := Nat.mul_le_mul htile.2.2 hch
  have hfa : finalAlign f t i usage.hasCpu =
      ⟨t.afrc.pagingTileWidth * t.afrc.clumpWidth.get i,
        t.afrc.pagingTileHeight * t.afrc.clumpHeight.get i⟩ := by
    simp only [finalAlign, pixelAlign, hcpu, ha, hr, Bool.false_eq_true, if_false, if_true,
      Rect.mk.injEq]
    omega
  obtain ⟨a, hw⟩ : t.afrc.pagingTileWidth * t.afrc.clumpWidth.get i ∣ width f t usage w i := by
    rw [width, hfa]
    exact dvd_alignUp _ _
  obtain ⟨b, hh⟩ : t.afrc.pagingTileHeight * t.afrc.clumpHeight.get i ∣ height f t usage h i := by
    rw [height, hfa]
    exact dvd_alignUp _ _
  have hcols : width f t usage w i / t.afrc.clumpWidth.get i = t.afrc.pagingTileWidth * a := by
    rw [hw, Nat.mul_right_comm, Nat.mul_div_cancel _ (by omega)]
  have hrows : height f t usage h i / t.afrc.clumpHeight.get i = t.afrc.pagingTileHeight * b := by
    rw [hh, Nat.mul_right_comm, Nat.mul_div_cancel _ (by omega)]
  have hunits : body f t usage w h i = 64 * t.codingUnitBytes i * (a * b) := by
    calc body f t usage w h i
        = t.afrc.pagingTileWidth * a * (t.afrc.pagingTileHeight * b) * t.codingUnitBytes i := by
          rw [body_of_isAfrc hr, hcols, hrows]
      _ = t.afrc.pagingTileWidth * t.afrc.pagingTileHeight * t.codingUnitBytes i * (a * b) := by
          ring
      _ = _ := by rw [htile.1]
  rw [hunits]
  refine Dvd.dvd.mul_right ?_ _
  rcases ht.codingUnit hr i with ⟨hc, hp⟩ | ⟨hc, hp⟩ | ⟨hc, hp⟩ <;> simp [hc, hp]

/-! ### The end of a layer -/

/-- The chroma planes share one alignment. -/
theorem planeAlignment_of_pos (t : AllocType) (hi : 0 < i) :
    t.planeAlignment i = t.planeAlignment 1 := by
  simp only [AllocType.planeAlignment, hi.ne', Nat.one_ne_zero, if_false]

/-- Of the two alignments one is a multiple of the other. -/
theorem planeAlignment_dvd_or_dvd (ht : t.WellFormed f) (hr : t.isAfrc = true) :
    t.planeAlignment 0 ∣ t.planeAlignment 1 ∨ t.planeAlignment 1 ∣ t.planeAlignment 0 := by
  rcases ht.codingUnit hr 0 with ⟨-, h₀⟩ | ⟨-, h₀⟩ | ⟨-, h₀⟩ <;>
    rcases ht.codingUnit hr 1 with ⟨-, h₁⟩ | ⟨-, h₁⟩ | ⟨-, h₁⟩ <;> simp [h₀, h₁]

/-- **What the rounding of a layer leaves open**: a multiple of the alignments inside it
is the single plane of an AFBC buffer with linear headers if its bodies are, and an AFRC
buffer if its chroma is a multiple of the luma plane's alignment. Rows rounded for the CPU
leave AFRC planes without whole paging tiles. -/
def LayerResidue (f : FormatInfo) (t : AllocType) (usage : Usage) (w h : ℕ) : Prop :=
  if t.isAfbc then
    t.isTiled = true ∨ 1 < f.npln ∨ 1024 ∣ sbNum f t usage w h 0 * sbBytes f t 0
  else if t.isAfrc then
    if usage.hasCpu then
      t.planeAlignment 0 ∣ total f t usage w h f.npln ∧
        (1 < f.npln → t.planeAlignment 1 ∣ body f t usage w h (f.npln - 1))
    else t.planeAlignment 0 ∣ ∑ i ∈ Finset.Ico 1 f.npln, body f t usage w h i
  else True

/-- The size of a layer is a multiple of a chroma alignment when its last plane is. -/
theorem planeAlignment_dvd_total_iff (f : FormatInfo) (usage : Usage) (w h n : ℕ)
    (hr : t.isAfrc = true) :
    t.planeAlignment n ∣ total f t usage w h (n + 1) ↔
      t.planeAlignment n ∣ body f t usage w h n := by
  rw [total_succ, share_of_isAfrc hr, Nat.dvd_add_right (planeAlignment_dvd_start hr n)]

/-- AFRC: the alignments of all the planes come down to those of the first and the last. -/
theorem forall_planeAlignment_dvd_iff (usage : Usage) (w h : ℕ) (hf : f.WellFormed)
    (hr : t.isAfrc = true) :
    (∀ i < f.npln, t.planeAlignment i ∣ total f t usage w h f.npln) ↔
      t.planeAlignment 0 ∣ total f t usage w h f.npln ∧
        (1 < f.npln → t.planeAlignment 1 ∣ body f t usage w h (f.npln - 1)) := by
  have hlast (hn : 1 < f.npln) : t.planeAlignment 1 ∣ total f t usage w h f.npln ↔
      t.planeAlignment 1 ∣ body f t usage w h (f.npln - 1) := by
    have h := planeAlignment_dvd_total_iff f usage w h (f.npln - 1) hr
    rwa [planeAlignment_of_pos t (by omega), Nat.sub_add_cancel hf.npln_pos] at h
  constructor
  · exact fun h => ⟨h 0 hf.npln_pos, fun hn => (hlast hn).mp (h 1 hn)⟩
  · rintro ⟨h₀, h₁⟩ i hi
    rcases Nat.eq_zero_or_pos i with rfl | hi₀
    · exact h₀
    · rw [planeAlignment_of_pos t hi₀]
      exact (hlast (by omega)).mpr (h₁ (by omega))

/-- Where chroma is aligned less than luma, the planes of an AFRC buffer follow each other
without a gap. -/
theorem total_eq_sum (hf : f.WellFormed) (ht : t.WellFormed f) (hr : t.isAfrc = true)
    (hcpu : usage.hasCpu = false) (hd : t.planeAlignment 1 ∣ t.planeAlignment 0) {n : ℕ}
    (hn : n ≤ f.npln) :
    total f t usage w h n = ∑ i ∈ Finset.range n, body f t usage w h i := by
  induction n with
  | zero => rfl
  | succ n ih =>
    have hgap : t.planeAlignment n ∣ total f t usage w h n := by
      rw [ih (by omega)]
      refine Finset.dvd_sum fun i hi => ?_
      have hin := Finset.mem_range.mp hi
      have hbody := planeAlignment_dvd_body w h hf ht hr hcpu (show i < f.npln by omega)
      rw [planeAlignment_of_pos t (by omega)]
      rcases Nat.eq_zero_or_pos i with rfl | hi₀
      · exact hd.trans hbody
      · rwa [planeAlignment_of_pos t hi₀] at hbody
    rw [total_succ, Finset.sum_range_succ, ← ih (by omega), share_of_isAfrc hr, start, startFrom,
      if_pos hr, alignUp_of_dvd (planeAlignment_pos ht hr n) hgap]

/-- **AFRC without CPU access**: the size of a layer is a multiple of the luma alignment
exactly when the chroma in it is. -/
theorem planeAlignment_zero_dvd_total_iff (hf : f.WellFormed) (ht : t.WellFormed f)
    (hr : t.isAfrc = true) (hcpu : usage.hasCpu = false) :
    t.planeAlignment 0 ∣ total f t usage w h f.npln ↔
      t.planeAlignment 0 ∣ ∑ i ∈ Finset.Ico 1 f.npln, body f t usage w h i := by
  have hbody {i : ℕ} (hi : i < f.npln) :=
    planeAlignment_dvd_body w h hf ht hr hcpu hi
  rcases planeAlignment_dvd_or_dvd ht hr with hd | hd
  · -- what is a multiple of the chroma alignment is one of the luma alignment
    have hall {i : ℕ} (hi : i < f.npln) : t.planeAlignment 0 ∣ body f t usage w h i := by
      rcases Nat.eq_zero_or_pos i with rfl | hi₀
      · exact hbody hi
      · exact hd.trans (planeAlignment_of_pos t hi₀ ▸ hbody hi)
    refine iff_of_true ?_ (Finset.dvd_sum fun i hi => hall (Finset.mem_Ico.mp hi).2)
    obtain ⟨n, hn⟩ := Nat.exists_eq_add_of_lt hf.npln_pos
    rw [Nat.zero_add] at hn
    rw [hn, total_succ, share_of_isAfrc hr]
    refine Dvd.dvd.add ?_ (hall (by omega))
    rcases Nat.eq_zero_or_pos n with rfl | hn₀
    · exact planeAlignment_dvd_start hr 0
    · exact hd.trans (planeAlignment_of_pos t hn₀ ▸ planeAlignment_dvd_start hr n)
  · rw [total_eq_sum hf ht hr hcpu hd le_rfl, ← Finset.sum_range_add_sum_Ico _ hf.npln_pos,
      Finset.sum_range_one, Nat.dvd_add_right (hbody hf.npln_pos)]

/-! ### AFBC -/

/-- Only the AFBC formats that are YUV have a third plane. -/
theorem npln_le_of_afbc : ∀ f ∈ formats, f.afbc = true → f.isYuv = false → f.npln ≤ 2 := by
  decide

/-- Under tiled headers there may be a second body, otherwise there is one. -/
theorem share_of_linearHeaders (ht : t.WellFormed f) (ha : t.isAfbc = true)
    (htl : t.isTiled ≠ true) (hn : ¬1 < f.npln) :
    share f t usage w h 0 = sbNum f t usage w h 0 * sbBytes f t 0 + header f t usage w h 0 := by
  have hsafe : t.isFrontbufferSafe ≠ true := fun hs => htl (ht.tiled_of_frontbufferSafe hs).2
  rw [share, body, if_pos ha, if_neg hsafe, afbcBody, if_neg fun hp => hn hp.1]

/-- The layers of an AFBC buffer are aligned, but for one plane with linear headers. -/
theorem afbcBufferAlignment_dvd_layer_iff (hf : f.WellFormed) (ht : t.WellFormed f)
    (hm : f ∈ formats) (hfa : f.afbc = true) (ha : t.isAfbc = true)
    (hy : t.isTiled ≠ true → 1 < f.npln → f.isYuv = false) :
    afbcBufferAlignment t ∣
        alignUp (total f t usage w h f.npln) (if t.isTiled then 4096 else 128) ↔
      t.isTiled = true ∨ 1 < f.npln ∨ 1024 ∣ sbNum f t usage w h 0 * sbBytes f t 0 := by
  by_cases htl : t.isTiled = true
  · rw [afbcBufferAlignment, if_pos htl, if_pos htl]
    exact iff_of_true (dvd_alignUp _ 4096) (.inl htl)
  rw [if_neg htl, or_iff_right htl]
  have hr : t.isAfrc ≠ true := fun hr => AllocType.not_isAfbc_of_isAfrc hr ha
  have h1024 : afbcBufferAlignment t = 1024 := by rw [afbcBufferAlignment, if_neg htl]
  by_cases hn : 1 < f.npln
  · -- two planes, whose bodies are aligned both
    refine iff_of_true ?_ (.inl hn)
    have h2 : f.npln = 2 := le_antisymm (npln_le_of_afbc f hm hfa (hy htl hn)) hn
    have htotal : afbcBufferAlignment t ∣ total f t usage w h f.npln := by
      rw [h2, total_succ]
      exact (dvd_start hf ha (by omega)).add (dvd_share ha hn (by decide))
    rwa [alignUp_of_dvd (by decide) (Dvd.dvd.trans (by rw [h1024]; decide) htotal)]
  · -- one plane, whose body is a multiple of 128
    have h1 : f.npln = 1 := le_antisymm (not_lt.mp hn) hf.npln_pos
    have htotal : total f t usage w h f.npln =
        sbNum f t usage w h 0 * sbBytes f t 0 + header f t usage w h 0 := by
      rw [h1, total_succ, start_zero, Nat.zero_add, share_of_linearHeaders ht ha htl hn]
    have hheader : 1024 ∣ header f t usage w h 0 := by
      rw [header, if_pos ha, h1024]
      exact dvd_alignUp _ _
    have h128 : 128 ∣ total f t usage w h f.npln := by
      rw [htotal]
      exact ((sbBytes_dvd f t 0).mul_left _).add (Dvd.dvd.trans (by decide) hheader)
    rw [or_iff_right hn, alignUp_of_dvd (by decide) h128, h1024, htotal,
      Nat.dvd_add_left hheader]

end

end Exact

/-! ### Accepted requests -/

section

variable (caps : Capabilities) (node : ℕ → Option DecoderPara) (d : BufferDescriptor)
  (c : Choice d.usage d.height)

/-- A compressed plane is aligned, in a layer at the given place: the header and the body
of an AFBC plane as AFBC buffers, an AFRC plane for its coding units. -/
def PlaneAligned (t : AllocType) (planeInfo : PlaneLayout) (base i : ℕ) : Prop :=
  if t.isAfbc then
    afbcBufferAlignment t ∣ base + (planeInfo.get i).offset ∧
      ∃ header : ℕ, headerBytes t planeInfo i = .ok header ∧
        afbcBufferAlignment t ∣ base + (planeInfo.get i).offset + header
  else if t.isAfrc then t.planeAlignment i ∣ base + (planeInfo.get i).offset
  else True

/-- **Every layer is aligned** like the first one. -/
def LayersAligned (d' : BufferDescriptor) : Prop :=
  ∀ n < d.layerCount.toNat, ∀ i < c.info.npln,
    PlaneAligned c.allocType d'.planeInfo (n * d'.size / d.layerCount.toNat) i

/-- **The layers fit**: no product of a layer overflows, nor does the size of all of
them. -/
structure LayersFit : Prop where
  bounds : Exact.Bounds c (prepared caps node d)
  size : (Exact.sized c (prepared caps node d) 0).size < 2 ^ 64

end

section

variable {caps : Capabilities} {node : ℕ → Option DecoderPara} {d d' : BufferDescriptor}
  {c : Choice d.usage d.height}

/-- The distance of two layers, exactly. -/
def Exact.layerDistance (c : Choice d.usage d.height) (p : BufferDescriptor) : ℕ :=
  let size := Exact.total c.info c.allocType d.usage (Exact.dims c.format p).1
    (Exact.dims c.format p).2 c.info.npln
  if c.format.isAfbc then alignUp size (layerAlign c.format) else size

/-- Layers that fit are placed at their distance. -/
theorem layer_base (hc : choose caps d = some c) (hl : 1 < d.layerCount.toNat)
    (hd : deriveFormatAndSize wrapping caps node d = .ok (.success, d'))
    (hfit : LayersFit caps node d c) (n : ℕ) :
    n * d'.size / d.layerCount.toNat = n * Exact.layerDistance c (prepared caps node d) := by
  obtain ⟨-, -, -, hall⟩ := layer_eq_exact hc hd hfit.bounds
  have hex := Exact.exactly_allLayers c.format d.layerCount
    (Exact.layer c (prepared caps node d) 0).size
  have hlt := hfit.size
  rw [sized_size] at hlt
  have hsize := (Approx.allLayers checked_approx_wrapping c.format d.layerCount _).eq_ok
    (hex.ok (fun _ => hlt) trivial)
  rw [hall, Except.ok.injEq] at hsize
  rw [hsize, Exact.layers, if_pos hl, Exact.layer_size, ← Nat.mul_assoc,
    Nat.mul_div_cancel _ (by omega)]
  rfl

/-- The planes of an accepted buffer start where they do exactly. -/
theorem offset_of_bounds (hc : choose caps d = some c)
    (hd : deriveFormatAndSize wrapping caps node d = .ok (.success, d'))
    (hb : Exact.Bounds c (prepared caps node d)) {i : ℕ} (hi : i < c.info.npln) :
    (d'.planeInfo.get i).offset =
      Exact.start c.info c.allocType d.usage (Exact.dims c.format (prepared caps node d)).1
        (Exact.dims c.format (prepared caps node d)).2 i := by
  obtain ⟨hp, -, -, -⟩ := layer_eq_exact hc hd hb
  rw [hp, Exact.layer_get c _ 0 hi]
  rfl

/-- AFBC: header and body of a plane are aligned together, and so are the layers. -/
theorem layersAligned_iff_of_isAfbc (hc : choose caps d = some c) (hl : 1 < d.layerCount.toNat)
    (hd : deriveFormatAndSize wrapping caps node d = .ok (.success, d'))
    (hfit : LayersFit caps node d c) (ha : c.allocType.isAfbc = true) :
    LayersAligned d c d' ↔
      afbcBufferAlignment c.allocType ∣ Exact.layerDistance c (prepared caps node d) := by
  have hf := c.info_wellFormed
  obtain ⟨hp, -, -, -⟩ := layer_eq_exact hc hd hfit.bounds
  have hcopies := forall_dvd_copies_iff c.info.npln
    (Exact.layerDistance c (prepared caps node d)) (fun _ => afbcBufferAlignment c.allocType)
    (fun i => (d'.planeInfo.get i).offset) hl fun i hi => by
      rw [offset_of_bounds hc hd hfit.bounds hi]
      exact Exact.dvd_start hf ha hi
  have hheader {i : ℕ} (hi : i < c.info.npln) : ∃ header : ℕ,
      headerBytes c.allocType d'.planeInfo i = .ok header ∧
        afbcBufferAlignment c.allocType ∣ header := by
    refine ⟨_, by rw [hp]; exact headerBytes_layer hfit.bounds hi, ?_⟩
    rw [Exact.header, if_pos ha]
    exact dvd_alignUp _ _
  have hplane {n i : ℕ} (hi : i < c.info.npln) :
      PlaneAligned c.allocType d'.planeInfo
          (n * Exact.layerDistance c (prepared caps node d)) i ↔
        afbcBufferAlignment c.allocType ∣
          n * Exact.layerDistance c (prepared caps node d) + (d'.planeInfo.get i).offset := by
    rw [PlaneAligned, if_pos ha]
    obtain ⟨header, hok, hdvd⟩ := hheader hi
    exact ⟨And.left, fun h => ⟨h, header, hok, h.add hdvd⟩⟩
  simp only [LayersAligned, layer_base hc hl hd hfit]
  calc (∀ n < d.layerCount.toNat, ∀ i < c.info.npln, PlaneAligned c.allocType d'.planeInfo
          (n * Exact.layerDistance c (prepared caps node d)) i)
      ↔ ∀ n < d.layerCount.toNat, ∀ i < c.info.npln, afbcBufferAlignment c.allocType ∣
          n * Exact.layerDistance c (prepared caps node d) + (d'.planeInfo.get i).offset :=
        forall₂_congr fun n _ => forall₂_congr fun i hi => hplane hi
    _ ↔ ∀ i < c.info.npln, afbcBufferAlignment c.allocType ∣
          Exact.layerDistance c (prepared caps node d) := hcopies
    _ ↔ afbcBufferAlignment c.allocType ∣ Exact.layerDistance c (prepared caps node d) :=
        ⟨fun h => h 0 hf.npln_pos, fun h _ _ => h⟩

/-- AFRC: the layers are aligned if their distance is, for every plane. -/
theorem layersAligned_iff_of_isAfrc (hc : choose caps d = some c) (hl : 1 < d.layerCount.toNat)
    (hd : deriveFormatAndSize wrapping caps node d = .ok (.success, d'))
    (hfit : LayersFit caps node d c) (hr : c.allocType.isAfrc = true) :
    LayersAligned d c d' ↔ ∀ i < c.info.npln,
      c.allocType.planeAlignment i ∣ Exact.layerDistance c (prepared caps node d) := by
  have ha := AllocType.not_isAfbc_of_isAfrc hr
  have hcopies := forall_dvd_copies_iff c.info.npln
    (Exact.layerDistance c (prepared caps node d)) c.allocType.planeAlignment
    (fun i => (d'.planeInfo.get i).offset) hl fun i hi => by
      rw [offset_of_bounds hc hd hfit.bounds hi]
      exact Exact.planeAlignment_dvd_start hr i
  simp only [LayersAligned, layer_base hc hl hd hfit, PlaneAligned, ha, hr, if_false, if_true,
    Bool.false_eq_true]
  exact hcopies

/-- **The layers of an accepted compressed buffer are aligned** exactly when the contents
of a layer are a multiple of its alignments, as long as its layers fit. -/
theorem layersAligned_iff (hc : choose caps d = some c) (hl : 1 < d.layerCount.toNat)
    (hd : deriveFormatAndSize wrapping caps node d = .ok (.success, d'))
    (hfit : LayersFit caps node d c) :
    LayersAligned d c d' ↔ Exact.LayerResidue c.info c.allocType d.usage
      (Exact.dims c.format (prepared caps node d)).1
      (Exact.dims c.format (prepared caps node d)).2 := by
  have hf := c.info_wellFormed
  have ht := c.allocType_wellFormed
  by_cases ha : c.allocType.isAfbc = true
  · have hdist : Exact.layerDistance c (prepared caps node d) =
        alignUp (Exact.total c.info c.allocType d.usage
          (Exact.dims c.format (prepared caps node d)).1
          (Exact.dims c.format (prepared caps node d)).2 c.info.npln)
          (if c.allocType.isTiled then 4096 else 128) := by
      have htl : c.allocType.isTiled = c.format.getAfbcTiledHeaders :=
        congrArg AllocType.isTiled (c.allocType_of_isAfbc ha).1
      rw [Exact.layerDistance, if_pos (c.isAfbc_eq ▸ ha), layerAlign, htl]
    rw [layersAligned_iff_of_isAfbc hc hl hd hfit ha, hdist, Exact.LayerResidue, if_pos ha]
    exact Exact.afbcBufferAlignment_dvd_layer_iff hf ht c.info_mem
      ((supported_of_validateFormat c.valid).1 ha) ha
      fun htl hn => c.isYuv_of_linearHeaders ha hn htl
  by_cases hr : c.allocType.isAfrc = true
  · -- the layers follow each other without rounding
    have hdist : Exact.layerDistance c (prepared caps node d) =
        Exact.total c.info c.allocType d.usage (Exact.dims c.format (prepared caps node d)).1
          (Exact.dims c.format (prepared caps node d)).2 c.info.npln := by
      rw [Exact.layerDistance, if_neg fun h => ha (c.isAfbc_eq.trans h)]
    rw [layersAligned_iff_of_isAfrc hc hl hd hfit hr, hdist,
      Exact.forall_planeAlignment_dvd_iff d.usage _ _ hf hr, Exact.LayerResidue, if_neg ha,
      if_pos hr]
    cases hcpu : d.usage.hasCpu with
    | true => rw [if_pos rfl]
    | false =>
      -- without CPU access the planes are whole paging tiles
      rw [if_neg Bool.false_ne_true, ← Exact.planeAlignment_zero_dvd_total_iff hf ht hr hcpu]
      refine and_iff_left_of_imp fun _ hn => ?_
      have hbody := Exact.planeAlignment_dvd_body (Exact.dims c.format (prepared caps node d)).1
        (Exact.dims c.format (prepared caps node d)).2 hf ht hr hcpu
        (Nat.sub_lt hf.npln_pos Nat.one_pos)
      rwa [Exact.planeAlignment_of_pos _ (by omega)] at hbody
  · simp [LayersAligned, PlaneAligned, ha, hr, Exact.LayerResidue]

end

/-! ### Two layers of two bytes a pixel -/

/-- Two layers of one superblock of AFBC RGB_565, for the GPU. -/
def pair : BufferDescriptor := .request 16#32 16#32 0x300#64 0x18004#64 2#32

/-- The descriptor that is derived: a layer has a header of 1024 and a body of 512 bytes. -/
def pairDerived : BufferDescriptor :=
  { pair with
    allocFormat := ⟨.unorm, 4#32, 0x10000#32⟩
    pixelStride := 16
    planeInfo := PlaneLayout.zero.set 0 ⟨0, 32, 16, 16⟩
    size := 3072 }

/-- The format that is chosen for it. -/
def pairChoice : Choice pair.usage pair.height := (choose .gpuOnly pair).get (by decide)

theorem choose_pair : choose .gpuOnly pair = some pairChoice := (Option.some_get _).symm

theorem layersFit_pair : LayersFit .gpuOnly noDecoder pair pairChoice :=
  ⟨by decide +kernel, by decide +kernel⟩

/-- The equivalence, at the two layers. -/
theorem layersAligned_iff_pair :
    LayersAligned pair pairChoice pairDerived ↔
      Exact.LayerResidue pairChoice.info pairChoice.allocType pair.usage
        (Exact.dims pairChoice.format (prepared .gpuOnly noDecoder pair)).1
        (Exact.dims pairChoice.format (prepared .gpuOnly noDecoder pair)).2 :=
  layersAligned_iff choose_pair (by decide) (by decide +kernel) layersFit_pair

/-- **The second layer starts in the middle** of an alignment. -/
theorem not_layersAligned_pair :
    deriveFormatAndSize wrapping .gpuOnly noDecoder pair = .ok (.success, pairDerived) ∧
      choose .gpuOnly pair = some pairChoice ∧ 1 < pair.layerCount.toNat ∧
      LayersFit .gpuOnly noDecoder pair pairChoice ∧
      ¬LayersAligned pair pairChoice pairDerived := by
  refine ⟨by decide +kernel, choose_pair, by decide, layersFit_pair, fun h => ?_⟩
  have h₁ := h 1 (by decide) 0 (by decide)
  rw [PlaneAligned, if_pos (by decide)] at h₁
  exact absurd h₁.1 (by decide)

end Gralloc
