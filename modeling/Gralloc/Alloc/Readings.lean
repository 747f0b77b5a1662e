import Gralloc.Alloc.Sizing

/-!
# One derivation, three readings

The derivation is one definition over a reading of C arithmetic, built from the
operations of the reading by `bind`. It therefore inherits their order: the checked
reading is below the machine's and below the exact one, function by function
(`Gralloc.Approx.sizing` is the last of them).

The sizes do not depend on what is made of the stride of the first plane, as long as this
returns (`Gralloc.calcAllocationSizeWith_of_hook`): the layout of the machine's run, which
derives a pixel stride in the middle of it, is that of the run that does not
(`Gralloc.noLuma`), and a statement about sizes alone is made about the latter.

Last, `Gralloc.deriveFormatAndSize_eq_success` takes a successful derivation apart, once
for every statement about accepted requests.
-/

namespace Gralloc

open CInt

/-! ### The checked reading is below the others -/

namespace Approx

section

variable {A B : Arith} (hA : A.Approx B) (f : FormatInfo) (t : AllocType) (usage : Usage)

include hA

theorem getPixelWH (plane : ℕ) (hasCpu : Bool) (w h : ℕ) :
    CInt.Approx (Gralloc.getPixelWH A f t plane hasCpu w h)
      (Gralloc.getPixelWH B f t plane hasCpu w h) :=
  (hA.alignU32 _ _).bind fun _ => (hA.alignU32 _ _).bind fun _ => (Approx.refl _).bind fun _ =>
    (Approx.refl _).bind fun _ => (hA.alignU32 _ _).bind fun _ => (hA.alignU32 _ _).bind fun _ =>
    .refl _

theorem lcm (a b : ℕ) : CInt.Approx (Gralloc.lcm A a b) (Gralloc.lcm B a b) :=
  .ite ((hA.u32 _).bind fun _ => .refl _) (.refl _)

theorem afrcByteStride (plane w : ℕ) :
    CInt.Approx (Gralloc.afrcByteStride A t plane w) (Gralloc.afrcByteStride B t plane w) :=
  (Approx.refl _).bind fun _ => (Approx.refl _).bind fun _ => (hA.u32 _).bind fun _ =>
    (Approx.refl _).bind fun _ => .refl _

theorem afbcByteStride (plane w : ℕ) :
    CInt.Approx (Gralloc.afbcByteStride A f plane w) (Gralloc.afbcByteStride B f plane w) :=
  (hA.u32 _).bind fun _ => .refl _

theorem blockLinearByteStride (plane w w₀ : ℕ) :
    CInt.Approx (Gralloc.blockLinearByteStride A f plane w w₀)
      (Gralloc.blockLinearByteStride B f plane w w₀) :=
  (Approx.refl _).bind fun _ => (Approx.refl _).bind fun _ => (Approx.refl _).bind fun _ =>
    (Approx.refl _).bind fun _ => (Approx.refl _).bind fun _ => (hA.u32 _).bind fun _ => .refl _

theorem strideAlign (plane : ℕ) :
    CInt.Approx (Gralloc.strideAlign A f usage plane) (Gralloc.strideAlign B f usage plane) :=
  (Approx.refl _).bind fun _ => lcm hA _ _

theorem alignTileStride (stride align : ℕ) :
    CInt.Approx (Gralloc.alignTileStride A f stride align)
      (Gralloc.alignTileStride B f stride align) :=
  (hA.u32 _).bind fun _ => (hA.alignU32 _ _).bind fun _ => .refl _

theorem updateYv12Stride (plane luma align : ℕ) :
    CInt.Approx (Gralloc.updateYv12Stride A plane luma align)
      (Gralloc.updateYv12Stride B plane luma align) :=
  .ite (hA.alignU32 _ _) ((hA.alignU32 _ _).bind fun _ => .refl _)

theorem linearByteStride (plane w luma : ℕ) :
    CInt.Approx (Gralloc.linearByteStride A f usage plane w luma)
      (Gralloc.linearByteStride B f usage plane w luma) :=
  (Approx.refl _).bind fun _ => (hA.u64 _).bind fun _ => (hA.u32 _).bind fun _ =>
    (strideAlign hA f usage plane).bind fun _ =>
    ((alignTileStride hA f _ _).stepIf _).bind fun _ =>
    (updateYv12Stride hA plane _ _).stepIf _

theorem byteStride (plane : ℕ) (planeInfo : PlaneLayout) :
    CInt.Approx (Gralloc.byteStride A f t usage plane planeInfo)
      (Gralloc.byteStride B f t usage plane planeInfo) :=
  .ite (afrcByteStride hA t _ _) <| .ite (afbcByteStride hA f _ _) <|
    .ite (blockLinearByteStride hA f _ _ _) <| linearByteStride hA f usage _ _ _

theorem pixelStride (stride : ℕ) :
    CInt.Approx (Gralloc.pixelStride A f stride) (Gralloc.pixelStride B f stride) :=
  (hA.u32 _).bind fun _ => (Approx.refl _).bind fun _ => (Approx.refl _).bind fun _ =>
    (Approx.refl _).bind fun _ => hA.i32 _

theorem afbcBufferAlign (size : ℤ) :
    CInt.Approx (Gralloc.afbcBufferAlign A t size) (Gralloc.afbcBufferAlign B t size) :=
  hA.alignI32 _ _

theorem afbcBodySize (plane sbNum : ℕ) :
    CInt.Approx (Gralloc.afbcBodySize A f t plane sbNum)
      (Gralloc.afbcBodySize B f t plane sbNum) :=
  (hA.u32 _).bind fun _ => (hA.i32 _).bind fun _ =>
    ((afbcBufferAlign hA t _).stepIf _).bind fun _ =>
    CInt.Approx.stepIf ((afbcBufferAlign hA t _).bind fun _ => hA.i32 _) _

theorem bodySize (plane : ℕ) (planeInfo : PlaneLayout) (sbNum : ℕ) :
    CInt.Approx (Gralloc.bodySize A f t plane planeInfo sbNum)
      (Gralloc.bodySize B f t plane planeInfo sbNum) :=
  .ite (afbcBodySize hA f t _ _) <|
    .ite ((Approx.refl _).bind fun _ => (Approx.refl _).bind fun _ =>
      (hA.u32 _).bind fun _ => hA.i32 _) <|
    .ite ((Approx.refl _).bind fun _ => (hA.u32 _).bind fun _ => (hA.u32 _).bind fun _ =>
      hA.i32 _) <|
    (hA.u32 _).bind fun _ => hA.i32 _

theorem headerSize (sbNum : ℕ) :
    CInt.Approx (Gralloc.headerSize A t sbNum) (Gralloc.headerSize B t sbNum) :=
  .ite ((hA.u32 _).bind fun _ => (hA.i32 _).bind fun _ => afbcBufferAlign hA t _) (.refl _)

variable {onLuma onLuma' : ℕ → Run ℤ} (hook : ∀ n, CInt.Approx (onLuma n) (onLuma' n))

include hook

theorem sizePlane (w h : ℤ) (plane : ℕ) (s : SizeState) :
    CInt.Approx (Gralloc.sizePlane A f t usage onLuma w h plane s)
      (Gralloc.sizePlane B f t usage onLuma' w h plane s) :=
  (hA.u32 _).bind fun _ => (hA.u32 _).bind fun _ => (getPixelWH hA f t _ _ _ _).bind fun _ =>
    (byteStride hA f t usage _ _).bind fun _ => ((hook _).stepIf _).bind fun _ =>
    (hA.u32 _).bind fun _ => (CInt.Approx.ite (hA.alignU64 _ _) (.refl _)).bind fun _ =>
    (bodySize hA f t _ _ _).bind fun _ => (headerSize hA t _).bind fun _ =>
    ((hA.u32 _).stepIf _).bind fun _ => (hA.i32 _).bind fun _ => (hA.u64 _).bind fun _ => .refl _

theorem sizePlanes (w h : ℤ) (s : SizeState) (n : ℕ) :
    CInt.Approx (Gralloc.sizePlanes A f t usage onLuma w h s n)
      (Gralloc.sizePlanes B f t usage onLuma' w h s n) := by
  induction n with
  | zero => exact .refl _
  | succ n ih => exact ih.bind fun s => sizePlane hA f t usage hook w h n s

theorem calcAllocationSizeWith (w h : ℤ) (init : PlaneLayout) :
    CInt.Approx (Gralloc.calcAllocationSizeWith A f t usage onLuma w h init)
      (Gralloc.calcAllocationSizeWith B f t usage onLuma' w h init) :=
  sizePlanes hA f t usage hook w h _ f.npln

omit hook

theorem alignByDecoder (d : BufferDescriptor) (w h : ℤ) :
    CInt.Approx (Gralloc.alignByDecoder A d w h) (Gralloc.alignByDecoder B d w h) :=
  (hA.alignU32 _ _).bind fun _ => (hA.i32 _).bind fun _ => (hA.alignU32 _ _).bind fun _ =>
    (hA.i32 _).bind fun _ => .refl _

theorem alignForDecoder (w h : ℤ) :
    CInt.Approx (Gralloc.alignForDecoder A usage w h) (Gralloc.alignForDecoder B usage w h) :=
  (hA.alignI32 _ _).bind fun _ => ((hA.alignI32 _ _).stepIf _).bind fun _ => .refl _

theorem adjustDimensions (format : InternalFormat) (w h : ℤ) :
    CInt.Approx (Gralloc.adjustDimensions A format usage w h)
      (Gralloc.adjustDimensions B format usage w h) :=
  (hA.i32 _).bind fun _ => ((hA.alignI32 _ _).stepIf _).bind fun _ =>
    ((hA.alignI32 _ _).stepIf _).bind fun _ => (alignForDecoder hA usage _ _).stepIf _

theorem allocDimensions (format : InternalFormat) (d : BufferDescriptor) :
    CInt.Approx (Gralloc.allocDimensions A format d) (Gralloc.allocDimensions B format d) :=
  (hA.i32 _).bind fun _ => (hA.i32 _).bind fun _ =>
    .ite (alignByDecoder hA d _ _) (adjustDimensions hA d.usage format _ _)

theorem allLayers (format : InternalFormat) (layerCount : BitVec 32) (size : ℕ) :
    CInt.Approx (Gralloc.allLayers A format layerCount size)
      (Gralloc.allLayers B format layerCount size) :=
  CInt.Approx.stepIf (((hA.alignU64 _ _).stepIf _).bind fun _ => hA.u64 _) _

variable {usage} {height : BitVec 32} (c : Choice usage height) (d : BufferDescriptor)

/-- **A layer** of the checked reading is below that of the others. -/
theorem layer (hook : ∀ n, CInt.Approx (onLuma n) (onLuma' n)) :
    CInt.Approx (c.layer A d onLuma) (c.layer B d onLuma') :=
  (allocDimensions hA c.format d).bind fun _ =>
    calcAllocationSizeWith hA c.info c.allocType usage hook _ _ _

/-- **The second half of the derivation** in the checked reading is below the others. -/
theorem sizing (hook : ∀ n, CInt.Approx (onLuma n) (onLuma' n)) :
    CInt.Approx (c.sizing A d onLuma) (c.sizing B d onLuma') :=
  (layer hA c d hook).bind fun _ => (allLayers hA c.format d.layerCount _).bind fun _ => .refl _

end

end Approx

/-! ### Sizes do not depend on the pixel stride -/

/-- Nothing is made of the stride of the first plane. -/
def noLuma (_ : ℕ) : Run ℤ := .ok 0

section

variable {A : Arith} {f : FormatInfo} {t : AllocType} {usage : Usage} {onLuma : ℕ → Run ℤ}

/-- A step that returns, returns the same sizes when nothing is made of the stride. -/
theorem sizePlane_of_hook {w h : ℤ} {plane : ℕ} {s s' : SizeState}
    (hs : sizePlane A f t usage onLuma w h plane s = .ok s') :
    sizePlane A f t usage noLuma w h plane { s with pixelStride := 0 } =
      .ok { s' with pixelStride := 0 } := by
  simp only [sizePlane, Planes.set_set, Planes.get_set_self, bind_eq_ok,
    Except.ok.injEq] at hs ⊢
  obtain ⟨w', hw, h', hh, wh, hwh, stride, hstride, p, -, pixels, hpixels, start, hstart, body,
    hbody, header, hheader, offset, hoffset, share, hshare, size, hsize, rfl⟩ := hs
  refine ⟨w', hw, h', hh, wh, hwh, stride, hstride, 0, ?_, pixels, hpixels, start, hstart, body,
    hbody, header, hheader, offset, hoffset, share, hshare, size, hsize, rfl⟩
  unfold stepIf noLuma
  split_ifs <;> rfl

theorem sizePlanes_of_hook {w h : ℤ} {s s' : SizeState} {n : ℕ}
    (hs : sizePlanes A f t usage onLuma w h s n = .ok s') :
    sizePlanes A f t usage noLuma w h { s with pixelStride := 0 } n =
      .ok { s' with pixelStride := 0 } := by
  induction n generalizing s' with
  | zero =>
    cases hs
    rfl
  | succ n ih =>
    obtain ⟨s₁, hs₁, hs⟩ := bind_eq_ok.mp hs
    exact bind_eq_ok.mpr ⟨_, ih hs₁, sizePlane_of_hook hs⟩

/-- **The sizes do not depend on the pixel stride**, once this is computed. -/
theorem calcAllocationSizeWith_of_hook {w h : ℤ} {init : PlaneLayout} {s : SizeState}
    (hs : calcAllocationSizeWith A f t usage onLuma w h init = .ok s) :
    calcAllocationSizeWith A f t usage noLuma w h init = .ok { s with pixelStride := 0 } :=
  sizePlanes_of_hook hs

end

/-! ### A successful derivation -/

section

variable {A : Arith} {caps : Capabilities} {node : ℕ → Option DecoderPara}
  {d d' : BufferDescriptor}

/-- The descriptor once its format is written and its decoder parameters are read, which
the second half of the derivation works on. -/
def prepared (caps : Capabilities) (node : ℕ → Option DecoderPara) (d : BufferDescriptor) :
    BufferDescriptor :=
  withDecoderPara node { d with allocFormat := selectFormat caps d.halFormat d.flags d.usage }

/-- The decoder only writes its own fields. -/
theorem prepared_eq (caps : Capabilities) (node : ℕ → Option DecoderPara) (d : BufferDescriptor) :
    ∃ para type, prepared caps node d =
      { d with
        allocFormat := selectFormat caps d.halFormat d.flags d.usage
        decoderPara := para
        decoderParaType := type } := by
  unfold prepared withDecoderPara
  dsimp only
  split_ifs
  · split
    · exact ⟨_, _, rfl⟩
    · exact ⟨_, _, rfl⟩
  · exact ⟨_, _, rfl⟩

@[simp] theorem prepared_planeInfo : (prepared caps node d).planeInfo = d.planeInfo := by
  obtain ⟨_, _, h⟩ := prepared_eq caps node d
  rw [h]

@[simp] theorem prepared_layerCount : (prepared caps node d).layerCount = d.layerCount := by
  obtain ⟨_, _, h⟩ := prepared_eq caps node d
  rw [h]

@[simp] theorem prepared_width : (prepared caps node d).width = d.width := by
  obtain ⟨_, _, h⟩ := prepared_eq caps node d
  rw [h]

@[simp] theorem prepared_height : (prepared caps node d).height = d.height := by
  obtain ⟨_, _, h⟩ := prepared_eq caps node d
  rw [h]

@[simp] theorem prepared_usage : (prepared caps node d).usage = d.usage := by
  obtain ⟨_, _, h⟩ := prepared_eq caps node d
  rw [h]
  rfl

@[simp] theorem prepared_allocFormat :
    (prepared caps node d).allocFormat = selectFormat caps d.halFormat d.flags d.usage := by
  obtain ⟨_, _, h⟩ := prepared_eq caps node d
  rw [h]

/-- A chosen format leads to the second half. -/
theorem deriveFormatAndSize_of_choose {c : Choice d.usage d.height} (hc : choose caps d = some c) :
    deriveFormatAndSize A caps node d = (do
      let wh ← allocDimensions A c.format (prepared caps node d)
      let s ← c.layout A (prepared caps node d) (pixelStride A c.info) wh
      let pitches ← c.pitches A wh.1
      .ok (.success,
        { prepared caps node d with
          size := s.size
          pixelStride := s.pixelStride
          planeInfo := s.planeInfo
          pitches := pitches })) := by
  unfold deriveFormatAndSize
  dsimp only
  rw [hc]
  rfl

/-- **A successful derivation** chose a format, sized a layer at the adjusted dimensions,
multiplied it by the layers and wrote the result. -/
theorem deriveFormatAndSize_eq_success :
    deriveFormatAndSize A caps node d = .ok (.success, d') ↔
      ∃ c, choose caps d = some c ∧
        ∃ wh, allocDimensions A c.format (prepared caps node d) = .ok wh ∧
        ∃ s, calcAllocationSize A c.info c.allocType d.usage wh.1 wh.2 d.planeInfo = .ok s ∧
        ∃ size, allLayers A c.format d.layerCount s.size = .ok size ∧
        ∃ pitches, c.pitches A wh.1 = .ok pitches ∧
          d' = { prepared caps node d with
            size := size
            pixelStride := s.pixelStride
            planeInfo := s.planeInfo
            pitches := pitches } := by
  cases hc : choose caps d with
  | none =>
    constructor
    · intro h
      simp only [deriveFormatAndSize, hc] at h
      cases h
    · rintro ⟨c, h, -⟩
      cases h
  | some c =>
    rw [deriveFormatAndSize_of_choose hc]
    simp only [Choice.layout, bind_eq_ok, prepared_planeInfo, prepared_layerCount]
    constructor
    · rintro ⟨wh, hwh, _, ⟨s, hs, size, hsize, hs'⟩, pitches, hp, hd⟩
      cases hs'
      cases hd
      exact ⟨c, rfl, wh, hwh, s, hs, size, hsize, pitches, hp, rfl⟩
    · rintro ⟨c', hc', wh, hwh, s, hs, size, hsize, pitches, hp, rfl⟩
      cases hc'
      exact ⟨wh, hwh, _, ⟨s, hs, size, hsize, rfl⟩, pitches, hp, rfl⟩

/-- The format that was chosen is the one written. -/
theorem allocFormat_of_success {c : Choice d.usage d.height} (hc : choose caps d = some c)
    (hd : deriveFormatAndSize A caps node d = .ok (.success, d')) : d'.allocFormat = c.format := by
  obtain ⟨c', hc', -, -, -, -, -, -, -, -, rfl⟩ := deriveFormatAndSize_eq_success.mp hd
  rw [format_of_choose hc]
  exact prepared_allocFormat

/-- **The layer of a successful derivation**, without its pixel stride. -/
theorem layer_of_success {c : Choice d.usage d.height} (hc : choose caps d = some c)
    (hd : deriveFormatAndSize A caps node d = .ok (.success, d')) :
    ∃ size, c.layer A (prepared caps node d) noLuma = .ok ⟨d'.planeInfo, 0, size⟩ ∧
      allLayers A c.format d.layerCount size = .ok d'.size := by
  obtain ⟨c', hc', wh, hwh, s, hs, size, hsize, -, -, rfl⟩ := deriveFormatAndSize_eq_success.mp hd
  cases hc.symm.trans hc'
  refine ⟨s.size, bind_eq_ok.mpr ⟨wh, hwh, ?_⟩, hsize⟩
  rw [prepared_planeInfo]
  exact calcAllocationSizeWith_of_hook hs

end

end Gralloc
