import Gralloc.Alloc.Stride
import Gralloc.Alloc.Handle

/-!
# Frame buffers of a fixed size

A frame buffer is given the size that the display needs at 32 bits a pixel, and 9 % for
the headers and the padding of AFBC, so that buffers of one size follow each other in a
small heap. The size that was derived is overwritten, whatever it was: the request is
compared with the display by its width and its height only.

Every run of the override is one equation (`Gralloc.finalDescriptor_wrapping`): a request
either keeps its descriptor or has its size replaced, and nothing else. So the buffer is no
smaller than derived exactly when a replaced request fits in what the display needs
(`Gralloc.sizeKept_iff`); more than 32 bits a pixel, several layers or a display of more
than 2³⁰ pixels do not.
-/

namespace Gralloc

open CInt

/-! ### What a display needs -/

namespace Displays

variable (displays : Displays)

/-- The display that frame buffers are made for, as the machine reads its constants. -/
def used : ℕ × ℕ :=
  let primary := ((displays.primaryWidth % 2 ^ 32).toNat, (displays.primaryHeight % 2 ^ 32).toNat)
  let extend := ((displays.extendWidth % 2 ^ 32).toNat, (displays.extendHeight % 2 ^ 32).toNat)
  if displays.displayNum = 1 then primary
  else if displays.displayNum = 2 then
    if (displays.extendWidth * displays.extendHeight).bmod (2 ^ 32) <
        (displays.primaryWidth * displays.primaryHeight).bmod (2 ^ 32)
    then extend else primary
  else (0, 0)

/-- The bytes of a frame buffer: four a pixel, counted in 32 bits, and 9 % where there is
AFBC. -/
def budget : ℕ :=
  let bytes := displays.used.1 * displays.used.2 * 4 % 2 ^ 32
  if displays.isUtgard then bytes else bytes * 109 / 100

theorem usedDisplay_wrapping : usedDisplay wrapping displays = .ok displays.used := by
  have hi (x : ℤ) : wrapping.i32 x = .ok (x.bmod (2 ^ 32)) := rfl
  have hu (x : ℤ) : wrapping.u32 x = .ok (x % 2 ^ 32).toNat := rfl
  simp only [usedDisplay, used, hi, hu, ok_bind]
  split_ifs <;> rfl

theorem fixedBufferSize_wrapping :
    fixedBufferSize wrapping displays displays.used.1 displays.used.2 = .ok displays.budget := by
  simp only [fixedBufferSize, budget, wrapping_u32, ok_bind]
  rw [Nat.mul_comm displays.used.2, Nat.mod_mul_mod]

end Displays

/-! ### The override -/

section

variable {displays : Displays} {caps : Capabilities} {node : ℕ → Option DecoderPara}
  {d d' : BufferDescriptor}

/-- **The size of a descriptor is replaced**: it is a frame buffer, no larger than the
display, and not one of the small ones. -/
structure Replaced (displays : Displays) (d : BufferDescriptor) : Prop where
  hwFb : d.usage.has Usage.hwFb = true
  height : d.height.toNat ≤ displays.used.2
  width : d.width.toNat ≤ displays.used.1
  size : twoExtFbBufferSizeUpper < d.size

instance (displays : Displays) (d : BufferDescriptor) : Decidable (Replaced displays d) :=
  decidable_of_iff
    (d.usage.has Usage.hwFb = true ∧ d.height.toNat ≤ displays.used.2 ∧
      d.width.toNat ≤ displays.used.1 ∧ twoExtFbBufferSizeUpper < d.size)
    ⟨fun ⟨h₁, h₂, h₃, h₄⟩ => ⟨h₁, h₂, h₃, h₄⟩, fun ⟨h₁, h₂, h₃, h₄⟩ => ⟨h₁, h₂, h₃, h₄⟩⟩

/-- **The descriptor that the heap sees**: the derived one, but for its size. -/
theorem finalDescriptor_wrapping (displays : Displays) (d : BufferDescriptor) :
    finalDescriptor wrapping displays d =
      .ok (if Replaced displays d then { d with size := displays.budget } else d) := by
  by_cases hfb : d.usage.has Usage.hwFb = true
  · rw [finalDescriptor, stepIf_of hfb, setFixedBufferSize, displays.usedDisplay_wrapping, ok_bind]
    by_cases hr : Replaced displays d
    · rw [if_pos ⟨hr.height, hr.width, hr.size⟩, if_pos hr, displays.fixedBufferSize_wrapping,
        ok_bind]
    · rw [if_neg fun ⟨h₁, h₂, h₃⟩ => hr ⟨hfb, h₁, h₂, h₃⟩, if_neg hr]
  · rw [finalDescriptor, stepIf_of_not hfb, if_neg fun hr => hfb hr.hwFb]

/-- **The heap is asked for the derived size at least.** -/
def SizeKept (displays : Displays) (d' : BufferDescriptor) : Prop :=
  ∃ d'', finalDescriptor wrapping displays d' = .ok d'' ∧ d'.size ≤ d''.size

/-- The dimensions and the usage are those of the request. -/
theorem replaced_iff_of_success
    (hd : deriveFormatAndSize wrapping caps node d = .ok (.success, d')) :
    Replaced displays d' ↔
      d.usage.has Usage.hwFb = true ∧ d.height.toNat ≤ displays.used.2 ∧
        d.width.toNat ≤ displays.used.1 ∧ twoExtFbBufferSizeUpper < d'.size := by
  obtain ⟨c, -, wh, -, s, -, size, -, pitches, -, rfl⟩ := deriveFormatAndSize_eq_success.mp hd
  have hu : (prepared caps node d).usage = d.usage := prepared_usage
  have hw : (prepared caps node d).width = d.width := prepared_width
  have hh : (prepared caps node d).height = d.height := prepared_height
  rw [← hu, ← hw, ← hh]
  exact ⟨fun ⟨h₁, h₂, h₃, h₄⟩ => ⟨h₁, h₂, h₃, h₄⟩, fun ⟨h₁, h₂, h₃, h₄⟩ => ⟨h₁, h₂, h₃, h₄⟩⟩

/-- A size is kept unless it is replaced by a smaller one. -/
theorem sizeKept_iff_replaced :
    SizeKept displays d' ↔ (Replaced displays d' → d'.size ≤ displays.budget) := by
  simp only [SizeKept, finalDescriptor_wrapping, Except.ok.injEq, exists_eq_left']
  by_cases hr : Replaced displays d'
  · rw [if_pos hr]
    exact ⟨fun h _ => h, fun h => h hr⟩
  · rw [if_neg hr]
    exact iff_of_true le_rfl fun h => absurd h hr

/-- **The heap is asked for the derived size at least** exactly when the request is no
frame buffer, exceeds the display, is small, or takes no more than what the display
needs. -/
theorem sizeKept_iff (hd : deriveFormatAndSize wrapping caps node d = .ok (.success, d')) :
    SizeKept displays d' ↔
      (d.usage.has Usage.hwFb = true → d.height.toNat ≤ displays.used.2 →
        d.width.toNat ≤ displays.used.1 → twoExtFbBufferSizeUpper < d'.size →
        d'.size ≤ displays.budget) := by
  rw [sizeKept_iff_replaced, replaced_iff_of_success hd]
  constructor
  · intro h hfb hh hw hs
    exact h ⟨hfb, hh, hw, hs⟩
  · rintro h ⟨hfb, hh, hw, hs⟩
    exact h hfb hh hw hs

/-- Where the sizes of the request fit, it decides by itself: the size that is compared is
the exact one. -/
theorem sizeKept_iff_of_sizesFit {c : Choice d.usage d.height} (hfit : SizesFit caps node d c)
    (hc : choose caps d = some c)
    (hd : deriveFormatAndSize wrapping caps node d = .ok (.success, d')) :
    SizeKept displays d' ↔
      (d.usage.has Usage.hwFb = true ∧ d.height.toNat ≤ displays.used.2 ∧
          d.width.toNat ≤ displays.used.1 ∧
          twoExtFbBufferSizeUpper < (Exact.sized c (prepared caps node d) 0).size →
        (Exact.sized c (prepared caps node d) 0).size ≤ displays.budget) := by
  rw [sizeKept_iff_replaced, replaced_iff_of_success hd, hfit.size_eq hc hd]

/-- **A kept size holds every plane of every layer**, where the sizes of the request
fit. -/
theorem SizeKept.plane_le {c : Choice d.usage d.height} (h : SizeKept displays d')
    (hfit : SizesFit caps node d c) (hc : choose caps d = some c)
    (hd : deriveFormatAndSize wrapping caps node d = .ok (.success, d')) {i l : ℕ}
    (hi : i < c.info.npln) (hl : l < max 1 d.layerCount.toNat) :
    ∃ d'', finalDescriptor wrapping displays d' = .ok d'' ∧
      l * (d'.size / max 1 d.layerCount.toNat) +
        ((d'.planeInfo.get i).offset + Exact.share c.info c.allocType d.usage
          (Exact.dims c.format (prepared caps node d)).1
          (Exact.dims c.format (prepared caps node d)).2 i) ≤ d''.size := by
  obtain ⟨d'', hfinal, hle⟩ := h
  exact ⟨d'', hfinal, (hfit.plane_le hc hd hi hl).trans hle⟩

end

/-! ### A frame buffer of 64 bits a pixel -/

/-- A product with one display of 1920 × 1080. -/
def fullHd : Displays := ⟨1, 1920, 1080, 0, 0, false⟩

/-- A frame buffer of RGBA_FP16, for the whole display. -/
def half : BufferDescriptor := .request 1920#32 1080#32 0x1200#64 0x8016#64 1#32

/-- The descriptor that is derived. -/
def halfDerived : BufferDescriptor :=
  { half with
    allocFormat := ⟨.sfloat, 22#32, 0#32⟩
    size := 16588800
    pixelStride := 1920
    planeInfo := PlaneLayout.zero.set 0 ⟨0, 15360, 1920, 1080⟩ }

/-- The equivalence, at the frame buffer. -/
theorem sizeKept_iff_half :
    SizeKept fullHd halfDerived ↔
      (half.usage.has Usage.hwFb = true → half.height.toNat ≤ fullHd.used.2 →
        half.width.toNat ≤ fullHd.used.1 → twoExtFbBufferSizeUpper < halfDerived.size →
        halfDerived.size ≤ fullHd.budget) :=
  sizeKept_iff (show deriveFormatAndSize wrapping .gpuOnly noDecoder half =
    .ok (.success, halfDerived) by decide +kernel)

/-- **The frame buffer is derived with 16588800 bytes and allocated with 9040896.** -/
theorem not_sizeKept_half :
    deriveFormatAndSize wrapping .gpuOnly noDecoder half = .ok (.success, halfDerived) ∧
      ¬SizeKept fullHd halfDerived := by
  refine ⟨by decide +kernel, ?_⟩
  rintro ⟨d'', hd, hle⟩
  have h : finalDescriptor wrapping fullHd halfDerived =
      .ok { halfDerived with size := 9040896 } := by
    decide +kernel
  rw [← Except.ok.inj (h.symm.trans hd)] at hle
  exact absurd hle (by decide)

end Gralloc
