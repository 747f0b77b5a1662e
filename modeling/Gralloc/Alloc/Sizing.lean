import Gralloc.Alloc.Checked

/-!
# The checked sizing is the exact one

The specifications of the functions of a plane compose to one of a step of the loop
(`Gralloc.Exact.exactly_sizePlane`), this one by induction on the number of planes to one
of the loop (`Gralloc.Exact.exactly_sizePlanes`), and with the adjustment of the
dimensions before and the multiplication by the layers after it to one of the whole
second half of the derivation, `Gralloc.Exact.exactly_sizing`.

The invariant of the loop is an equation: after `n` planes the state is
`Gralloc.Exact.stateAt`, in which the first `n` planes hold their closed forms and the
others what the descriptor held before.
-/

namespace Gralloc

open CInt

namespace Exact

/-! ### The state of the loop -/

section

variable (f : FormatInfo) (t : AllocType) (usage : Usage) (w h : ℕ) (init : PlaneLayout) (p : ℤ)

/-- The state of the loop after `n` planes, from the layout `init`; `p` is what is made of
the stride of the first plane. -/
def stateAt : ℕ → SizeState
  | 0 => ⟨init.set 0 { init.get 0 with offset := 0 }, 0, 0⟩
  | n + 1 =>
    ⟨(stateAt n).planeInfo.set n (plane f t usage w h n), p, total f t usage w h (n + 1)⟩

@[simp] theorem stateAt_size (n : ℕ) :
    (stateAt f t usage w h init p n).size = total f t usage w h n := by
  cases n <;> rfl

theorem stateAt_pixelStride {n : ℕ} (hn : 0 < n) :
    (stateAt f t usage w h init p n).pixelStride = p := by
  cases n with
  | zero => exact absurd hn (lt_irrefl 0)
  | succ n => rfl

/-- The planes that were reached hold their closed forms. -/
theorem stateAt_get_of_lt {n i : ℕ} (hn : n ≤ 3) (hi : i < n) :
    (stateAt f t usage w h init p n).planeInfo.get i = plane f t usage w h i := by
  induction n with
  | zero => exact absurd hi (Nat.not_lt_zero i)
  | succ n ih =>
    rcases Nat.lt_succ_iff_lt_or_eq.mp hi with hi | rfl
    · rw [stateAt, Planes.get_set_of_ne _ _ (by omega) (by omega) (by omega)]
      exact ih (by omega) hi
    · rw [stateAt, Planes.get_set_self]

/-- The planes that were not reached hold what they held before. -/
theorem stateAt_get_of_le {n i : ℕ} (hi₀ : 0 < i) (hi₃ : i < 3) (hi : n ≤ i) :
    (stateAt f t usage w h init p n).planeInfo.get i = init.get i := by
  induction n with
  | zero => rw [stateAt, Planes.get_set_of_ne _ _ (by omega) (by omega) (by omega)]
  | succ n ih =>
    rw [stateAt, Planes.get_set_of_ne _ _ (by omega) (by omega) (by omega)]
    exact ih (by omega)

/-- The first plane starts the layer, before and after it is reached. -/
theorem stateAt_offset_zero {n : ℕ} (hn : n ≤ 3) :
    ((stateAt f t usage w h init p n).planeInfo.get 0).offset = 0 := by
  rcases n with _ | n
  · rw [stateAt, Planes.get_set_self]
  · rw [stateAt_get_of_lt f t usage w h init p hn (Nat.succ_pos n)]
    simp [plane, start, startFrom, total]

end

/-! ### One plane -/

section

variable {f : FormatInfo} {t : AllocType} {usage : Usage} {w h : ℕ} {i : ℕ}

theorem planeAlignment_pos (ht : t.WellFormed f) (hr : t.isAfrc = true) (plane : ℕ) :
    0 < t.planeAlignment plane := by
  rcases ht.codingUnit hr plane with h | h | h <;> omega

theorem le_startFrom (ht : t.WellFormed f) (plane size : ℕ) : size ≤ startFrom t plane size := by
  unfold startFrom
  split_ifs with hr
  · exact le_alignUp (planeAlignment_pos ht hr plane)
  · exact le_rfl

theorem planeAlignment_dvd (ht : t.WellFormed f) (hr : t.isAfrc = true) (plane : ℕ) :
    t.planeAlignment plane ∣ 2 ^ 64 := by
  rcases ht.codingUnit hr plane with ⟨-, h⟩ | ⟨-, h⟩ | ⟨-, h⟩ <;> rw [h] <;> decide

theorem exactly_planeStart (ht : t.WellFormed f) (n : ℕ) :
    Exactly (t.isAfrc = true → startFrom t i n < 2 ^ 64) True (planeStart checked t i n)
      (startFrom t i n) := by
  by_cases hr : t.isAfrc = true
  · have hpos := planeAlignment_pos ht hr i
    simp only [startFrom, planeStart, hr, if_true, true_imp_iff]
    exact .alignU64_of_dvd n hpos (planeAlignment_dvd ht hr i)
  · simp only [startFrom, planeStart, hr, Bool.false_eq_true, if_false, false_imp_iff]
    exact .pure _

theorem start_zero (f : FormatInfo) (t : AllocType) (usage : Usage) (w h : ℕ) :
    start f t usage w h 0 = 0 := by
  simp [start, startFrom, total]

/-- While a plane is being written, the first plane is either it or done. -/
theorem stateAt_set_get_zero (init : PlaneLayout) (p : ℤ) (q : PlaneInfo) (hi : i < 3) :
    ((stateAt f t usage w h init p i).planeInfo.set i q).get 0 =
      if i = 0 then q else plane f t usage w h 0 := by
  split_ifs with h₀
  · rw [h₀, Planes.get_set_self]
  · rw [Planes.get_set_of_ne _ _ hi (by decide) (by omega),
      stateAt_get_of_lt f t usage w h init p hi.le (by omega)]

/-- **One plane.** From the exact state the checked loop computes the next exact state,
within the bounds of the plane and under its assertions; `hook` specifies what is done
with the stride of the first plane. -/
theorem exactly_sizePlane (hf : f.WellFormed) (ht : t.WellFormed f)
    (hb : t.isBlockLinear = true → f.blockLinear = true) (hi : i < f.npln)
    (hw : w < 2 ^ 31) (hh : h < 2 ^ 31) {onLuma : ℕ → Run ℤ} {L M : Prop} {p : ℤ}
    (hook : Exactly L M (onLuma (stride f t usage w 0)) p) (init : PlaneLayout) :
    Exactly ((i = 0 → L) ∧ Fits f t usage w h i) ((i = 0 → M) ∧ Checks f t usage w i)
      (sizePlane checked f t usage onLuma w h i (stateAt f t usage w h init p i))
      (stateAt f t usage w h init p (i + 1)) := by
  have hi₃ := hi.trans_le hf.npln_le
  have hluma : Exactly (i = 0 → L) (i = 0 → M)
      (stepIf (i = 0) (onLuma (stride f t usage w i))
        (stateAt f t usage w h init p i).pixelStride) p := by
    rcases i with _ | i
    · exact (Exactly.stepIf _ fun _ => hook).congr Iff.rfl (fun _ => Iff.rfl) fun _ _ => rfl
    · refine (Exactly.pure p).congr (by simp) (by simp) fun _ _ => rfl
  simp only [sizePlane, Planes.set_set, Planes.get_set_self]
  refine .congr (.bind (.u32 _) fun _ _ => .bind (.u32 _) fun _ _ =>
    .bind (exactly_getPixelWH hf ht hi hw hh) fun _ _ =>
    .bind (exactly_byteStride hf ht hb hi hw ?_ ?_ ?_) fun hrow _ =>
    .bind hluma fun _ _ => .bind (.u32 _) fun _ _ =>
    .bind (exactly_planeStart ht _) fun _ _ =>
    .bind (exactly_bodySize hf ht hb hi hrow ?_ ?_ ?_ ?_) fun _ _ =>
    .bind exactly_headerSize fun _ _ => .bind (.stepIf _ fun _ => .u32 _) fun _ _ =>
    .bind (.i32 (share f t usage w h i)) fun _ _ => .bind (.u64 _) fun _ _ => .pure _) ?_ ?_ ?_
  -- for the stride, the layout holds the dimensions of the plane and all of the first one
  · rw [Planes.get_set_self]
  · rw [stateAt_set_get_zero init p _ hi₃]
    split_ifs with h₀
    · rw [h₀]
    · rfl
  · intro h₀
    rw [stateAt_set_get_zero init p _ hi₃, if_neg h₀, plane]
  -- for the body, the stride too
  · rw [Planes.get_set_self]
  · rw [Planes.get_set_self]
  · rw [Planes.get_set_self]
  · rw [stateAt_set_get_zero init p _ hi₃]
    split_ifs with h₀
    · rw [h₀]
    · rfl
  · -- the bounds of a plane are those of its steps: a share bounds its body and its header
    have hstart : startFrom t i (total f t usage w h i) = start f t usage w h i := rfl
    have hshare : share f t usage w h i = body f t usage w h i + header f t usage w h i := rfl
    rw [stateAt_size, hstart]
    constructor
    · rintro ⟨hL, hrow, hpixels, hsh, hst⟩
      exact ⟨by omega, by omega, trivial, hrow, hL, hpixels, fun _ => by omega, by omega,
        by omega, fun _ => hst, hsh, by omega, trivial⟩
    · rintro ⟨-, -, -, hrow, hL, hpixels, -, -, -, hst, hsh, -, -⟩
      refine ⟨hL, hrow, hpixels, hsh, ?_⟩
      rcases Nat.eq_zero_or_pos i with rfl | hi₀
      · rw [start_zero]
        decide
      · exact hst hi₀
  · intro _
    simp only [true_and, and_true, implies_true]
    exact and_comm
  · -- the offset is the start of the plane, which for the first one was there before
    intro _ _
    rw [stateAt_size]
    have hoff : (if 0 < i then startFrom t i (total f t usage w h i)
        else ((stateAt f t usage w h init p i).planeInfo.get i).offset) =
          start f t usage w h i := by
      rcases Nat.eq_zero_or_pos i with rfl | hi₀
      · rw [if_neg (lt_irrefl 0), stateAt_offset_zero f t usage w h init p (by decide),
          start_zero]
      · rw [if_pos hi₀]
        rfl
    rw [hoff]
    rfl

/-! ### The loop -/

/-- What holds of the hook once and of each plane, holds after one more plane. -/
private theorem once_and_forall_succ {L : Prop} {F : ℕ → Prop} (n : ℕ) :
    ((0 < n + 1 → L) ∧ ∀ i < n + 1, F i) ↔
      ((0 < n → L) ∧ ∀ i < n, F i) ∧ (n = 0 → L) ∧ F n := by
  rw [Nat.forall_lt_succ_right]
  constructor
  · rintro ⟨hL, hF, hn⟩
    exact ⟨⟨fun _ => hL n.succ_pos, hF⟩, fun _ => hL n.succ_pos, hn⟩
  · rintro ⟨⟨hL, hF⟩, hL₀, hn⟩
    exact ⟨fun _ => n.eq_zero_or_pos.elim hL₀ hL, hF, hn⟩

/-- **The loop**, by induction on the number of planes. -/
theorem exactly_sizePlanes (hf : f.WellFormed) (ht : t.WellFormed f)
    (hb : t.isBlockLinear = true → f.blockLinear = true) (hw : w < 2 ^ 31) (hh : h < 2 ^ 31)
    {onLuma : ℕ → Run ℤ} {L M : Prop} {p : ℤ}
    (hook : Exactly L M (onLuma (stride f t usage w 0)) p) (init : PlaneLayout) {n : ℕ}
    (hn : n ≤ f.npln) :
    Exactly ((0 < n → L) ∧ ∀ i < n, Fits f t usage w h i)
      ((0 < n → M) ∧ ∀ i < n, Checks f t usage w i)
      (sizePlanes checked f t usage onLuma w h (stateAt f t usage w h init p 0) n)
      (stateAt f t usage w h init p n) := by
  induction n with
  | zero => exact (Exactly.pure _).congr (by simp) (by simp) fun _ _ => rfl
  | succ n ih =>
    refine .congr (.bind (ih (by omega)) fun _ _ =>
      exactly_sizePlane hf ht hb (by omega) hw hh hook init) ?_ ?_ ?_
    · exact once_and_forall_succ n
    · exact fun _ => once_and_forall_succ n
    · exact fun _ _ => rfl

/-- **The size computation.** -/
theorem exactly_calcAllocationSizeWith (hf : f.WellFormed) (ht : t.WellFormed f)
    (hb : t.isBlockLinear = true → f.blockLinear = true) (hw : w < 2 ^ 31) (hh : h < 2 ^ 31)
    {onLuma : ℕ → Run ℤ} {L M : Prop} {p : ℤ}
    (hook : Exactly L M (onLuma (stride f t usage w 0)) p) (init : PlaneLayout) :
    Exactly (L ∧ ∀ i < f.npln, Fits f t usage w h i)
      (M ∧ ∀ i < f.npln, Checks f t usage w i)
      (calcAllocationSizeWith checked f t usage onLuma w h init)
      (stateAt f t usage w h init p f.npln) :=
  (exactly_sizePlanes hf ht hb hw hh hook init le_rfl).congr
    (by simp only [hf.npln_pos, true_imp_iff]) (fun _ => by simp only [hf.npln_pos, true_imp_iff])
    fun _ _ => rfl

end

/-! ### Dimensions and layers -/

section

variable {A : Arith} (format : InternalFormat) (d : BufferDescriptor)

/-- A rounding that is stored in an `int` only has to fit there. -/
theorem sum_lt_of_alignUp_lt {v a : ℕ} (ha : 0 < a) (ha' : a < 2 ^ 32)
    (h : alignUp v a < 2 ^ 31) : v + a - 1 < 2 ^ 32 := by
  have hle := le_alignUp (v := v) ha
  rcases Nat.eq_zero_or_pos v with rfl | hv
  · omega
  · have := Nat.le_of_dvd (alignUp_pos ha hv) (dvd_alignUp v a)
    omega

theorem hasDecoderAlign_pos {d : BufferDescriptor} (hd : d.hasDecoderAlign = true) :
    0 < d.decoderPara.wAlign.toNat ∧ 0 < d.decoderPara.hAlign.toNat := by
  simp only [BufferDescriptor.hasDecoderAlign, Bool.and_eq_true, bne_iff_ne, ne_eq,
    ← BitVec.toNat_inj, BitVec.toNat_zero] at hd
  exact ⟨Nat.pos_of_ne_zero hd.1, Nat.pos_of_ne_zero hd.2⟩

theorem exactly_alignByDecoder (hd : d.hasDecoderAlign = true) (w h : ℕ) :
    Exactly (alignUp w d.decoderPara.wAlign.toNat < 2 ^ 31 ∧
        alignUp h d.decoderPara.hAlign.toNat < 2 ^ 31) True
      (alignByDecoder checked d w h)
      ((alignUp w d.decoderPara.wAlign.toNat : ℕ), (alignUp h d.decoderPara.hAlign.toNat : ℕ)) := by
  obtain ⟨hw, hh⟩ := hasDecoderAlign_pos hd
  refine .congr (.bind (.alignU32 w hw) fun _ _ => .bind (.i32 _) fun _ _ =>
    .bind (.alignU32 h hh) fun _ _ => .bind (.i32 _) fun _ _ => .pure _) ?_ ?_ ?_
  · constructor
    · rintro ⟨h₁, h₂⟩
      exact ⟨sum_lt_of_alignUp_lt hw d.decoderPara.wAlign.isLt h₁, h₁,
        sum_lt_of_alignUp_lt hh d.decoderPara.hAlign.isLt h₂, h₂, trivial⟩
    · rintro ⟨-, h₁, -, h₂, -⟩
      exact ⟨h₁, h₂⟩
  · simp
  · exact fun _ _ => rfl

theorem exactly_alignForDecoder (usage : Usage) (w : ℕ) {h : ℕ} (hh : h < 2 ^ 31) :
    Exactly (alignUp w 64 < 2 ^ 31 ∧
        (if !usage.has Usage.consumerPrivate3 then alignUp h 64 else h) < 2 ^ 31) True
      (alignForDecoder checked usage w h)
      ((alignUp w 64 : ℕ),
        (if !usage.has Usage.consumerPrivate3 then alignUp h 64 else h : ℕ)) := by
  refine .congr (.bind (.alignI32_of_dvd w (by decide) (by decide)) fun _ _ =>
    .bind (.alignI32_stepIf _ (by decide) (by decide) hh) fun _ _ => .pure _) ?_ ?_ ?_
  · rw [and_true]
  · simp
  · exact fun _ _ => rfl

/-- Padding and alignment only enlarge. -/
theorem le_adjusted (usage : Usage) (w h : ℕ) :
    w ≤ (adjusted format usage w h).1 ∧ h ≤ (adjusted format usage w h).2 := by
  have hw := le_alignUp_ite (v := w) (b := 16) (padsToGpuTile format usage) (by decide)
  have hh := le_alignUp_ite (v := h + videoPadding format usage) (b := 16)
    (padsToGpuTile format usage) (by decide)
  simp only [adjusted]
  generalize (if padsToGpuTile format usage = true then alignUp w 16 else w) = w' at *
  generalize (if padsToGpuTile format usage = true then
    alignUp (h + videoPadding format usage) 16 else h + videoPadding format usage) = h' at *
  have hw' := le_alignUp (v := w') (show 0 < 64 by decide)
  have hh' := le_alignUp_ite (v := h') (b := 64) (!usage.has Usage.consumerPrivate3) (by decide)
  split_ifs at hh' ⊢ <;> exact ⟨by dsimp only; omega, by dsimp only; omega⟩

theorem exactly_adjustDimensions (usage : Usage) {w : ℕ} (h : ℕ) (hw : w < 2 ^ 31) :
    Exactly ((adjusted format usage w h).1 < 2 ^ 31 ∧ (adjusted format usage w h).2 < 2 ^ 31) True
      (adjustDimensions checked format usage w h)
      (((adjusted format usage w h).1 : ℕ), ((adjusted format usage w h).2 : ℕ)) := by
  have h16 : 16 ∣ 2 ^ 31 := by decide
  unfold adjustDimensions
  refine .congr (.bind (.i32 (h + videoPadding format usage)) fun hh _ =>
    .bind (.alignI32_stepIf _ (by decide) h16 hw) fun hw' _ =>
    .bind (.alignI32_stepIf _ (by decide) h16 hh) fun hh' _ =>
    .stepIf _ fun _ => exactly_alignForDecoder usage _ hh') ?_ ?_ ?_
  · -- each rounding enlarges, so that only the last dimensions have to be those of an `int`
    simp only [adjusted]
    have hle : h + videoPadding format usage ≤
        if padsToGpuTile format usage = true then alignUp (h + videoPadding format usage) 16
        else h + videoPadding format usage := le_alignUp_ite _ (by decide)
    generalize (if padsToGpuTile format usage = true then alignUp w 16 else w) = w' at *
    generalize (if padsToGpuTile format usage = true then
      alignUp (h + videoPadding format usage) 16 else h + videoPadding format usage) = h' at *
    have hw64 := le_alignUp (v := w') (show 0 < 64 by decide)
    have hh64 := le_alignUp_ite (v := h') (b := 64) (!usage.has Usage.consumerPrivate3)
      (by decide)
    generalize (if (!usage.has Usage.consumerPrivate3) = true then alignUp h' 64 else h') = h''
      at *
    by_cases hn : usage.needDoWidthHeightAlign w' h' = true
    · simp only [hn, if_true, true_imp_iff]
      omega
    · simp only [hn, Bool.false_eq_true, if_false, false_imp_iff, and_true]
      omega
  · simp
  · intro _ _
    simp only [adjusted]
    split_ifs <;> rfl

/-- The dimensions that are sized are at least those requested. -/
theorem le_dims : d.width.toNat ≤ (dims format d).1 ∧ d.height.toNat ≤ (dims format d).2 := by
  unfold dims
  split_ifs with hd
  · obtain ⟨hw, hh⟩ := hasDecoderAlign_pos hd
    exact ⟨le_alignUp hw, le_alignUp hh⟩
  · exact le_adjusted format d.usage _ _

/-- Without AFBC nothing is padded, and an empty request stays empty. -/
theorem dims_pos_iff (hf : format.isAfbc ≠ true) :
    (0 < (dims format d).1 ↔ d.width ≠ 0#32) ∧ (0 < (dims format d).2 ↔ d.height ≠ 0#32) := by
  have hpad : videoPadding format d.usage = 0 := by simp [videoPadding, hf]
  have hgpu : padsToGpuTile format d.usage = false := by simp [padsToGpuTile, hf]
  obtain ⟨hw, hh⟩ := le_dims format d
  have hzero (x : BitVec 32) : x = 0#32 ↔ x.toNat = 0 := by
    rw [← BitVec.toNat_inj, BitVec.toNat_zero]
  have hw₀ : d.width.toNat = 0 → (dims format d).1 = 0 := by
    intro h
    simp only [dims, adjusted, hpad, hgpu, h]
    split_ifs <;> simp
  have hh₀ : d.height.toNat = 0 → (dims format d).2 = 0 := by
    intro h
    simp only [dims, adjusted, hpad, hgpu, h]
    split_ifs <;> simp
  rw [ne_eq, ne_eq, hzero, hzero]
  omega

/-- **The dimensions** are computed without overflow when the result is an `int`. -/
theorem exactly_allocDimensions :
    Exactly ((dims format d).1 < 2 ^ 31 ∧ (dims format d).2 < 2 ^ 31) True
      (allocDimensions checked format d) (((dims format d).1 : ℕ), ((dims format d).2 : ℕ)) := by
  unfold allocDimensions
  by_cases hd : d.hasDecoderAlign = true
  · simp only [dims, hd, if_true]
    refine .congr (.bind (.i32 _) fun _ _ => .bind (.i32 _) fun _ _ =>
      exactly_alignByDecoder d hd _ _) ?_ ?_ ?_
    · obtain ⟨hw, hh⟩ := hasDecoderAlign_pos hd
      have hw' := le_alignUp (v := d.width.toNat) hw
      have hh' := le_alignUp (v := d.height.toNat) hh
      omega
    · simp
    · exact fun _ _ => rfl
  · simp only [dims, hd, Bool.false_eq_true, if_false]
    refine .congr (.bind (.i32 _) fun hw _ => .bind (.i32 _) fun _ _ =>
      exactly_adjustDimensions format d.usage _ hw) ?_ ?_ ?_
    · have := le_adjusted format d.usage d.width.toNat d.height.toNat
      omega
    · simp
    · exact fun _ _ => rfl

theorem layerAlign_pos : 0 < layerAlign format := by
  unfold layerAlign
  split_ifs <;> decide

theorem layerAlign_dvd : layerAlign format ∣ 2 ^ 64 := by
  unfold layerAlign
  split_ifs <;> decide

theorem exactly_allLayers (layerCount : BitVec 32) (size : ℕ) :
    Exactly (1 < layerCount.toNat → layers format layerCount size < 2 ^ 64) True
      (allLayers checked format layerCount size) (layers format layerCount size) := by
  unfold allLayers layers
  refine .congr (.stepIf _ fun _ => .bind (.stepIf _ fun _ =>
    .alignU64_of_dvd _ (layerAlign_pos format) (layerAlign_dvd format)) fun _ _ => .u64 _) ?_ ?_ ?_
  · -- one layer is no larger than all of them
    refine forall_congr' fun hn => ?_
    have hle := Nat.le_mul_of_pos_right
      (if format.isAfbc = true then alignUp size (layerAlign format) else size)
      (Nat.zero_lt_of_lt hn)
    rw [if_pos hn]
    refine ⟨fun h => ⟨fun ha => ?_, h⟩, And.right⟩
    rw [if_pos ha] at h hle
    exact hle.trans_lt h
  · simp
  · exact fun _ _ => rfl

end

/-! ### The second half of the derivation -/

section

variable {usage : Usage} {rows : BitVec 32} (c : Choice usage rows) (d : BufferDescriptor)

/-- The layer that the second half of the derivation computes, exactly; `p` is what is
made of the stride of the first plane. -/
def layer (p : ℤ) : SizeState :=
  stateAt c.info c.allocType usage (dims c.format d).1 (dims c.format d).2 d.planeInfo p c.info.npln

/-- The allocated width of a plane. -/
def planeWidth (i : ℕ) : ℕ := width c.info c.allocType usage (dims c.format d).1 i

/-- The allocated height of a plane. -/
def planeHeight (i : ℕ) : ℕ := height c.info c.allocType usage (dims c.format d).2 i

/-- **The bounds of a layer**: its dimensions are those of an `int`, and the products of
each plane fit. -/
structure Bounds : Prop where
  width : (dims c.format d).1 < 2 ^ 31
  height : (dims c.format d).2 < 2 ^ 31
  planes : ∀ i < c.info.npln,
    Fits c.info c.allocType usage (dims c.format d).1 (dims c.format d).2 i

instance : Decidable (Bounds c d) :=
  decidable_of_iff
    ((dims c.format d).1 < 2 ^ 31 ∧ (dims c.format d).2 < 2 ^ 31 ∧
      ∀ i < c.info.npln,
        Fits c.info c.allocType usage (dims c.format d).1 (dims c.format d).2 i)
    ⟨fun ⟨h₁, h₂, h₃⟩ => ⟨h₁, h₂, h₃⟩, fun ⟨h₁, h₂, h₃⟩ => ⟨h₁, h₂, h₃⟩⟩

/-- **The assertions on a layer.** -/
def Asserts : Prop := ∀ i < c.info.npln, Checks c.info c.allocType usage (dims c.format d).1 i

theorem layer_size (p : ℤ) :
    (layer c d p).size =
      total c.info c.allocType usage (dims c.format d).1 (dims c.format d).2 c.info.npln :=
  stateAt_size _ _ _ _ _ _ _ _

theorem layer_pixelStride (p : ℤ) : (layer c d p).pixelStride = p :=
  stateAt_pixelStride _ _ _ _ _ _ _ c.info_wellFormed.npln_pos

theorem layer_get {i : ℕ} (p : ℤ) (hi : i < c.info.npln) :
    (layer c d p).planeInfo.get i =
      plane c.info c.allocType usage (dims c.format d).1 (dims c.format d).2 i :=
  stateAt_get_of_lt _ _ _ _ _ _ _ c.info_wellFormed.npln_le hi

/-- **A layer**, in the checked reading, is exact. -/
theorem exactly_layer {onLuma : ℕ → Run ℤ} {L M : Prop} {p : ℤ}
    (hook : Exactly L M (onLuma (stride c.info c.allocType usage (dims c.format d).1 0)) p) :
    Exactly (Bounds c d ∧ L) (Asserts c d ∧ M)
      (c.layer checked d onLuma) (layer c d p) := by
  refine .congr (.bind (exactly_allocDimensions c.format d) fun hwh _ =>
    exactly_calcAllocationSizeWith c.info_wellFormed c.allocType_wellFormed
      c.blockLinear_of_isBlockLinear hwh.1 hwh.2 hook d.planeInfo) ?_ ?_ ?_
  · constructor
    · rintro ⟨⟨hw, hh, hp⟩, hL⟩
      exact ⟨⟨hw, hh⟩, hL, hp⟩
    · rintro ⟨⟨hw, hh⟩, hL, hp⟩
      exact ⟨⟨hw, hh, hp⟩, hL⟩
  · intro _
    rw [true_and]
    exact and_comm
  · exact fun _ _ => rfl

/-- The layers of a buffer, exactly. -/
def sized (p : ℤ) : SizeState :=
  { layer c d p with size := layers c.format d.layerCount (layer c d p).size }

/-- **The second half of the derivation**, in the checked reading, is exact. -/
theorem exactly_sizing {onLuma : ℕ → Run ℤ} {L M : Prop} {p : ℤ}
    (hook : Exactly L M (onLuma (stride c.info c.allocType usage (dims c.format d).1 0)) p) :
    Exactly ((Bounds c d ∧ L) ∧ (1 < d.layerCount.toNat → (sized c d p).size < 2 ^ 64))
      (Asserts c d ∧ M) (c.sizing checked d onLuma) (sized c d p) := by
  refine .congr (.bind (exactly_layer c d hook) fun _ _ =>
    .bind (exactly_allLayers c.format d.layerCount _) fun _ _ => .pure _) ?_ ?_ ?_
  · rw [and_true]
    rfl
  · intro _
    simp only [and_true]
  · exact fun _ _ => rfl

end

end Exact

end Gralloc
