import Gralloc.Heap.Uvm

/-!
# What the UVM is asked for

The numbers of a request to the UVM come from two other processes. The size of the buffer is
the client's; the dimensions of a frame, their alignments and the bytes of it are the decoder's.
All are 32 bits wide without a sign, and are multiplied, doubled and stored in `int`s.

`Gralloc.UvmExact` has the numbers over the integers, one formula for each branch of the policy.
A request is *sound* (`Gralloc.RequestSound`) when it has these numbers, when no operation on
the way wrapped around, and when neither the scalar nor the memory that is asked for is zero.
Each branch has its own limits, and `Gralloc.requestSound_iff` says that they are all there is
to it.
-/

namespace Gralloc

open CInt

/-! ### The exact numbers -/

namespace UvmExact

/-- An alignment of the decoder; none is one of a pixel. -/
def decoderAlign (align : BitVec 32) : ℕ := if align = 0#32 then 1 else align.toNat

/-- The bytes of a decoder's frame. -/
def decoderBytes (d : BufferDescriptor) : ℕ :=
  let w := alignUp d.decoderPara.width.toNat (decoderAlign d.decoderPara.wAlign)
  let h := alignUp d.decoderPara.height.toNat (decoderAlign d.decoderPara.hAlign)
  w * h * 3 / 2 * if d.halFormat = Hal.ycbcrP010.setWidth 64 then 2 else 1

/-- The bytes of 1080p, scaled down, or of the largest frame. -/
def frameBytes (props : MediaProperties) (scalar area : ℕ) : ℕ :=
  if props.no4k then alignUp (1920 / scalar) 64 * alignUp (1080 / scalar) 64 * 3 / 2
  else (if 4096 * 2304 < area then 8192 * 4352 * 3 / 2 else 4096 * 2304 * 3 / 2) / (scalar * scalar)

/-- The bytes of a scaled-down frame. -/
def mediaBytes (props : MediaProperties) (scalar : ℕ) (d : BufferDescriptor) : ℕ :=
  if d.usage.isVideoDecoderReplace then pageSize
  else
    let size := frameBytes props scalar (d.width.toNat * d.height.toNat)
    if scalar = 4 ∧ props.fixed1080p ∧ size < 1920 * 1088 * 3 / 2 then 1920 * 1088 * 3 / 2
    else size

/-- The memory that is asked for. -/
def scaledBufSize (props : MediaProperties) (d : BufferDescriptor) (scalar : ℤ) : ℕ :=
  match d.decoderParaType with
  | .wxh => decoderBytes d
  | .size | .both => d.decoderPara.size.toNat
  | .none => if 1 < scalar then mediaBytes props scalar.toNat d else d.size

/-- The alignment. -/
def uvmAlign (d : BufferDescriptor) : ℕ :=
  if d.decoderPara.wAlign ≠ 0#32 then d.decoderPara.wAlign.toNat
  else if d.usage.needDoWidthHeightAlign d.width.toNat d.height.toNat then 64
  else 1

end UvmExact

/-- **A sound request**: it has the exact numbers, and nothing wrapped around on the way; there
is a scalar, and memory is asked for. -/
structure RequestSound (props : MediaProperties) (d : BufferDescriptor) (data : UvmAllocData) :
    Prop where
  scalar_pos : 1 ≤ data.scalar
  size : data.size = d.size
  scaled : data.scaledBufSize = UvmExact.scaledBufSize props d data.scalar
  align : data.align = UvmExact.uvmAlign d
  scaled_pos : 0 < data.scaledBufSize
  noWrap : uvmAllocData checked props d d.usage = .ok data

/-- Whole frames: the buffer is as large as it was derived. -/
def Usage.isWholeFrame (u : Usage) : Bool :=
  u.isOmxOsdExtend || u.isVideoDecoderFull || u.isVideoDecoderOsd

/-- **The limits of the branches**, beside those of every request. -/
def BranchFits (d : BufferDescriptor) : Prop :=
  match d.decoderParaType with
  | .wxh => 0 < UvmExact.decoderBytes d ∧ UvmExact.decoderBytes d < 2 ^ 31
  | .size | .both => 0 < d.decoderPara.size.toNat ∧ d.decoderPara.size.toNat < 2 ^ 31
  | .none =>
    if d.usage.isWholeFrame then 0 < d.size
    else if d.usage.isVideoDecoderQuarter || d.usage.isVideoDecoderOneSixteenth then
      d.usage.isVideoDecoderReplace = false → d.width.toNat * d.height.toNat < 2 ^ 32
    else if d.usage.isVideoDecoderReplace then pageSize ≤ d.size
    else 0 < d.size

/-- **The limits of a request.** -/
structure RequestFits (d : BufferDescriptor) : Prop where
  size : d.size < 2 ^ 31
  align : d.decoderPara.wAlign.toNat < 2 ^ 31
  branch : BranchFits d

/-! ### Storing in an `int` -/

/-- A value is stored as it is if it is small, and only then. -/
theorem toInt_eq_iff {n : ℕ} : toInt n = n ↔ n < 2 ^ 31 := by
  refine ⟨fun h => ?_, toInt_of_lt⟩
  have hlt := toInt_lt n
  omega

/-! ### The decoder's frame -/

namespace UvmExact

theorem decoderAlign_pos (align : BitVec 32) : 0 < decoderAlign align := by
  unfold decoderAlign
  split_ifs with h
  · exact Nat.one_pos
  · exact Nat.pos_of_ne_zero fun h0 => h (BitVec.eq_of_toNat_eq h0)

/-- The sum of a rounding fits, where the product of the rounded values is small. -/
theorem add_align_lt {v b x : ℕ} (hb : 0 < b) (hv : 0 < v) (hx : 0 < x)
    (h : alignUp v b * x * 3 < 2 ^ 32) : v + b - 1 < 2 ^ 32 := by
  have hle : v ≤ alignUp v b := le_alignUp hb
  have hbase : b ≤ alignUp v b := Nat.le_of_dvd (alignUp_pos hb hv) (dvd_alignUp v b)
  have hmul : alignUp v b ≤ alignUp v b * x := Nat.le_mul_of_pos_right _ hx
  omega

/-- The size of a decoder's frame, by its alignments. -/
theorem decoderBufSize_eq (A : Arith) (d : BufferDescriptor) :
    decoderBufSize A d = (do
      let w ← A.alignU32 d.decoderPara.width.toNat (decoderAlign d.decoderPara.wAlign)
      let h ← A.alignU32 d.decoderPara.height.toNat (decoderAlign d.decoderPara.hAlign)
      let pixels ← A.u32 (w * h : ℕ)
      let n ← A.u32 (pixels * 3 : ℕ)
      let size ← A.i32 (n / 2 : ℕ)
      stepIf (d.halFormat = Hal.ycbcrP010.setWidth 64) (A.i32 (size * 2)) size) := rfl

/-- A frame of some bytes has pixels. -/
theorem pos_of_decoderBytes_pos {d : BufferDescriptor} (h : 0 < decoderBytes d) :
    0 < d.decoderPara.width.toNat ∧ 0 < d.decoderPara.height.toNat := by
  constructor
  all_goals
    refine Nat.pos_of_ne_zero fun h0 => ?_
    simp [decoderBytes, h0] at h

/-- The bytes of a frame, in the checked reading. -/
theorem exactly_decoderBufSize (d : BufferDescriptor) (hpos : 0 < decoderBytes d) :
    Exactly (decoderBytes d < 2 ^ 31) True (decoderBufSize checked d) (decoderBytes d : ℤ) := by
  have hw := decoderAlign_pos d.decoderPara.wAlign
  have hh := decoderAlign_pos d.decoderPara.hAlign
  obtain ⟨hwidth, hheight⟩ := pos_of_decoderBytes_pos hpos
  have hdouble (n : ℕ) : Exactly (n * 2 < 2 ^ 31) True (checked.i32 (n * 2)) ((n * 2 : ℕ) : ℤ) := by
    exact_mod_cast Exactly.i32 (n * 2)
  rw [decoderBufSize_eq]
  refine .congr (.bind (.alignU32 _ hw) fun _ _ => .bind (.alignU32 _ hh) fun _ _ =>
    .bind (.u32 _) fun _ _ => .bind (.u32 _) fun _ _ => .bind (.i32 _) fun _ _ =>
    .stepIfNat _ fun _ => hdouble _) ?_ ?_ ?_
  · constructor
    · intro hlt
      have hprod : alignUp d.decoderPara.width.toNat (decoderAlign d.decoderPara.wAlign) *
          alignUp d.decoderPara.height.toNat (decoderAlign d.decoderPara.hAlign) * 3 < 2 ^ 32 := by
        simp only [decoderBytes] at hlt
        split_ifs at hlt <;> omega
      refine ⟨add_align_lt hw hwidth (alignUp_pos hh hheight) hprod,
        add_align_lt hh hheight (alignUp_pos hw hwidth) ?_, ?_, hprod, ?_, fun hp => ?_⟩
      · rwa [Nat.mul_comm (alignUp _ _)]
      · omega
      · omega
      · simpa only [decoderBytes, if_pos hp] using hlt
    · rintro ⟨-, -, -, -, hsize, hp⟩
      simp only [decoderBytes]
      split_ifs with h
      · exact hp h
      · omega
  · exact fun _ => by simp only [and_self, imp_true_iff]
  · intro _ _
    simp only [decoderBytes]
    split_ifs <;> simp

/-! ### Scaled-down frames -/

/-- The bytes of a frame that is scaled down to a half or a quarter of its sides, once the area
is known. -/
theorem checked_frameBytes (props : MediaProperties) (d : BufferDescriptor) {scalar : ℤ}
    (hs : scalar = 2 ∨ scalar = 4) (hr : d.usage.isVideoDecoderReplace = false) (area : ℕ)
    (ha : checked.u32 (d.width.toNat * d.height.toNat : ℕ) = .ok area) :
    execMediaPolicy checked props (4096 * 2304 * 3 / 2) scalar d =
      .ok (mediaBytes props scalar.toNat d : ℤ) := by
  obtain ⟨harea, -⟩ := checked_u32_eq_ok.mp ha
  have hne : ¬d.usage.isVideoDecoderReplace = true := by simp [hr]
  rw [execMediaPolicy, if_neg hne, ha, ok_bind, mediaBytes, if_neg hne, frameBytes,
    Int.ofNat_inj.mp harea]
  obtain ⟨no4k, fixed⟩ := props
  -- the area counts in one comparison only
  by_cases hlarge : 4096 * 2304 < area
  · simp only [if_pos hlarge]
    rcases hs with rfl | rfl <;> cases no4k <;> cases fixed <;> rfl
  · simp only [if_neg hlarge]
    rcases hs with rfl | rfl <;> cases no4k <;> cases fixed <;> rfl

/-- The bytes of a scaled-down frame, in the checked reading. -/
theorem exactly_execMediaPolicy (props : MediaProperties) (d : BufferDescriptor) {scalar : ℤ}
    (hs : scalar = 2 ∨ scalar = 4) :
    Exactly (d.usage.isVideoDecoderReplace = false → d.width.toNat * d.height.toNat < 2 ^ 32) True
      (execMediaPolicy checked props (4096 * 2304 * 3 / 2) scalar d)
      (mediaBytes props scalar.toNat d : ℤ) := by
  by_cases hr : d.usage.isVideoDecoderReplace = true
  · rw [execMediaPolicy, if_pos hr, mediaBytes, if_pos hr]
    refine (Exactly.pure _).congr ?_ (fun _ => Iff.rfl) fun _ _ => rfl
    simp only [hr, reduceCtorEq, false_imp_iff]
  · rw [Bool.not_eq_true] at hr
    have harea (hB : d.width.toNat * d.height.toNat < 2 ^ 32) :
        checked.u32 (d.width.toNat * d.height.toNat : ℕ) = .ok (d.width.toNat * d.height.toNat) :=
      checked_u32_eq_ok.mpr ⟨rfl, hB⟩
    refine ⟨fun a ha => ?_, fun hB _ => ?_, fun hB => ?_⟩
    · rw [execMediaPolicy, if_neg (by simp [hr])] at ha
      obtain ⟨area, hu, hrest⟩ := bind_eq_ok.mp ha
      obtain ⟨heq, hlt⟩ := checked_u32_eq_ok.mp hu
      refine ⟨?_, fun _ => by omega, trivial⟩
      have hok := checked_frameBytes props d hs hr area hu
      rw [execMediaPolicy, if_neg (by simp [hr]), ha] at hok
      exact Except.ok.inj hok
    · exact checked_frameBytes props d hs hr _ (harea (hB hr))
    · exact avoids_of_eq_ok (checked_frameBytes props d hs hr _ (harea (hB hr)))

/-- Scaled-down frames have bytes. -/
theorem mediaBytes_pos (props : MediaProperties) (d : BufferDescriptor) {scalar : ℕ}
    (hs : scalar = 2 ∨ scalar = 4) : 0 < mediaBytes props scalar d := by
  have hframe (area : ℕ) : 0 < frameBytes props scalar area := by
    unfold frameBytes
    rcases hs with rfl | rfl <;> split_ifs <;> decide
  unfold mediaBytes
  split_ifs
  · decide
  · dsimp only
    split_ifs
    · decide
    · exact hframe _

end UvmExact

/-! ### The branches of the policy -/

section

variable {props : MediaProperties} {d : BufferDescriptor}

/-- The scalar of a request without a decoder. -/
theorem bufScalar_of_none (h : d.decoderParaType = .none) :
    bufScalar d d.usage =
      if d.usage.isWholeFrame then some 1
      else if d.usage.isVideoDecoderQuarter then some 2
      else if d.usage.isVideoDecoderOneSixteenth then some 4
      else if d.usage.isVideoDecoderReplace then some (((d.size / pageSize).sqrt : ℕ) : ℤ)
      else none := by
  rw [bufScalar, h]
  rfl

/-- What is sound of the memory that is asked for, with its scalar. -/
def ScaledSound (props : MediaProperties) (d : BufferDescriptor) (scalar : ℤ) : Prop :=
  1 ≤ scalar ∧ 0 < UvmExact.scaledBufSize props d scalar ∧
    scaledBufSize checked props d scalar = .ok (UvmExact.scaledBufSize props d scalar : ℤ)

/-- A frame that is scaled down. -/
theorem scaledSound_of_media (h : d.decoderParaType = .none) {scalar : ℤ}
    (hs : scalar = 2 ∨ scalar = 4) :
    ScaledSound props d scalar ↔
      (d.usage.isVideoDecoderReplace = false → d.width.toNat * d.height.toNat < 2 ^ 32) := by
  have hone : 1 < scalar := by omega
  have hexact := UvmExact.exactly_execMediaPolicy props d hs
  have hpos : 0 < UvmExact.mediaBytes props scalar.toNat d :=
    UvmExact.mediaBytes_pos props d (by omega)
  rw [ScaledSound, UvmExact.scaledBufSize, scaledBufSize, h]
  simp only [if_pos hone]
  constructor
  · rintro ⟨-, -, hok⟩
    exact (hexact.of_ok _ hok).2.1
  · intro hB
    exact ⟨hone.le, hpos, hexact.ok hB trivial⟩

/-- A buffer that is backed as a whole. -/
theorem scaledSound_of_whole (h : d.decoderParaType = .none) (hsize : d.size < 2 ^ 31)
    {scalar : ℤ} (hs : scalar ≤ 1) : ScaledSound props d scalar ↔ 1 ≤ scalar ∧ 0 < d.size := by
  rw [ScaledSound, UvmExact.scaledBufSize, scaledBufSize, h]
  simp only [if_neg hs.not_gt, toInt_of_lt hsize, and_true]

/-- A buffer whose scalar is the root of its pages. -/
theorem scaledSound_of_replace (h : d.decoderParaType = .none) (hsize : d.size < 2 ^ 31)
    (hr : d.usage.isVideoDecoderReplace = true) :
    ScaledSound props d ((d.size / pageSize).sqrt : ℕ) ↔ pageSize ≤ d.size := by
  have hpage : 0 < pageSize := by decide
  have hroot : 1 ≤ (d.size / pageSize).sqrt ↔ pageSize ≤ d.size := by
    rw [Nat.succ_le_iff, Nat.sqrt_pos, Nat.div_pos_iff]
    exact and_iff_right hpage
  rw [← hroot]
  by_cases hone : 1 < (d.size / pageSize).sqrt
  · -- a page, whatever the root is
    refine iff_of_true ⟨by exact_mod_cast hone.le, ?_, ?_⟩ hone.le
    · rw [UvmExact.scaledBufSize, h]
      simp only [Nat.one_lt_cast, if_pos hone, UvmExact.mediaBytes, if_pos hr, hpage]
    · rw [UvmExact.scaledBufSize, scaledBufSize, h]
      simp only [Nat.one_lt_cast, if_pos hone, UvmExact.mediaBytes, execMediaPolicy, if_pos hr]
  · rw [scaledSound_of_whole h hsize (by exact_mod_cast not_lt.mp hone), Nat.one_le_cast]
    refine and_iff_left_of_imp fun h1 => hpage.trans_le (hroot.mp h1)

/-- The bytes that the decoder gave. -/
theorem scaledSound_of_size (h : d.decoderParaType = .size ∨ d.decoderParaType = .both)
    {scalar : ℤ} (hs : 1 ≤ scalar) :
    ScaledSound props d scalar ↔
      0 < d.decoderPara.size.toNat ∧ d.decoderPara.size.toNat < 2 ^ 31 := by
  rw [ScaledSound, UvmExact.scaledBufSize, scaledBufSize, ← toInt_eq_iff]
  rcases h with h | h <;> rw [h] <;> simp only [Except.ok.injEq, hs, true_and]

/-- The bytes of a frame of the decoder. -/
theorem scaledSound_of_wxh (h : d.decoderParaType = .wxh) {scalar : ℤ} (hs : 1 ≤ scalar) :
    ScaledSound props d scalar ↔
      0 < UvmExact.decoderBytes d ∧ UvmExact.decoderBytes d < 2 ^ 31 := by
  rw [ScaledSound, UvmExact.scaledBufSize, scaledBufSize, h]
  constructor
  · rintro ⟨-, hpos, hok⟩
    exact ⟨hpos, ((UvmExact.exactly_decoderBufSize d hpos).of_ok _ hok).2.1⟩
  · rintro ⟨hpos, hlt⟩
    exact ⟨hs, hpos, (UvmExact.exactly_decoderBufSize d hpos).ok hlt trivial⟩

/-- With a decoder the scalar is one that leaves the size to it. -/
theorem bufScalar_of_ne_none (h : d.decoderParaType ≠ .none) : bufScalar d d.usage = some 2 := by
  rw [bufScalar, if_pos (bne_iff_ne.mpr h)]

/-- **Each branch has its limits.** -/
theorem scaledSound_iff (props : MediaProperties) (hsize : d.size < 2 ^ 31) :
    ScaledSound props d ((bufScalar d d.usage).getD 1) ↔ BranchFits d := by
  unfold BranchFits
  cases h : d.decoderParaType with
  | none =>
    rw [bufScalar_of_none h]
    dsimp only
    by_cases hwhole : d.usage.isWholeFrame = true
    · rw [if_pos hwhole, if_pos hwhole, Option.getD_some, scaledSound_of_whole h hsize le_rfl]
      exact and_iff_right le_rfl
    rw [if_neg hwhole, if_neg hwhole]
    by_cases hquarter : d.usage.isVideoDecoderQuarter = true
    · rw [if_pos hquarter, if_pos (by simp [hquarter]), Option.getD_some,
        scaledSound_of_media h (.inl rfl)]
    rw [if_neg hquarter]
    by_cases hsixteenth : d.usage.isVideoDecoderOneSixteenth = true
    · rw [if_pos hsixteenth, if_pos (by simp [hsixteenth]), Option.getD_some,
        scaledSound_of_media h (.inr rfl)]
    have hno : ¬(d.usage.isVideoDecoderQuarter || d.usage.isVideoDecoderOneSixteenth) = true := by
      simp [hquarter, hsixteenth]
    rw [if_neg hsixteenth, if_neg hno]
    by_cases hreplace : d.usage.isVideoDecoderReplace = true
    · rw [if_pos hreplace, if_pos hreplace, Option.getD_some,
        scaledSound_of_replace h hsize hreplace]
    · rw [if_neg hreplace, if_neg hreplace, Option.getD_none, scaledSound_of_whole h hsize le_rfl]
      exact and_iff_right le_rfl
  | wxh =>
    rw [bufScalar_of_ne_none (by simp [h]), Option.getD_some]
    exact scaledSound_of_wxh h (by decide)
  | size =>
    rw [bufScalar_of_ne_none (by simp [h]), Option.getD_some]
    exact scaledSound_of_size (.inl h) (by decide)
  | both =>
    rw [bufScalar_of_ne_none (by simp [h]), Option.getD_some]
    exact scaledSound_of_size (.inr h) (by decide)

/-! ### The request -/

/-- The request for some memory. -/
def uvmRequest (d : BufferDescriptor) (scaled : ℤ) : UvmAllocData where
  size := toInt d.size
  byteStride := toInt d.planeInfo.p0.byteStride
  width := d.width
  height := d.height
  align := uvmAlign d d.usage
  flags := uvmFlags d d.usage
  scalar := (bufScalar d d.usage).getD 1
  scaledBufSize := scaled

@[simp] theorem uvmRequest_size (d : BufferDescriptor) (scaled : ℤ) :
    (uvmRequest d scaled).size = toInt d.size := by
  rw [uvmRequest]

theorem uvmAllocData_eq (A : Arith) (props : MediaProperties) (d : BufferDescriptor) :
    uvmAllocData A props d d.usage =
      (scaledBufSize A props d ((bufScalar d d.usage).getD 1) >>= fun scaled =>
        .ok (uvmRequest d scaled)) := rfl

/-- The probes of the player are as wide in an `int`. -/
theorem toInt_beq_hundred (x : BitVec 32) : (toInt x.toNat == 100) = ((x.toNat : ℤ) == 100) := by
  have hx : toInt x.toNat = x.toInt := (BitVec.toInt_eq_toNat_bmod x).symm
  have hlt := x.isLt
  rw [hx, BitVec.toInt_eq_toNat_cond, Bool.eq_iff_iff, beq_iff_eq, beq_iff_eq]
  split_ifs <;> omega

/-- The dimensions that are aligned are those of the request. -/
theorem needDoWidthHeightAlign_toInt (u : Usage) (x y : BitVec 32) :
    u.needDoWidthHeightAlign (toInt x.toNat) (toInt y.toNat) =
      u.needDoWidthHeightAlign x.toNat y.toNat := by
  rw [Usage.needDoWidthHeightAlign, Usage.needDoWidthHeightAlign, toInt_beq_hundred,
    toInt_beq_hundred]

/-- The alignment is stored as it is if it is small. -/
theorem uvmAlign_eq_iff :
    uvmAlign d d.usage = UvmExact.uvmAlign d ↔ d.decoderPara.wAlign.toNat < 2 ^ 31 := by
  rw [uvmAlign, UvmExact.uvmAlign]
  by_cases h : d.decoderPara.wAlign = 0#32
  · refine iff_of_true ?_ (by rw [h]; decide)
    rw [if_neg (not_not.mpr h), if_neg (not_not.mpr h), needDoWidthHeightAlign_toInt]
    split_ifs <;> rfl
  · rw [if_pos h, if_pos h]
    exact toInt_eq_iff

/-- The memory that is asked for, in two readings. -/
theorem approx_scaledBufSize {A B : Arith} (h : A.Approx B) (props : MediaProperties)
    (d : BufferDescriptor) (scalar : ℤ) :
    Approx (scaledBufSize A props d scalar) (scaledBufSize B props d scalar) := by
  unfold scaledBufSize
  cases d.decoderParaType with
  | wxh =>
    exact (h.alignU32 _ _).bind fun _ => (h.alignU32 _ _).bind fun _ => (h.u32 _).bind fun _ =>
      (h.u32 _).bind fun _ => (h.i32 _).bind fun _ => (h.i32 _).stepIf _
  | size => exact .refl _
  | both => exact .refl _
  | none =>
    refine .ite (.ite (.refl _) ?_) (.refl _)
    refine (h.u32 _).bind fun _ => (h.i32 _).bind fun _ => (Approx.refl _).bind fun _ =>
      (Approx.stepIf ?_ _).bind fun _ => .refl _
    refine (Approx.refl _).bind fun _ => (h.alignI32 _ _).bind fun _ => (Approx.refl _).bind
      fun _ => (h.alignI32 _ _).bind fun _ => ?_
    exact (h.i32 _).bind fun _ => (h.i32 _).bind fun _ => .refl _

/-- The scalars that there are. -/
theorem bufScalar_cases (d : BufferDescriptor) :
    d.usage.isVideoDecoderReplace = true ∨ (bufScalar d d.usage).getD 1 = 1 ∨
      (bufScalar d d.usage).getD 1 = 2 ∨ (bufScalar d d.usage).getD 1 = 4 := by
  by_cases h : d.decoderParaType = .none
  · rw [bufScalar_of_none h]
    split_ifs with hw hq hs hr
    · exact .inr (.inl rfl)
    · exact .inr (.inr (.inl rfl))
    · exact .inr (.inr (.inr rfl))
    · exact .inl hr
    · exact .inr (.inl rfl)
  · rw [bufScalar_of_ne_none h]
    exact .inr (.inr (.inl rfl))

/-- The machine always finds how much memory to ask for. -/
theorem exists_scaledBufSize (props : MediaProperties) (d : BufferDescriptor) :
    ∃ scaled, scaledBufSize wrapping props d ((bufScalar d d.usage).getD 1) = .ok scaled := by
  refine exists_ok_of_avoids fun e => ?_
  unfold scaledBufSize
  cases d.decoderParaType with
  | wxh =>
    have hw := UvmExact.decoderAlign_pos d.decoderPara.wAlign
    have hh := UvmExact.decoderAlign_pos d.decoderPara.hAlign
    exact (avoids_wrapping_alignU32 e _ hw).bind fun _ _ =>
      (avoids_wrapping_alignU32 e _ hh).bind fun _ _ => (avoids_wrapping_u32 e _).bind fun _ _ =>
      (avoids_wrapping_u32 e _).bind fun _ _ => (avoids_wrapping_i32 e _).bind fun _ _ =>
      .stepIf _ fun _ => avoids_wrapping_i32 e _
  | size => exact avoids_ok e _
  | both => exact avoids_ok e _
  | none =>
    refine .ite (fun hone => .ite (fun _ => avoids_ok e _) fun hr => ?_) fun _ => avoids_ok e _
    have hs := (bufScalar_cases d).resolve_left hr
    generalize (bufScalar d d.usage).getD 1 = scalar at hone hs ⊢
    have hsquare {n : ℤ} (hn : wrapping.i32 (scalar * scalar) = .ok n) : n ≠ 0 := by
      rcases hs with rfl | rfl | rfl <;> cases hn <;> decide
    have hscalar : scalar ≠ 0 := by omega
    refine (avoids_wrapping_u32 e _).bind fun _ _ => (avoids_wrapping_i32 e _).bind fun _ hn =>
      (avoids_sdiv_of_ne (hsquare hn) e _).bind fun _ _ => (Avoids.stepIf _ fun _ => ?_).bind
      fun _ _ => avoids_ok e _
    refine (avoids_sdiv_of_ne hscalar e _).bind fun _ _ =>
      (avoids_wrapping_alignI32 e _ (by decide)).bind fun _ _ =>
      (avoids_sdiv_of_ne hscalar e _).bind fun _ _ =>
      (avoids_wrapping_alignI32 e _ (by decide)).bind fun _ _ => ?_
    exact (avoids_wrapping_i32 e _).bind fun _ _ => (avoids_wrapping_i32 e _).bind fun _ _ =>
      avoids_sdiv_of_ne (by decide) e _

/-- **A sound request**, by its memory. -/
theorem requestSound_uvmRequest_iff {scaled : ℤ}
    (hok : scaledBufSize wrapping props d ((bufScalar d d.usage).getD 1) = .ok scaled) :
    RequestSound props d (uvmRequest d scaled) ↔ RequestFits d := by
  constructor
  · intro h
    have hsize : d.size < 2 ^ 31 := by
      rw [← toInt_eq_iff, ← h.size, uvmRequest_size]
    have hscaled : scaled = UvmExact.scaledBufSize props d ((bufScalar d d.usage).getD 1) :=
      h.scaled
    have hpos : 0 < scaled := h.scaled_pos
    have halign : uvmAlign d d.usage = UvmExact.uvmAlign d := h.align
    refine ⟨hsize, uvmAlign_eq_iff.mp halign,
      (scaledSound_iff props hsize).mp ⟨h.scalar_pos, by omega, ?_⟩⟩
    obtain ⟨scaled', hchecked, hdata⟩ := bind_eq_ok.mp h.noWrap
    have heq : scaled' = scaled := congrArg UvmAllocData.scaledBufSize (Except.ok.inj hdata)
    rw [hchecked, heq, hscaled]
  · rintro ⟨hsize, halign, hbranch⟩
    obtain ⟨hscalar, hpos, hchecked⟩ := (scaledSound_iff props hsize).mpr hbranch
    have hmachine := (approx_scaledBufSize checked_approx_wrapping props d _).eq_ok hchecked
    obtain rfl := Except.ok.inj (hok.symm.trans hmachine)
    refine ⟨hscalar, by rw [uvmRequest_size, toInt_of_lt hsize], rfl, uvmAlign_eq_iff.mpr halign,
      Int.natCast_pos.mpr hpos, ?_⟩
    rw [uvmAllocData_eq, hchecked]
    rfl

/-- The policy asks the UVM once. -/
theorem execUvmPolicy_of_usesUvm {kernel : Kernel} (hk : 0 ≤ kernel.getUvm)
    (hu : d.usage.usesUvm = true) {scaled : ℤ}
    (hok : scaledBufSize wrapping props d ((bufScalar d d.usage).getD 1) = .ok scaled)
    (agu : UvmExecData) :
    execUvmPolicy wrapping props kernel d d.usage agu =
      .ok ⟨[.uvmAlloc (uvmRequest d scaled)],
        if (kernel.uvmAlloc (uvmRequest d scaled)).1 < 0 then
          (kernel.uvmAlloc (uvmRequest d scaled)).1
        else (kernel.uvmAlloc (uvmRequest d scaled)).2,
        uvmExecData d d.usage⟩ := by
  rw [execUvmPolicy, if_neg hk.not_gt, if_pos hu, uvmAllocData_eq, hok]
  rfl

/-- **What the UVM is asked for is sound** exactly within the limits. -/
theorem requestSound_iff (props : MediaProperties) (d : BufferDescriptor) {kernel : Kernel}
    (hk : 0 ≤ kernel.getUvm) (hu : d.usage.usesUvm = true) (agu : UvmExecData) :
    ∃ data r, execUvmPolicy wrapping props kernel d d.usage agu = .ok r ∧
      r.calls = [.uvmAlloc data] ∧ (RequestSound props d data ↔ RequestFits d) := by
  obtain ⟨scaled, hscaled⟩ := exists_scaledBufSize props d
  exact ⟨uvmRequest d scaled, _, execUvmPolicy_of_usesUvm hk hu hscaled agu, rfl,
    requestSound_uvmRequest_iff hscaled⟩

end

/-! ### A frame that wraps, and a buffer of less than a page -/

/-- 16 × 16 pixels of NV21 for the decoder and the GPU. -/
def decoderRequest (usage : Usage) : BufferDescriptor := .request 16#32 16#32 usage 0x11#64 1#32

/-- The descriptor that is derived. -/
def decoderDerived (usage : Usage) (type : DecoderParaType) (para : DecoderPara) :
    BufferDescriptor :=
  { decoderRequest usage with
    size := 768
    pixelStride := 32
    allocFormat := ⟨.unorm, 0x101#32, 0#32⟩
    planeInfo := ⟨⟨0, 32, 16, 16⟩, ⟨512, 32, 8, 8⟩, ⟨0, 0, 0, 0⟩⟩
    decoderParaType := type
    decoderPara := para }

/-- A decoder of square frames, aligned to 16. -/
def squareFrames (side : BitVec 32) : DecoderPara := ⟨side, side, 16#32, 16#32, 0#32, 0#32⟩

/-- A kernel whose UVM has memory. -/
def Kernel.withUvm : Kernel where
  getUvm := 3
  uvmAlloc _ := (0, 7)
  alloc _ _ := -1

/-- A frame of 640 × 640. -/
theorem requestSound_iff_squareFrames :
    ∃ data r, execUvmPolicy wrapping ⟨false, false⟩ .withUvm
        (decoderDerived 0x1000000400100#64 .wxh (squareFrames 640#32)) 0x1000000400100#64
        ⟨0#32, 0#32, 0#32⟩ = .ok r ∧ r.calls = [.uvmAlloc data] ∧
      RequestSound ⟨false, false⟩ (decoderDerived 0x1000000400100#64 .wxh (squareFrames 640#32))
        data := by
  have hfits : RequestFits (decoderDerived 0x1000000400100#64 .wxh (squareFrames 640#32)) := by
    refine ⟨by decide, by decide, ?_⟩
    change 0 < UvmExact.decoderBytes _ ∧ UvmExact.decoderBytes _ < 2 ^ 31
    decide
  obtain ⟨data, r, hr, hcalls, hiff⟩ := requestSound_iff ⟨false, false⟩
    (decoderDerived 0x1000000400100#64 .wxh (squareFrames 640#32))
    (show 0 ≤ Kernel.withUvm.getUvm by decide) (by decide) ⟨0#32, 0#32, 0#32⟩
  exact ⟨data, r, hr, hcalls, hiff.mpr hfits⟩

/-- The descriptor for frames of 65536 × 65536. -/
def hugeFrames : BufferDescriptor :=
  decoderDerived 0x1000000400100#64 .wxh (squareFrames 65536#32)

/-- The descriptor of a buffer that is replaced, of less than a page. -/
def smallReplaced : BufferDescriptor := decoderDerived 0x8000000400100#64 .none .zero

/-- **No memory is asked for** if the decoder's frame has 65536 pixels on each side, and **the
scalar is zero** if a buffer of less than a page is replaced. -/
theorem not_requestSound :
    (deriveFormatAndSize wrapping .gpuOnly (fun _ => some (squareFrames 65536#32))
        (decoderRequest 0x1000000400100#64) = .ok (.success, hugeFrames) ∧
      execUvmPolicy wrapping ⟨false, false⟩ .withUvm hugeFrames hugeFrames.usage
          ⟨0#32, 0#32, 0#32⟩ =
        .ok ⟨[.uvmAlloc (uvmRequest hugeFrames 0)], 7, uvmExecData hugeFrames hugeFrames.usage⟩ ∧
      UvmExact.decoderBytes hugeFrames = 3 * 2 ^ 31 ∧
      ¬RequestSound ⟨false, false⟩ hugeFrames (uvmRequest hugeFrames 0)) ∧
    deriveFormatAndSize wrapping .gpuOnly noDecoder (decoderRequest 0x8000000400100#64) =
        .ok (.success, smallReplaced) ∧
      execUvmPolicy wrapping ⟨false, false⟩ .withUvm smallReplaced smallReplaced.usage
          ⟨0#32, 0#32, 0#32⟩ =
        .ok ⟨[.uvmAlloc (uvmRequest smallReplaced 768)], 7,
          uvmExecData smallReplaced smallReplaced.usage⟩ ∧
      (uvmRequest smallReplaced 768).scalar = 0 ∧
      ¬RequestSound ⟨false, false⟩ smallReplaced (uvmRequest smallReplaced 768) := by
  refine ⟨⟨by decide +kernel, by decide +kernel, by decide, fun h => ?_⟩,
    by decide +kernel, by decide +kernel, by decide, fun h => ?_⟩
  · exact absurd h.scaled_pos (by decide)
  · exact absurd h.scalar_pos (by decide)

end Gralloc
