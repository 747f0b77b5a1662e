import Gralloc.Format.DoubleBody

/-!
# The features of an AFBC format

An AFBC format is asked for with every feature the platform has, and repaired afterwards. Here
the six features that depend on one another are taken as what they are, one truth value each
(`Gralloc.AfbcFeatures`), and asking and repairing become formulas in them
(`Gralloc.AfbcFeatures.asked`, `Gralloc.AfbcFeatures.repair`). The modifiers of the format that
is selected are exactly these (`Gralloc.afbcFeatures_getAfbcFormat`).

The repair leaves a format that the specification and the platform know
(`Gralloc.afbcWellFormed_getAfbcFormat`). But it splits the blocks of every format with wide
ones but `RGB_565`, and the display reads split blocks of 24 and 32 bits only: where the
selection has left them out for that reason, the repair brings them back
(`Gralloc.displaySplitKept_iff`).
-/

namespace Gralloc

/-! ### Features -/

/-- What an AFBC format has, beside its compression. -/
@[ext]
structure AfbcFeatures where
  sparse : Bool
  tiledHeaders : Bool
  doubleBody : Bool
  /-- Superblocks of 32 × 8. -/
  wide : Bool
  /-- Superblocks of 64 × 4. -/
  extraWide : Bool
  split : Bool
  deriving DecidableEq, Repr

def InternalFormat.afbcFeatures (a : InternalFormat) : AfbcFeatures where
  sparse := a.getAfbcSparse
  tiledHeaders := a.getAfbcTiledHeaders
  doubleBody := a.getAfbcDoubleBody
  wide := a.getAfbc32x8
  extraWide := a.getAfbc64x4
  split := a.getAfbcBlockSplit

namespace AfbcFeatures

/-- Superblocks of 16 × 16 under a second body. Wide ones are split exactly where the format is
not sub-sampled; if they cannot be, they are given up. -/
def resolve (subsampled rgb565 canSplit : Bool) (m : AfbcFeatures) : AfbcFeatures :=
  let wide := m.wide && !m.doubleBody && (subsampled || rgb565 || m.split || canSplit)
  { m with
    wide := wide
    extraWide := m.extraWide && !m.doubleBody
    split := !rgb565 && (if wide then !subsampled else m.split) }

section

variable (caps : Capabilities) (producers consumers : Ip)

/-- What can be written and read of it, once AFBC itself can. -/
def restrict (m : AfbcFeatures) : AfbcFeatures :=
  let support := ipSupportFeature caps producers consumers
  { m with
    split := m.split && support .afbcBlockSplit
    wide := m.wide && support .afbc32x8
    tiledHeaders := m.tiledHeaders && support .afbcTiledHeaders
    sparse := m.sparse ||
      (!ipSupportFeature caps producers Ip.none .afbcWriteNonSparse || producers.empty) }

/-- **The repair.** -/
def repair (subsampled rgb565 : Bool) (m : AfbcFeatures) : AfbcFeatures :=
  restrict caps producers consumers
    (resolve subsampled rgb565 (ipSupportFeature caps producers consumers .afbcBlockSplit) m)

/-- The GPU writes what the display reads. -/
def gpuToDisplay : Bool :=
  producers.contains Ip.gpu && consumers.contains Ip.dpu && ipPresent caps Ip.dpu

/-- What a format is asked for with. -/
def asked (f : FormatInfo) (usage : Usage) : AfbcFeatures :=
  let support := ipSupportFeature caps producers consumers
  let tiled := support .afbcTiledHeaders
  let toDisplay := gpuToDisplay caps producers consumers
  { sparse := producers.empty || !ipSupportFeature caps producers Ip.none .afbcWriteNonSparse
    tiledHeaders := tiled
    doubleBody := tiled && (usage.isFrontbuffer && support .afbcDoubleBody)
    wide := toDisplay && (support .afbc32x8 && !f.isYuv)
    extraWide :=
      tiled && (f.npln > 1 && isAfbcMultiplaneSupported caps producers consumers && f.isYuv)
    split := toDisplay && (support .afbcBlockSplit && enableSplitBlock f producers consumers) }

end

end AfbcFeatures

section

variable {caps : Capabilities} {producers consumers : Ip} {subsampled rgb565 : Bool}
  {m : AfbcFeatures}

theorem repair_sparse : (m.repair caps producers consumers subsampled rgb565).sparse =
    (m.sparse ||
      (!ipSupportFeature caps producers Ip.none .afbcWriteNonSparse || producers.empty)) := rfl

theorem repair_tiledHeaders :
    (m.repair caps producers consumers subsampled rgb565).tiledHeaders =
      (m.tiledHeaders && ipSupportFeature caps producers consumers .afbcTiledHeaders) := rfl

theorem repair_doubleBody :
    (m.repair caps producers consumers subsampled rgb565).doubleBody = m.doubleBody := rfl

theorem repair_wide : (m.repair caps producers consumers subsampled rgb565).wide =
    (m.wide && !m.doubleBody && (subsampled || rgb565 || m.split ||
      ipSupportFeature caps producers consumers .afbcBlockSplit) &&
        ipSupportFeature caps producers consumers .afbc32x8) := rfl

theorem repair_split : (m.repair caps producers consumers subsampled rgb565).split =
    ((!rgb565 && (if m.wide && !m.doubleBody && (subsampled || rgb565 || m.split ||
      ipSupportFeature caps producers consumers .afbcBlockSplit)
        then !subsampled else m.split)) &&
        ipSupportFeature caps producers consumers .afbcBlockSplit) := rfl

end

/-! ### Modifiers as features -/

section

variable (a : InternalFormat)

theorem getAfbcSparse_eq : a.getAfbcSparse = a.afbcFeatures.sparse := rfl
theorem getAfbcTiledHeaders_eq : a.getAfbcTiledHeaders = a.afbcFeatures.tiledHeaders := rfl
theorem getAfbc64x4_eq : a.getAfbc64x4 = a.afbcFeatures.extraWide := rfl
theorem getAfbc32x8_eq : a.getAfbc32x8 = a.afbcFeatures.wide := rfl
theorem getAfbcBlockSplit_eq : a.getAfbcBlockSplit = a.afbcFeatures.split := rfl

end

section

variable {caps : Capabilities} {producers consumers : Ip} (a : InternalFormat) (v : Bool)

theorem getModifier_setModifier {flag : Modifiers} (h : flag ≠ 0#32) :
    (a.setModifier flag v).getModifier flag = v := by
  cases v with
  | true => exact getModifier_setModifier_self h a
  | false => simp [InternalFormat.getModifier, InternalFormat.setModifier, BitVec.and_assoc]

@[simp] theorem afbcFeatures_setSparse : (a.setModifier .afbcSparse v).afbcFeatures =
    { a.afbcFeatures with sparse := v } := by
  refine AfbcFeatures.ext (getModifier_setModifier a v (by decide)) ?_ ?_ ?_ ?_ ?_ <;>
    exact getModifier_setModifier_of_disjoint (by decide) a v

@[simp] theorem afbcFeatures_setTiledHeaders :
    (a.setModifier .afbcTiledHeaders v).afbcFeatures =
      { a.afbcFeatures with tiledHeaders := v } := by
  refine AfbcFeatures.ext ?_ (getModifier_setModifier a v (by decide)) ?_ ?_ ?_ ?_ <;>
    exact getModifier_setModifier_of_disjoint (by decide) a v

@[simp] theorem afbcFeatures_setDoubleBody : (a.setModifier .afbcDoubleBody v).afbcFeatures =
    { a.afbcFeatures with doubleBody := v } := by
  refine AfbcFeatures.ext ?_ ?_ (getModifier_setModifier a v (by decide)) ?_ ?_ ?_ <;>
    exact getModifier_setModifier_of_disjoint (by decide) a v

@[simp] theorem afbcFeatures_setWide : (a.setModifier .afbcWideblk v).afbcFeatures =
    { a.afbcFeatures with wide := v } := by
  refine AfbcFeatures.ext ?_ ?_ ?_ (getModifier_setModifier a v (by decide)) ?_ ?_ <;>
    exact getModifier_setModifier_of_disjoint (by decide) a v

@[simp] theorem afbcFeatures_setExtraWide : (a.setModifier .afbcExtrawideblk v).afbcFeatures =
    { a.afbcFeatures with extraWide := v } := by
  refine AfbcFeatures.ext ?_ ?_ ?_ ?_ (getModifier_setModifier a v (by decide)) ?_ <;>
    exact getModifier_setModifier_of_disjoint (by decide) a v

@[simp] theorem afbcFeatures_setSplit : (a.setModifier .afbcSplitblk v).afbcFeatures =
    { a.afbcFeatures with split := v } := by
  refine AfbcFeatures.ext ?_ ?_ ?_ ?_ ?_ (getModifier_setModifier a v (by decide)) <;>
    exact getModifier_setModifier_of_disjoint (by decide) a v

/-- The bit of AFBC itself and that of the YUV transform are no features. -/
theorem afbcFeatures_setModifier {flag : Modifiers}
    (h : flag = .afbcBasic ∨ flag = .afbcYuvTransform) :
    (a.setModifier flag v).afbcFeatures = a.afbcFeatures := by
  rcases h with rfl | rfl
  all_goals
    refine AfbcFeatures.ext ?_ ?_ ?_ ?_ ?_ ?_ <;>
      exact getModifier_setModifier_of_disjoint (by decide) a v

/-- Without modifiers there are no features. -/
theorem afbcFeatures_of_hasModifiers {a : InternalFormat} (h : a.hasModifiers = false) :
    a.afbcFeatures = ⟨false, false, false, false, false, false⟩ := by
  refine AfbcFeatures.ext ?_ ?_ ?_ ?_ ?_ ?_ <;> exact getModifier_of_hasModifiers h _

/-! ### All but the features -/

/-- The bits of the features. -/
def Modifiers.afbcFeatures : Modifiers :=
  .afbcSparse ||| .afbcTiledHeaders ||| .afbcDoubleBody ||| .afbcWideblk ||| .afbcExtrawideblk |||
    .afbcSplitblk

/-- The formats differ in the features only. -/
def InternalFormat.SameBut (b a : InternalFormat) : Prop :=
  a.dataType = b.dataType ∧ a.format = b.format ∧
    a.modifiers &&& ~~~Modifiers.afbcFeatures = b.modifiers &&& ~~~Modifiers.afbcFeatures

namespace InternalFormat.SameBut

variable {b a a' : InternalFormat}

theorem rfl : InternalFormat.SameBut b b := ⟨Eq.refl _, Eq.refl _, Eq.refl _⟩

theorem setModifier (h : b.SameBut a) {flag : Modifiers} (v : Bool)
    (hflag : flag &&& ~~~Modifiers.afbcFeatures = 0#32 := by decide)
    (hkeep : ~~~flag &&& ~~~Modifiers.afbcFeatures = ~~~Modifiers.afbcFeatures := by decide) :
    b.SameBut (a.setModifier flag v) := by
  refine ⟨h.1, h.2.1, ?_⟩
  rw [← h.2.2]
  cases v with
  | true => simp [InternalFormat.setModifier, BitVec.and_or_distrib_right, hflag]
  | false => simp [InternalFormat.setModifier, BitVec.and_assoc, hkeep]

theorem trans (h : b.SameBut a) (h' : a.SameBut a') : b.SameBut a' :=
  ⟨h'.1.trans h.1, h'.2.1.trans h.2.1, h'.2.2.trans h.2.2⟩

theorem ite (ha : b.SameBut a) (ha' : b.SameBut a') (c : Prop) [Decidable c] :
    b.SameBut (if c then a else a') := by
  split
  · exact ha
  · exact ha'

theorem isAfbc_eq (h : b.SameBut a) : a.isAfbc = b.isAfbc := by
  have hm : ~~~Modifiers.afbcFeatures &&& Modifiers.afbcBasic = Modifiers.afbcBasic := by decide
  rw [InternalFormat.isAfbc, InternalFormat.isAfbc, InternalFormat.getModifier,
    InternalFormat.getModifier, ← hm, ← BitVec.and_assoc, h.2.2, BitVec.and_assoc]

/-- One bit is all or nothing. -/
theorem and_bit_eq {x y : Modifiers} {i : ℕ}
    (h : (x &&& 1#32 <<< i != 0#32) = (y &&& 1#32 <<< i != 0#32)) :
    x &&& 1#32 <<< i = y &&& 1#32 <<< i := by
  rw [← BitVec.twoPow_eq, BitVec.and_twoPow, BitVec.and_twoPow] at h ⊢
  split_ifs at h ⊢ with hx hy hy
  · rfl
  · rw [bne_self_eq_false, bne_eq_false_iff_eq] at h
    exact h
  · rw [bne_self_eq_false, eq_comm, bne_eq_false_iff_eq] at h
    exact h.symm
  · rfl

/-- **What agrees in the features as well is the same.** -/
theorem eq_of_afbcFeatures (ha : b.SameBut a) (ha' : b.SameBut a')
    (h : a.afbcFeatures = a'.afbcFeatures) : a = a' := by
  have hbits : a.modifiers &&& Modifiers.afbcFeatures =
      a'.modifiers &&& Modifiers.afbcFeatures := by
    have hsparse : a.modifiers &&& Modifiers.afbcSparse = a'.modifiers &&& Modifiers.afbcSparse :=
      and_bit_eq (congrArg AfbcFeatures.sparse h)
    have htiled : a.modifiers &&& Modifiers.afbcTiledHeaders =
        a'.modifiers &&& Modifiers.afbcTiledHeaders :=
      and_bit_eq (congrArg AfbcFeatures.tiledHeaders h)
    have hdouble : a.modifiers &&& Modifiers.afbcDoubleBody =
        a'.modifiers &&& Modifiers.afbcDoubleBody :=
      and_bit_eq (congrArg AfbcFeatures.doubleBody h)
    have hwide : a.modifiers &&& Modifiers.afbcWideblk =
        a'.modifiers &&& Modifiers.afbcWideblk :=
      and_bit_eq (congrArg AfbcFeatures.wide h)
    have hextra : a.modifiers &&& Modifiers.afbcExtrawideblk =
        a'.modifiers &&& Modifiers.afbcExtrawideblk :=
      and_bit_eq (congrArg AfbcFeatures.extraWide h)
    have hsplit : a.modifiers &&& Modifiers.afbcSplitblk =
        a'.modifiers &&& Modifiers.afbcSplitblk :=
      and_bit_eq (congrArg AfbcFeatures.split h)
    simp only [Modifiers.afbcFeatures, BitVec.and_or_distrib_left, hsparse, htiled, hdouble, hwide,
      hextra, hsplit]
  have hmodifiers : a.modifiers = a'.modifiers := by
    have hall : Modifiers.afbcFeatures ||| ~~~Modifiers.afbcFeatures = BitVec.allOnes 32 := by
      decide
    rw [← BitVec.and_allOnes (x := a.modifiers), ← BitVec.and_allOnes (x := a'.modifiers), ← hall,
      BitVec.and_or_distrib_left, BitVec.and_or_distrib_left, hbits, ha.2.2, ha'.2.2]
  rcases a with ⟨t, f, m⟩
  rcases a' with ⟨t', f', m'⟩
  rw [InternalFormat.mk.injEq]
  exact ⟨ha.1.trans ha'.1.symm, ha.2.1.trans ha'.2.1.symm, hmodifiers⟩

end InternalFormat.SameBut

/-! ### Features under a condition -/

section

variable (c : Bool)

@[simp] theorem afbcFeatures_ite_setSparse :
    (if c = true then a.setModifier .afbcSparse v else a).afbcFeatures =
      { a.afbcFeatures with sparse := if c then v else a.afbcFeatures.sparse } := by
  cases c with
  | true => exact afbcFeatures_setSparse a v
  | false => rfl

@[simp] theorem afbcFeatures_ite_setTiledHeaders :
    (if c = true then a.setModifier .afbcTiledHeaders v else a).afbcFeatures =
      { a.afbcFeatures with tiledHeaders := if c then v else a.afbcFeatures.tiledHeaders } := by
  cases c with
  | true => exact afbcFeatures_setTiledHeaders a v
  | false => rfl

@[simp] theorem afbcFeatures_ite_setDoubleBody :
    (if c = true then a.setModifier .afbcDoubleBody v else a).afbcFeatures =
      { a.afbcFeatures with doubleBody := if c then v else a.afbcFeatures.doubleBody } := by
  cases c with
  | true => exact afbcFeatures_setDoubleBody a v
  | false => rfl

@[simp] theorem afbcFeatures_ite_setWide :
    (if c = true then a.setModifier .afbcWideblk v else a).afbcFeatures =
      { a.afbcFeatures with wide := if c then v else a.afbcFeatures.wide } := by
  cases c with
  | true => exact afbcFeatures_setWide a v
  | false => rfl

@[simp] theorem afbcFeatures_ite_setExtraWide :
    (if c = true then a.setModifier .afbcExtrawideblk v else a).afbcFeatures =
      { a.afbcFeatures with extraWide := if c then v else a.afbcFeatures.extraWide } := by
  cases c with
  | true => exact afbcFeatures_setExtraWide a v
  | false => rfl

@[simp] theorem afbcFeatures_ite_setSplit :
    (if c = true then a.setModifier .afbcSplitblk v else a).afbcFeatures =
      { a.afbcFeatures with split := if c then v else a.afbcFeatures.split } := by
  cases c with
  | true => exact afbcFeatures_setSplit a v
  | false => rfl

end

/-! ### The repair -/

theorem isSubsampledYuv_ite_setModifier (c : Bool) (flag : Modifiers) :
    isSubsampledYuv (if c = true then a.setModifier flag v else a) = isSubsampledYuv a := by
  cases c <;> rfl

theorem sameBut_resolveAfbcBlocks {b : InternalFormat} (h : b.SameBut a) :
    b.SameBut (resolveAfbcBlocks caps a producers consumers) := by
  unfold resolveAfbcBlocks
  extract_lets base f₁ f₂ f₃
  have h₁ : b.SameBut f₁ := ((h.setModifier _).setModifier _).ite h _
  have h₂ : b.SameBut f₂ := (h₁.setModifier _).ite h₁ _
  have h₃ : b.SameBut f₃ := ((h₂.setModifier _).ite (h₂.setModifier _) _).ite h₂ _
  exact (h₃.setModifier _).ite h₃ _

/-- **Blocks are resolved** as the features say. -/
theorem afbcFeatures_resolveAfbcBlocks :
    (resolveAfbcBlocks caps a producers consumers).afbcFeatures =
      a.afbcFeatures.resolve (isSubsampledYuv a) (a.getBase == .rgb565)
        (ipSupportFeature caps producers consumers .afbcBlockSplit) := by
  unfold resolveAfbcBlocks
  extract_lets base f₁ f₂ f₃
  have hsub₁ : isSubsampledYuv f₁ = isSubsampledYuv a := by
    simp only [f₁]
    split <;> rfl
  have hsub₂ : isSubsampledYuv f₂ = isSubsampledYuv a :=
    (isSubsampledYuv_ite_setModifier f₁ false _ _).trans hsub₁
  have h₁ : f₁.afbcFeatures =
      { a.afbcFeatures with
        wide := a.afbcFeatures.wide && !a.afbcFeatures.doubleBody
        extraWide := a.afbcFeatures.extraWide && !a.afbcFeatures.doubleBody } := by
    by_cases h : a.getAfbcDoubleBody = true
    · have hdb : a.afbcFeatures.doubleBody = true := h
      simp only [f₁, if_pos h, afbcFeatures_setExtraWide, afbcFeatures_setWide, hdb, Bool.not_true,
        Bool.and_false]
    · have hdb : a.afbcFeatures.doubleBody = false := Bool.eq_false_of_not_eq_true h
      simp only [f₁, if_neg h, hdb, Bool.not_false, Bool.and_true]
      rw [← hdb]
  have h₂ : f₂.afbcFeatures = { f₁.afbcFeatures with
      split := f₁.afbcFeatures.split && !(f₁.afbcFeatures.wide && isSubsampledYuv a) } := by
    rw [afbcFeatures_ite_setSplit, hsub₁, getAfbc32x8_eq, getAfbcBlockSplit_eq]
    rcases f₁.afbcFeatures with ⟨sparse, tiled, db, wide, extra, split⟩
    cases wide <;> cases split <;> cases isSubsampledYuv a <;> rfl
  have h₃ : f₃.afbcFeatures =
      { f₂.afbcFeatures with
        wide := f₂.afbcFeatures.wide && (f₂.afbcFeatures.split || isSubsampledYuv a ||
          a.getBase == .rgb565 || ipSupportFeature caps producers consumers .afbcBlockSplit)
        split := f₂.afbcFeatures.split || (f₂.afbcFeatures.wide && !isSubsampledYuv a &&
          !(a.getBase == .rgb565) &&
          ipSupportFeature caps producers consumers .afbcBlockSplit) } := by
    simp only [f₃, base, hsub₂, getAfbc32x8_eq, getAfbcBlockSplit_eq, bne]
    rcases hm : f₂.afbcFeatures with ⟨sparse, tiled, db, wide, extra, split⟩
    cases wide <;> cases split <;> cases isSubsampledYuv a <;> cases a.getBase == .rgb565 <;>
      cases ipSupportFeature caps producers consumers .afbcBlockSplit <;> simp [hm]
  rw [afbcFeatures_ite_setSplit, h₃, h₂, h₁, AfbcFeatures.resolve]
  simp only [base]
  rcases a.afbcFeatures with ⟨sparse, tiled, db, wide, extra, split⟩
  cases db <;> cases wide <;> cases split <;> cases isSubsampledYuv a <;>
    cases a.getBase == .rgb565 <;>
    cases ipSupportFeature caps producers consumers .afbcBlockSplit <;> rfl

/-- **The format is repaired** as the features say. -/
theorem afbcFeatures_validateAfbcFormat
    (h : ipSupportFeature caps producers consumers .afbc16x16 = true) :
    a.SameBut (validateAfbcFormat caps a producers consumers) ∧
      (validateAfbcFormat caps a producers consumers).afbcFeatures =
        a.afbcFeatures.repair caps producers consumers (isSubsampledYuv a)
          (a.getBase == .rgb565) := by
  unfold validateAfbcFormat
  extract_lets support f₁ f₂ f₃ f₄ f₅
  have h₂ : f₂ = f₁ := by
    simp only [f₂]
    exact if_neg (by simp [support, h])
  have h₃ : f₃.afbcFeatures = { f₁.afbcFeatures with
      split := f₁.afbcFeatures.split && support .afbcBlockSplit } := by
    rw [afbcFeatures_ite_setSplit, h₂, getAfbcBlockSplit_eq]
    rcases f₁.afbcFeatures with ⟨sparse, tiled, db, wide, extra, split⟩
    cases split <;> cases support .afbcBlockSplit <;> rfl
  have h₄ : f₄.afbcFeatures = { f₃.afbcFeatures with
      wide := f₃.afbcFeatures.wide && support .afbc32x8 } := by
    rw [afbcFeatures_ite_setWide, getAfbc32x8_eq]
    rcases f₃.afbcFeatures with ⟨sparse, tiled, db, wide, extra, split⟩
    cases wide <;> cases support .afbc32x8 <;> rfl
  have h₅ : f₅.afbcFeatures = { f₄.afbcFeatures with
      tiledHeaders := f₄.afbcFeatures.tiledHeaders && support .afbcTiledHeaders } := by
    rw [afbcFeatures_ite_setTiledHeaders, getAfbcTiledHeaders_eq]
    rcases f₄.afbcFeatures with ⟨sparse, tiled, db, wide, extra, split⟩
    cases tiled <;> cases support .afbcTiledHeaders <;> rfl
  constructor
  · have k₁ : a.SameBut f₁ := sameBut_resolveAfbcBlocks a .rfl
    have k₂ : a.SameBut f₂ := h₂ ▸ k₁
    have k₃ : a.SameBut f₃ := (k₂.setModifier _).ite k₂ _
    have k₄ : a.SameBut f₄ := (k₃.setModifier _).ite k₃ _
    have k₅ : a.SameBut f₅ := (k₄.setModifier _).ite k₄ _
    exact (k₅.setModifier _).ite k₅ _
  · rw [afbcFeatures_ite_setSparse, getAfbcSparse_eq, h₅, h₄, h₃,
      afbcFeatures_resolveAfbcBlocks, AfbcFeatures.repair, AfbcFeatures.restrict]
    generalize AfbcFeatures.resolve _ _ _ a.afbcFeatures = m
    rcases m with ⟨sparse, tiled, db, wide, extra, split⟩
    generalize (!ipSupportFeature caps producers Ip.none .afbcWriteNonSparse ||
      producers.empty) = dense
    cases sparse <;> cases dense <;> rfl

end

/-! ### The candidate -/

section

variable {caps : Capabilities} {f : FormatInfo} {usage : Usage} {producers consumers : Ip}

/-- AFBC is not tried: its producers and consumers do not have it, or not of YUV formats; and
video that is transcoded is not compressed. -/
def avoidsAfbc (caps : Capabilities) (f : FormatInfo) (producers consumers : Ip) : Bool :=
  (f.isYuv && !consumers.empty && !ipSupportFeature caps Ip.none consumers .afbcYuv) ||
    (f.isYuv && !ipSupportFeature caps producers Ip.none .afbcYuv) ||
    (producers.contains Ip.vpu && consumers.contains Ip.vpu) ||
    !ipSupportFeature caps producers consumers .afbc16x16

/-- Whether the candidate's repair takes the format for a sub-sampled one. -/
def FormatInfo.isSubsampled (f : FormatInfo) : Bool := f.isYuv && (f.hsub > 1 || f.vsub > 1)

theorem getFormatInfo_of_mem_formats : ∀ f ∈ formats, getFormatInfo f.id = some f := by decide

/-- The base of a format leads back to its entry. -/
theorem getBaseInfo_of_getBase {f : FormatInfo} (hf : f ∈ formats) {a : InternalFormat}
    (ha : a.getBase = f.id) : a.getBaseInfo = some f := by
  rw [InternalFormat.getBaseInfo, ha, getFormatInfo_of_mem_formats f hf]

theorem isSubsampledYuv_of_getBase {f : FormatInfo} (hf : f ∈ formats) {a : InternalFormat}
    (ha : a.getBase = f.id) : isSubsampledYuv a = f.isSubsampled := by
  rw [isSubsampledYuv, getBaseInfo_of_getBase hf ha]
  rfl

/-- The base in AFBC, without features. -/
def afbcBase (f : FormatInfo) : InternalFormat :=
  ((InternalFormat.fromAndroid f.id (calcFormatDataType f)).setModifier .afbcBasic
    true).setModifier .afbcYuvTransform f.yuvTransform

theorem isAfbc_afbcBase (f : FormatInfo) : (afbcBase f).isAfbc = true :=
  (getModifier_setModifier_of_disjoint (by decide) _ _).trans
    (getModifier_setModifier _ _ (by decide))

/-- Where AFBC is not tried the candidate is the base. -/
theorem getAfbcFormat_of_avoidsAfbc (h : avoidsAfbc caps f producers consumers = true) :
    getAfbcFormat caps f usage producers consumers =
      InternalFormat.fromAndroid f.id (calcFormatDataType f) := by
  rw [avoidsAfbc, Bool.or_eq_true, Bool.or_eq_true, Bool.or_eq_true] at h
  rw [getAfbcFormat]
  dsimp only
  rcases h with ((h | h) | h) | h
  · rw [if_pos h]
  · rw [if_pos h, ite_self]
  · rw [if_pos h, ite_self, ite_self]
  · rw [if_pos h, ite_self, ite_self, ite_self]

/-- **The candidate has what it was asked for with, after the repair.** -/
theorem afbcFeatures_getAfbcFormat (hf : f ∈ formats)
    (h : avoidsAfbc caps f producers consumers = false) :
    (afbcBase f).SameBut (getAfbcFormat caps f usage producers consumers) ∧
      (getAfbcFormat caps f usage producers consumers).afbcFeatures =
        (AfbcFeatures.asked caps producers consumers f usage).repair caps producers consumers
          f.isSubsampled (f.id == .rgb565) := by
  simp only [avoidsAfbc, Bool.or_eq_false_iff] at h
  rcases h with ⟨⟨⟨hread, hwrite⟩, hvpu⟩, hsupport⟩
  unfold getAfbcFormat
  extract_lets base support f₁ f₂ t₁ t₂ f₃ w₁ f₄
  rw [if_neg (by rw [hread]; decide), if_neg (by rw [hwrite]; decide),
    if_neg (by rw [hvpu]; decide), if_neg (by rw [hsupport]; decide)]
  have hbase : base.afbcFeatures = ⟨false, false, false, false, false, false⟩ :=
    afbcFeatures_of_hasModifiers (hasModifiers_of_mem_formats hf _)
  have h₁ : f₁.afbcFeatures = ⟨false, false, false, false, false, false⟩ :=
    ((afbcFeatures_setModifier _ _ (.inr rfl)).trans
      (afbcFeatures_setModifier _ _ (.inl rfl))).trans hbase
  have h₂ : f₂.afbcFeatures =
      ⟨producers.empty || !ipSupportFeature caps producers Ip.none .afbcWriteNonSparse,
        false, false, false, false, false⟩ := by
    rw [afbcFeatures_ite_setSparse, h₁]
    cases producers.empty || !ipSupportFeature caps producers Ip.none .afbcWriteNonSparse <;> rfl
  have h₃ : f₃.afbcFeatures = { f₂.afbcFeatures with
      tiledHeaders := support .afbcTiledHeaders
      doubleBody := support .afbcTiledHeaders && (usage.isFrontbuffer && support .afbcDoubleBody)
      extraWide := support .afbcTiledHeaders &&
        (f.npln > 1 && isAfbcMultiplaneSupported caps producers consumers && f.isYuv) } := by
    by_cases ht : support .afbcTiledHeaders = true
    · simp only [f₃, if_pos ht, t₂, t₁, afbcFeatures_ite_setExtraWide,
        afbcFeatures_ite_setDoubleBody, afbcFeatures_setTiledHeaders, h₂, ht, Bool.true_and]
      cases usage.isFrontbuffer && support .afbcDoubleBody <;>
        cases f.npln > 1 && isAfbcMultiplaneSupported caps producers consumers && f.isYuv <;> rfl
    · simp only [f₃, if_neg ht, h₂, Bool.eq_false_of_not_eq_true ht, Bool.false_and]
  have h₄ : f₄.afbcFeatures = AfbcFeatures.asked caps producers consumers f usage := by
    rw [AfbcFeatures.asked]
    rcases hd : AfbcFeatures.gpuToDisplay caps producers consumers with - | -
    · have hf₄ : f₄ = f₃ := if_neg (by rw [← AfbcFeatures.gpuToDisplay, hd]; decide)
      rw [hf₄, h₃, h₂]
      rfl
    · have hf₄ : f₄ = if support .afbcBlockSplit = true
          then w₁.setModifier .afbcSplitblk (enableSplitBlock f producers consumers) else w₁ :=
        if_pos hd
      rw [hf₄, afbcFeatures_ite_setSplit, afbcFeatures_ite_setWide, h₃, h₂]
      refine AfbcFeatures.ext rfl rfl rfl ?_ rfl ?_
      · simp [support]
      · simp [support]
  have hkept : (afbcBase f).SameBut f₄ := by
    have k₂ : (afbcBase f).SameBut f₂ :=
      (InternalFormat.SameBut.rfl.setModifier _).ite .rfl _
    have kt₁ : (afbcBase f).SameBut t₁ := k₂.setModifier _
    have kt₂ : (afbcBase f).SameBut t₂ := (kt₁.setModifier _).ite kt₁ _
    have k₃ : (afbcBase f).SameBut f₃ := ((kt₂.setModifier _).ite kt₂ _).ite k₂ _
    have kw₁ : (afbcBase f).SameBut w₁ := (k₃.setModifier _).ite k₃ _
    exact ((kw₁.setModifier _).ite kw₁ _).ite k₃ _
  have hid : f₄.getBase = f.id := by
    rw [InternalFormat.getBase, hkept.2.1]
    have hown : base.getBase = f.id := getBase_fromAndroid (and_fmtMask_of_mem_formats f hf)
    exact hown
  have hsub : isSubsampledYuv f₄ = f.isSubsampled := isSubsampledYuv_of_getBase hf hid
  rcases afbcFeatures_validateAfbcFormat f₄ (by simpa using hsupport) with ⟨hbut, heq⟩
  refine ⟨hkept.trans hbut, ?_⟩
  rw [heq, h₄, hsub, hid]

theorem isAfbc_getAfbcFormat (hf : f ∈ formats)
    (h : avoidsAfbc caps f producers consumers = false) :
    (getAfbcFormat caps f usage producers consumers).isAfbc = true :=
  (afbcFeatures_getAfbcFormat hf h).1.isAfbc_eq.trans (isAfbc_afbcBase f)

/-- A candidate that is AFBC was tried. -/
theorem avoidsAfbc_of_isAfbc (hf : f ∈ formats)
    (h : (getAfbcFormat caps f usage producers consumers).isAfbc = true) :
    avoidsAfbc caps f producers consumers = false := by
  rcases ha : avoidsAfbc caps f producers consumers with - | -
  · rfl
  · rw [getAfbcFormat_of_avoidsAfbc ha, InternalFormat.isAfbc,
      getModifier_of_mem_formats hf] at h
    exact absurd h Bool.false_ne_true

/-! ### What a candidate has -/

/-- The superblocks that planes of their own need. -/
def separatesPlanes (caps : Capabilities) (f : FormatInfo) (usage : Usage)
    (producers consumers : Ip) : Bool :=
  let support := ipSupportFeature caps producers consumers
  support .afbcTiledHeaders && (f.npln > 1 && isAfbcMultiplaneSupported caps producers consumers &&
      f.isYuv) &&
    !(support .afbcTiledHeaders && (usage.isFrontbuffer && support .afbcDoubleBody))

theorem sparse_getAfbcFormat (hf : f ∈ formats)
    (h : avoidsAfbc caps f producers consumers = false) :
    (getAfbcFormat caps f usage producers consumers).afbcFeatures.sparse =
      (producers.empty || !ipSupportFeature caps producers Ip.none .afbcWriteNonSparse) := by
  rw [(afbcFeatures_getAfbcFormat hf h).2, repair_sparse, AfbcFeatures.asked, Bool.or_comm (!_),
    Bool.or_self]

theorem tiledHeaders_getAfbcFormat (hf : f ∈ formats)
    (h : avoidsAfbc caps f producers consumers = false) :
    (getAfbcFormat caps f usage producers consumers).afbcFeatures.tiledHeaders =
      ipSupportFeature caps producers consumers .afbcTiledHeaders := by
  rw [(afbcFeatures_getAfbcFormat hf h).2, repair_tiledHeaders]
  exact Bool.and_self _

theorem doubleBody_getAfbcFormat (hf : f ∈ formats)
    (h : avoidsAfbc caps f producers consumers = false) :
    (getAfbcFormat caps f usage producers consumers).afbcFeatures.doubleBody =
      (ipSupportFeature caps producers consumers .afbcTiledHeaders &&
        (usage.isFrontbuffer && ipSupportFeature caps producers consumers .afbcDoubleBody)) := by
  rw [(afbcFeatures_getAfbcFormat hf h).2]
  rfl

theorem extraWide_getAfbcFormat (hf : f ∈ formats)
    (h : avoidsAfbc caps f producers consumers = false) :
    (getAfbcFormat caps f usage producers consumers).afbcFeatures.extraWide =
      separatesPlanes caps f usage producers consumers := by
  rw [(afbcFeatures_getAfbcFormat hf h).2]
  rfl

/-- Wide superblocks are of other than YUV formats, in one body, and split but for `RGB_565`. -/
theorem of_wide_getAfbcFormat (hf : f ∈ formats)
    (h : avoidsAfbc caps f producers consumers = false)
    (hwide : (getAfbcFormat caps f usage producers consumers).afbcFeatures.wide = true) :
    ipSupportFeature caps producers consumers .afbc32x8 = true ∧ f.isYuv = false ∧
      (getAfbcFormat caps f usage producers consumers).afbcFeatures.doubleBody = false ∧
      (f.id ≠ .rgb565 →
        (getAfbcFormat caps f usage producers consumers).afbcFeatures.split = true) := by
  rw [(afbcFeatures_getAfbcFormat hf h).2, repair_wide, Bool.and_eq_true] at hwide
  rw [(afbcFeatures_getAfbcFormat hf h).2, repair_doubleBody, repair_split]
  have hasked := hwide.1
  rw [Bool.and_eq_true, Bool.and_eq_true, Bool.not_eq_true'] at hasked
  have hyuv : f.isYuv = false := by
    have hother := hasked.1.1
    simp only [AfbcFeatures.asked, Bool.and_eq_true, Bool.not_eq_true'] at hother
    exact hother.2.2
  refine ⟨hwide.2, hyuv, hasked.1.2, fun hid => ?_⟩
  have hsub : f.isSubsampled = false := by rw [FormatInfo.isSubsampled, hyuv, Bool.false_and]
  have h565 : (f.id == .rgb565) = false := beq_eq_false_iff_ne.mpr hid
  -- split blocks are asked for, or given by the repair, where they are supported
  have hsplit : ipSupportFeature caps producers consumers .afbcBlockSplit = true := by
    have hgiven := hasked.2
    rw [hsub, h565, Bool.false_or, Bool.false_or, Bool.or_eq_true] at hgiven
    rcases hgiven with hgiven | hgiven
    · simp only [AfbcFeatures.asked, Bool.and_eq_true] at hgiven
      exact hgiven.2.1
    · exact hgiven
  rw [if_pos hwide.1, hsub, h565, hsplit]
  rfl

theorem of_split_getAfbcFormat (hf : f ∈ formats)
    (h : avoidsAfbc caps f producers consumers = false)
    (hsplit : (getAfbcFormat caps f usage producers consumers).afbcFeatures.split = true) :
    ipSupportFeature caps producers consumers .afbcBlockSplit = true ∧ f.id ≠ .rgb565 := by
  rw [(afbcFeatures_getAfbcFormat hf h).2, repair_split, Bool.and_eq_true, Bool.and_eq_true]
    at hsplit
  exact ⟨hsplit.2, fun hid => by simp [hid] at hsplit⟩

/-! ### Formats that conform -/

/-- **The modifiers of an AFBC format go together**, and its producers and consumers have what
they ask for. -/
structure AfbcWellFormed (caps : Capabilities) (f : FormatInfo) (producers consumers : Ip)
    (a : InternalFormat) : Prop where
  basic : ipSupportFeature caps producers consumers .afbc16x16 = true
  tiledHeaders : a.getAfbcTiledHeaders = true →
    ipSupportFeature caps producers consumers .afbcTiledHeaders = true
  doubleBody : a.getAfbcDoubleBody = true → a.getAfbcTiledHeaders = true ∧
    ipSupportFeature caps producers consumers .afbcDoubleBody = true ∧
    a.getAfbc32x8 = false ∧ a.getAfbc64x4 = false
  extraWide : a.getAfbc64x4 = true → a.getAfbcTiledHeaders = true ∧
    ipSupportFeature caps producers consumers .afbc64x4 = true ∧ 1 < f.npln ∧ f.isYuv = true
  wide : a.getAfbc32x8 = true → ipSupportFeature caps producers consumers .afbc32x8 = true ∧
    f.isYuv = false ∧ (f.id ≠ .rgb565 → a.getAfbcBlockSplit = true)
  split : a.getAfbcBlockSplit = true →
    ipSupportFeature caps producers consumers .afbcBlockSplit = true ∧ f.id ≠ .rgb565
  not_both : ¬(a.getAfbc32x8 = true ∧ a.getAfbc64x4 = true)
  dense : a.getAfbcSparse = false → producers.empty = false ∧
    ipSupportFeature caps producers Ip.none .afbcWriteNonSparse = true

/-- **A candidate that is AFBC conforms** to the specification and to the platform. -/
theorem afbcWellFormed_getAfbcFormat (hf : f ∈ formats)
    (h : (getAfbcFormat caps f usage producers consumers).isAfbc = true) :
    AfbcWellFormed caps f producers consumers
      (getAfbcFormat caps f usage producers consumers) := by
  have havoids := avoidsAfbc_of_isAfbc hf h
  have htiled : (getAfbcFormat caps f usage producers consumers).getAfbcTiledHeaders = _ :=
    tiledHeaders_getAfbcFormat hf havoids
  have hdouble : (getAfbcFormat caps f usage producers consumers).getAfbcDoubleBody = _ :=
    doubleBody_getAfbcFormat hf havoids
  have hextra : (getAfbcFormat caps f usage producers consumers).getAfbc64x4 = _ :=
    extraWide_getAfbcFormat hf havoids
  have hplanes (h64x4 : (getAfbcFormat caps f usage producers consumers).getAfbc64x4 = true) :
      ipSupportFeature caps producers consumers .afbcTiledHeaders = true ∧
        (1 < f.npln ∧ isAfbcMultiplaneSupported caps producers consumers = true) ∧
          f.isYuv = true := by
    rw [hextra, separatesPlanes, Bool.and_eq_true] at h64x4
    simpa only [Bool.and_eq_true, decide_eq_true_iff] using h64x4.1
  refine ⟨?_, ?_, ?_, ?_, ?_, ?_, ?_, ?_⟩
  · simp only [avoidsAfbc, Bool.or_eq_false_iff, Bool.not_eq_false'] at havoids
    exact havoids.2
  · rintro ht
    exact htiled.symm.trans ht
  · rintro hdb
    have hbodies := hdouble.symm.trans hdb
    simp only [Bool.and_eq_true] at hbodies
    refine ⟨htiled.trans hbodies.1, hbodies.2.2, ?_, ?_⟩
    · refine Bool.eq_false_of_not_eq_true fun h32x8 => ?_
      have hone := (of_wide_getAfbcFormat hf havoids h32x8).2.2.1
      exact absurd (hone.symm.trans hdb) Bool.false_ne_true
    · rw [hextra, separatesPlanes, hbodies.1, hbodies.2.1, hbodies.2.2]
      exact Bool.and_false _
  · rintro h64x4
    rcases hplanes h64x4 with ⟨ht, ⟨hnpln, hmulti⟩, hyuv⟩
    rw [isAfbcMultiplaneSupported, Bool.and_eq_true] at hmulti
    exact ⟨htiled.trans ht, hmulti.2, hnpln, hyuv⟩
  · rintro h32x8
    rcases of_wide_getAfbcFormat hf havoids h32x8 with ⟨hsupport, hyuv, -, hsplit⟩
    exact ⟨hsupport, hyuv, hsplit⟩
  · rintro hsplit
    exact of_split_getAfbcFormat hf havoids hsplit
  · rintro ⟨h32x8, h64x4⟩
    have hyuv := (of_wide_getAfbcFormat hf havoids h32x8).2.1
    exact absurd (hyuv.symm.trans (hplanes h64x4).2.2) Bool.false_ne_true
  · rintro hdense
    have hnot := (sparse_getAfbcFormat hf havoids).symm.trans hdense
    rw [Bool.or_eq_false_iff, Bool.not_eq_false'] at hnot
    exact hnot

/-- Wide blocks that the GPU writes and the display reads. -/
theorem afbcWellFormed_getAfbcFormat_rgba8888 :
    let caps := { Capabilities.gpuOnly with
      gpu := [(.afbc16x16, .rw), (.afbc32x8, .rw), (.afbcBlockSplit, .rw)]
      dpu := some [(.afbc16x16, .ro), (.afbc32x8, .ro), (.afbcBlockSplit, .ro)] }
    ∃ f, getFormatInfo .rgba8888 = some f ∧
      AfbcWellFormed caps f Ip.gpu Ip.dpu (getAfbcFormat caps f 0#64 Ip.gpu Ip.dpu) :=
  ⟨_, rfl, afbcWellFormed_getAfbcFormat (by decide) (by decide)⟩

/-! ### Split blocks for the display -/

/-- The format is one the display reads in split blocks. -/
def FormatInfo.DisplaySplit (f : FormatInfo) : Prop := f.isRgb = true ∧ 24 ≤ f.bpp.p0

instance (f : FormatInfo) : Decidable f.DisplaySplit :=
  inferInstanceAs (Decidable (f.isRgb = true ∧ 24 ≤ f.bpp.p0))

/-- **Split blocks for the display** are of formats it reads so. -/
def DisplaySplitKept (caps : Capabilities) (f : FormatInfo) (usage : Usage)
    (producers consumers : Ip) : Prop :=
  consumers.contains Ip.dpu = true ∨ producers.contains Ip.dpuAeu = true →
    (getAfbcFormat caps f usage producers consumers).getAfbcBlockSplit = true → f.DisplaySplit

/-- **The repair splits blocks** that were left whole for the display: the GPU writes for it, in
AFBC with wide blocks and without a second body, both have split blocks, and the format is not
`RGB_565`. -/
structure SplitByRepair (caps : Capabilities) (f : FormatInfo) (usage : Usage)
    (producers consumers : Ip) : Prop where
  afbc : avoidsAfbc caps f producers consumers = false
  toDisplay : AfbcFeatures.gpuToDisplay caps producers consumers = true
  wide : ipSupportFeature caps producers consumers .afbc32x8 = true
  split : ipSupportFeature caps producers consumers .afbcBlockSplit = true
  not_yuv : f.isYuv = false
  not_565 : f.id ≠ .rgb565
  one_body : ¬(ipSupportFeature caps producers consumers .afbcTiledHeaders = true ∧
    usage.isFrontbuffer = true ∧ ipSupportFeature caps producers consumers .afbcDoubleBody = true)

theorem SplitByRepair.getAfbcBlockSplit (hf : f ∈ formats)
    (h : SplitByRepair caps f usage producers consumers) :
    (getAfbcFormat caps f usage producers consumers).getAfbcBlockSplit = true := by
  have hwide : (AfbcFeatures.asked caps producers consumers f usage).wide = true := by
    simp only [AfbcFeatures.asked, h.toDisplay, h.wide, h.not_yuv, Bool.not_false, Bool.and_self]
  have hone : (AfbcFeatures.asked caps producers consumers f usage).doubleBody = false := by
    refine Bool.eq_false_of_not_eq_true fun hdb => h.one_body ?_
    simpa only [AfbcFeatures.asked, Bool.and_eq_true] using hdb
  have hsub : f.isSubsampled = false := by
    rw [FormatInfo.isSubsampled, h.not_yuv, Bool.false_and]
  have h565 : (f.id == .rgb565) = false := beq_eq_false_iff_ne.mpr h.not_565
  rw [getAfbcBlockSplit_eq, (afbcFeatures_getAfbcFormat hf h.afbc).2, repair_split, hwide, hone,
    hsub, h565, h.split, Bool.or_true]
  rfl

/-- Blocks are split by the repair, or for a format that the display reads so. -/
theorem displaySplit_of_getAfbcBlockSplit (hf : f ∈ formats)
    (hdisplay : consumers.contains Ip.dpu = true ∨ producers.contains Ip.dpuAeu = true)
    (h : (getAfbcFormat caps f usage producers consumers).getAfbcBlockSplit = true) :
    SplitByRepair caps f usage producers consumers ∨ f.DisplaySplit := by
  rcases havoids : avoidsAfbc caps f producers consumers with - | -
  · rw [getAfbcBlockSplit_eq, (afbcFeatures_getAfbcFormat hf havoids).2, repair_split,
      Bool.and_eq_true, Bool.and_eq_true] at h
    rcases h with ⟨⟨h565, hsplit⟩, hsupport⟩
    have hid : f.id ≠ .rgb565 := fun hid => by simp [hid] at h565
    split_ifs at hsplit with hwide
    · -- wide blocks that are split
      simp only [Bool.and_eq_true, AfbcFeatures.asked, Bool.not_eq_true'] at hwide
      rcases hwide with ⟨⟨⟨hto, hwide, hyuv⟩, hone⟩, -⟩
      refine .inl ⟨havoids, hto, hwide, hsupport, hyuv, hid, fun hdb => ?_⟩
      rw [hdb.1, hdb.2.1, hdb.2.2] at hone
      exact absurd hone (by decide)
    · -- blocks that the selection has split
      simp only [AfbcFeatures.asked, enableSplitBlock, Bool.and_eq_true, Bool.not_eq_true',
        Bool.and_eq_false_iff, Bool.or_eq_false_iff, Bool.not_eq_false', decide_eq_false_iff_not,
        Nat.not_lt] at hsplit
      rcases hsplit.2.2.2 with hrgb | ⟨haeu, hdpu⟩
      · exact .inr hrgb
      · rcases hdisplay with h | h
        · exact absurd (hdpu.symm.trans h) Bool.false_ne_true
        · exact absurd (haeu.symm.trans h) Bool.false_ne_true
  · rw [getAfbcFormat_of_avoidsAfbc havoids, InternalFormat.getAfbcBlockSplit,
      getModifier_of_mem_formats hf] at h
    exact absurd h Bool.false_ne_true

/-- **Exactly that repair** brings back what the display does not read. -/
theorem displaySplitKept_iff (hf : f ∈ formats) :
    DisplaySplitKept caps f usage producers consumers ↔
      (SplitByRepair caps f usage producers consumers → f.DisplaySplit) := by
  constructor
  · rintro hkept hrepair
    have hto := hrepair.toDisplay
    rw [AfbcFeatures.gpuToDisplay, Bool.and_eq_true, Bool.and_eq_true] at hto
    exact hkept (.inl hto.1.2) (hrepair.getAfbcBlockSplit hf)
  · rintro hrepair hdisplay hsplit
    rcases displaySplit_of_getAfbcBlockSplit hf hdisplay hsplit with h | h
    · exact hrepair h
    · exact h

/-- A texture that the GPU writes is given split blocks, on a platform with wide ones. -/
theorem displaySplitKept_iff_rgba8888 :
    let caps := { Capabilities.gpuOnly with
      gpu := [(.afbc16x16, .rw), (.afbc32x8, .rw), (.afbcBlockSplit, .rw)]
      dpu := some [(.afbc16x16, .ro), (.afbc32x8, .ro), (.afbcBlockSplit, .ro)] }
    ∃ f, getFormatInfo .rgba8888 = some f ∧
      (DisplaySplitKept caps f 0#64 Ip.gpu Ip.dpu ↔
        (SplitByRepair caps f 0#64 Ip.gpu Ip.dpu → f.DisplaySplit)) :=
  ⟨_, rfl, displaySplitKept_iff (by decide)⟩

/-- Raw data of 16 bits, which the GPU renders for the display: it is selected in AFBC with split
blocks. -/
theorem not_displaySplitKept_raw16 :
    let caps := { Capabilities.gpuOnly with
      gpu := [(.formatRgb16, .rw), (.afbc16x16, .rw), (.afbc32x8, .rw), (.afbcBlockSplit, .rw)]
      dpu := some [(.formatRgb16, .ro), (.afbc16x16, .ro), (.afbc32x8, .ro),
        (.afbcBlockSplit, .ro)] }
    let usage := Usage.hwRender ||| Usage.hwComposer
    ∃ f, getFormatInfo .raw16 = some f ∧
      selectFormat caps 32#64 0#32 usage = getAfbcFormat caps f usage Ip.gpu Ip.dpu ∧
      ¬DisplaySplitKept caps f usage Ip.gpu Ip.dpu := by
  intro caps usage
  refine ⟨_, rfl, by decide +kernel, fun h => ?_⟩
  exact absurd (h (by decide) (by decide +kernel)) (by decide)

end

end Gralloc
