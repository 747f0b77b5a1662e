import Gralloc.Format.AfbcFeatures

/-!
# Repairing twice

`Gralloc.validateAfbcFormat` repairs an AFBC format: what the specification forbids or the
platform lacks is taken away, step by step. What it returns should need no repair, and be AFBC
still or have no modifiers (`Gralloc.Settled`).

Of any format at all that is not true. Bodies become sparse at the very end, also those of a
format whose modifiers were cleared before. And split blocks are taken away after wide ones were
admitted because they were split. Nothing else goes wrong
(`Gralloc.settled_validateAfbcFormat_iff`), and of the formats that are repaired, which are those
that `Gralloc.getAfbcFormat` proposes (`Gralloc.afbcCandidate`), neither does
(`Gralloc.settled_validateAfbcFormat_candidate`).
-/

namespace Gralloc

/-! ### The features, twice -/

section

variable (caps : Capabilities) (producers consumers : Ip)

/-- Bodies must be sparse: there is no producer, or one that does not write dense ones. -/
def needsSparse : Bool :=
  !ipSupportFeature caps producers Ip.none .afbcWriteNonSparse || producers.empty

/-- **Split blocks are lost** from under wide ones: the format is to be split because it is wide,
and only wide blocks are supported. -/
structure LosesSplit (a : InternalFormat) : Prop where
  wide : a.getAfbc32x8 = true
  split : a.getAfbcBlockSplit = true
  one_body : a.getAfbcDoubleBody = false
  not_subsampled : isSubsampledYuv a = false
  not_565 : a.getBase ≠ .rgb565
  has_wide : ipSupportFeature caps producers consumers .afbc32x8 = true
  no_split : ipSupportFeature caps producers consumers .afbcBlockSplit = false

end

section

variable {caps : Capabilities} {producers consumers : Ip} {subsampled rgb565 : Bool}
  {m : AfbcFeatures}

/-- A second repair leaves split blocks as they are. -/
theorem repair_repair_split :
    ((m.repair caps producers consumers subsampled rgb565).repair caps producers consumers
        subsampled rgb565).split =
      (m.repair caps producers consumers subsampled rgb565).split := by
  rw [repair_split, repair_wide, repair_doubleBody, repair_split]
  generalize ipSupportFeature caps producers consumers .afbcBlockSplit = split
  generalize ipSupportFeature caps producers consumers .afbc32x8 = wide
  rcases m with ⟨sparse, tiled, db, w, extra, s⟩
  cases w <;> cases db <;> cases s <;> cases subsampled <;> cases rgb565 <;> cases split <;>
    cases wide <;> rfl

/-- A second repair leaves wide blocks, unless the first one took their split away. -/
theorem repair_repair_wide :
    ((m.repair caps producers consumers subsampled rgb565).repair caps producers consumers
        subsampled rgb565).wide =
      ((m.repair caps producers consumers subsampled rgb565).wide &&
        (subsampled || rgb565 ||
          ipSupportFeature caps producers consumers .afbcBlockSplit)) := by
  rw [repair_wide, repair_wide, repair_doubleBody, repair_split]
  generalize ipSupportFeature caps producers consumers .afbcBlockSplit = split
  generalize ipSupportFeature caps producers consumers .afbc32x8 = wide
  rcases m with ⟨sparse, tiled, db, w, extra, s⟩
  cases w <;> cases db <;> cases s <;> cases subsampled <;> cases rgb565 <;> cases split <;>
    cases wide <;> rfl

/-- **Features need one repair**, unless wide blocks were kept without their split. -/
theorem repair_repair_iff :
    (m.repair caps producers consumers subsampled rgb565).repair caps producers consumers
        subsampled rgb565 = m.repair caps producers consumers subsampled rgb565 ↔
      ¬((m.repair caps producers consumers subsampled rgb565).wide = true ∧
        subsampled = false ∧ rgb565 = false ∧
        ipSupportFeature caps producers consumers .afbcBlockSplit = false) := by
  constructor
  · rintro h ⟨hwide, hsub, h565, hsplit⟩
    have hkept := congrArg AfbcFeatures.wide h
    rw [repair_repair_wide, hwide, hsub, h565, hsplit] at hkept
    exact absurd hkept Bool.false_ne_true
  · intro h
    refine AfbcFeatures.ext ?_ ?_ repair_doubleBody ?_ ?_ repair_repair_split
    · rw [repair_sparse, repair_sparse, Bool.or_assoc, Bool.or_self]
    · rw [repair_tiledHeaders, repair_tiledHeaders, Bool.and_assoc, Bool.and_self]
    · rw [repair_repair_wide]
      rcases hwide : (m.repair caps producers consumers subsampled rgb565).wide with - | -
      · rfl
      · by_contra hlost
        simp only [Bool.true_and, Bool.not_eq_true, Bool.or_eq_false_iff] at hlost
        exact h ⟨hwide, hlost.1.1, hlost.1.2, hlost.2⟩
    · show (m.extraWide && !m.doubleBody && !m.doubleBody) = (m.extraWide && !m.doubleBody)
      rw [Bool.and_assoc, Bool.and_self]

end

/-! ### The format, twice -/

/-- **A repaired format** is AFBC or has no modifiers, and needs no further repair. -/
def Settled (caps : Capabilities) (producers consumers : Ip) (a : InternalFormat) : Prop :=
  (a.isAfbc = true ∨ a.hasModifiers = false) ∧ validateAfbcFormat caps a producers consumers = a

instance (caps : Capabilities) (producers consumers : Ip) (a : InternalFormat) :
    Decidable (Settled caps producers consumers a) := inferInstanceAs (Decidable (_ ∧ _))

section

variable {caps : Capabilities} {producers consumers : Ip} {a : InternalFormat}

theorem InternalFormat.SameBut.getBase_eq {b : InternalFormat} (h : b.SameBut a) :
    a.getBase = b.getBase := by
  rw [InternalFormat.getBase, h.2.1, InternalFormat.getBase]

theorem InternalFormat.SameBut.isSubsampledYuv_eq {b : InternalFormat} (h : b.SameBut a) :
    isSubsampledYuv a = isSubsampledYuv b := by
  rw [isSubsampledYuv, InternalFormat.getBaseInfo, h.getBase_eq, isSubsampledYuv,
    InternalFormat.getBaseInfo]

/-- **Where AFBC is supported** the result is AFBC, and stays as it is unless its split blocks
are lost. -/
theorem settled_of_support (ha : a.isAfbc = true)
    (h : ipSupportFeature caps producers consumers .afbc16x16 = true) :
    Settled caps producers consumers (validateAfbcFormat caps a producers consumers) ↔
      ¬LosesSplit caps producers consumers a := by
  rcases afbcFeatures_validateAfbcFormat a h with ⟨hbut, hfeatures⟩
  rcases afbcFeatures_validateAfbcFormat (validateAfbcFormat caps a producers consumers) h with
    ⟨hbut', hfeatures'⟩
  rw [hbut.isSubsampledYuv_eq, hbut.getBase_eq, hfeatures] at hfeatures'
  have hafbc := hbut.isAfbc_eq.trans ha
  -- the rest of the format is the same, so that its features decide
  have hagain : validateAfbcFormat caps (validateAfbcFormat caps a producers consumers) producers
      consumers = validateAfbcFormat caps a producers consumers ↔
      (a.afbcFeatures.repair caps producers consumers (isSubsampledYuv a)
        (a.getBase == .rgb565)).repair caps producers consumers (isSubsampledYuv a)
          (a.getBase == .rgb565) =
        a.afbcFeatures.repair caps producers consumers (isSubsampledYuv a)
          (a.getBase == .rgb565) := by
    rw [← hfeatures', ← hfeatures]
    exact ⟨congrArg InternalFormat.afbcFeatures,
      InternalFormat.SameBut.eq_of_afbcFeatures hbut' .rfl⟩
  rw [Settled, and_iff_right (Or.inl hafbc), hagain, repair_repair_iff, not_iff_not, repair_wide,
    ← getAfbc32x8_eq, ← getAfbcBlockSplit_eq]
  constructor
  · rintro ⟨hwide, hsub, h565, hsplit⟩
    simp only [hsub, h565, hsplit, Bool.false_or, Bool.or_false, Bool.and_eq_true,
      Bool.not_eq_true'] at hwide
    exact ⟨hwide.1.1.1, hwide.1.2, hwide.1.1.2, hsub, by simpa using h565, hwide.2, hsplit⟩
  · rintro ⟨hwide, hsplit, hone, hsub, h565, hhas, hno⟩
    have hone' : a.afbcFeatures.doubleBody = false := hone
    refine ⟨?_, hsub, by simpa using h565, hno⟩
    rw [hwide, hsplit, hone', hhas, Bool.or_true, Bool.true_or]
    rfl

/-- The repair of a format without modifiers makes its bodies sparse, if it must. -/
theorem validateAfbcFormat_of_hasModifiers (h : a.hasModifiers = false) :
    validateAfbcFormat caps a producers consumers =
      if needsSparse caps producers then a.setModifier .afbcSparse true else a := by
  have hnone (flag : Modifiers) : a.getModifier flag = false := getModifier_of_hasModifiers h flag
  have hblocks : resolveAfbcBlocks caps a producers consumers = a := by
    have hsplit : a.setModifier .afbcSplitblk false = a := by
      rw [InternalFormat.hasModifiers, bne_eq_false_iff_eq] at h
      rw [InternalFormat.setModifier, h]
      rcases a with ⟨t, f, m⟩
      simp only at h
      rw [h]
      rfl
    simp only [resolveAfbcBlocks, InternalFormat.getAfbcDoubleBody, InternalFormat.getAfbc32x8,
      hnone, Bool.false_and, Bool.false_eq_true, if_false, hsplit, ite_self]
  simp only [validateAfbcFormat, hblocks, InternalFormat.isAfbc, InternalFormat.getAfbcBlockSplit,
    InternalFormat.getAfbc32x8, InternalFormat.getAfbcTiledHeaders, InternalFormat.getAfbcSparse,
    hnone, Bool.false_and, Bool.not_false, Bool.true_and, Bool.false_eq_true, if_false]
  rfl

/-- Where AFBC is not supported its modifiers are cleared, before bodies are made sparse. -/
theorem validateAfbcFormat_of_not_support (ha : a.isAfbc = true)
    (h : ipSupportFeature caps producers consumers .afbc16x16 = false) :
    validateAfbcFormat caps a producers consumers =
      validateAfbcFormat caps a.clearModifiers producers consumers := by
  have hcleared : a.clearModifiers.hasModifiers = false := rfl
  have hblocks : a.SameBut (resolveAfbcBlocks caps a producers consumers) :=
    sameBut_resolveAfbcBlocks a .rfl
  have hclear : (resolveAfbcBlocks caps a producers consumers).clearModifiers =
      a.clearModifiers := by
    rw [InternalFormat.clearModifiers, hblocks.1, hblocks.2.1, InternalFormat.clearModifiers]
  have hblocks' : resolveAfbcBlocks caps a.clearModifiers producers consumers =
      a.clearModifiers := by
    have hkept : a.clearModifiers.SameBut
        (resolveAfbcBlocks caps a.clearModifiers producers consumers) :=
      sameBut_resolveAfbcBlocks _ .rfl
    refine hkept.eq_of_afbcFeatures .rfl ?_
    rw [afbcFeatures_resolveAfbcBlocks, afbcFeatures_of_hasModifiers hcleared,
      AfbcFeatures.resolve]
    simp
  have hnot : a.clearModifiers.isAfbc = false := getModifier_of_hasModifiers hcleared _
  simp only [validateAfbcFormat, hblocks', hblocks.isAfbc_eq.trans ha, hnot, h, hclear,
    Bool.not_false, Bool.and_self, Bool.false_and, Bool.false_eq_true, if_true, if_false]

/-- **Where AFBC is not supported** the result has no modifiers, unless bodies must be sparse:
then that is the one it has. -/
theorem settled_of_not_support (ha : a.isAfbc = true)
    (h : ipSupportFeature caps producers consumers .afbc16x16 = false) :
    Settled caps producers consumers (validateAfbcFormat caps a producers consumers) ↔
      needsSparse caps producers = false := by
  have hcleared : a.clearModifiers.hasModifiers = false := rfl
  rw [validateAfbcFormat_of_not_support ha h, validateAfbcFormat_of_hasModifiers hcleared]
  cases hs : needsSparse caps producers with
  | true =>
    rw [if_pos rfl]
    refine iff_of_false ?_ (by decide)
    -- the bit of sparse bodies is all that there is
    rintro ⟨hafbc | hnone, -⟩
    · exact absurd hafbc (by simp [InternalFormat.isAfbc, InternalFormat.getModifier,
        InternalFormat.setModifier, InternalFormat.clearModifiers, Modifiers.afbcSparse,
        Modifiers.afbcBasic])
    · exact absurd hnone (by simp [InternalFormat.hasModifiers, InternalFormat.setModifier,
        InternalFormat.clearModifiers, Modifiers.afbcSparse])
  | false =>
    rw [if_neg (by decide)]
    refine iff_of_true ⟨Or.inr hcleared, ?_⟩ rfl
    rw [validateAfbcFormat_of_hasModifiers hcleared, hs, if_neg (by decide)]

/-- **When an AFBC format is settled by its repair**: with AFBC supported, when its split blocks
are not lost, and without, when bodies need not be sparse. -/
theorem settled_validateAfbcFormat_iff (ha : a.isAfbc = true) :
    Settled caps producers consumers (validateAfbcFormat caps a producers consumers) ↔
      if ipSupportFeature caps producers consumers .afbc16x16 then
        ¬LosesSplit caps producers consumers a
      else needsSparse caps producers = false := by
  cases h : ipSupportFeature caps producers consumers .afbc16x16 with
  | true =>
    rw [if_pos rfl]
    exact settled_of_support ha h
  | false =>
    rw [if_neg (by decide)]
    exact settled_of_not_support ha h

/-- `RGBA_8888` in AFBC with some features. -/
def afbcRgba8888 (features : Modifiers) : InternalFormat :=
  ⟨.unorm, .rgba8888, .afbcBasic ||| features⟩

/-- **Not settled**: without AFBC sparse bodies are left as the only modifier, and with wide
blocks only, the split that admits them is taken away, so that the next repair takes the wide
blocks. -/
theorem not_settled_validateAfbcFormat :
    (let caps := Capabilities.gpuOnly
      let repaired := validateAfbcFormat caps (afbcRgba8888 0#32) Ip.gpu Ip.gpu
      repaired = ⟨.unorm, .rgba8888, .afbcSparse⟩ ∧ repaired.isAfbc = false ∧
        repaired.hasModifiers = true ∧ ¬Settled caps Ip.gpu Ip.gpu repaired) ∧
    (let caps := { Capabilities.gpuOnly with gpu := [(.afbc16x16, .rw), (.afbc32x8, .rw)] }
      let repaired := validateAfbcFormat caps (afbcRgba8888 (.afbcWideblk ||| .afbcSplitblk))
        Ip.gpu Ip.gpu
      repaired = afbcRgba8888 (.afbcWideblk ||| .afbcSparse) ∧
        validateAfbcFormat caps repaired Ip.gpu Ip.gpu = afbcRgba8888 .afbcSparse ∧
        ¬Settled caps Ip.gpu Ip.gpu repaired) := by
  decide

/-! ### The formats that are repaired -/

/-- **What is proposed for repair**: the base in AFBC, with all the features that there are and that
suit the usage. -/
def afbcCandidate (caps : Capabilities) (f : FormatInfo) (usage : Usage)
    (producers consumers : Ip) : InternalFormat :=
  let base := InternalFormat.fromAndroid f.id (calcFormatDataType f)
  let support := ipSupportFeature caps producers consumers
  let format := (base.setModifier .afbcBasic true).setModifier .afbcYuvTransform f.yuvTransform
  let format :=
    if producers.empty || !ipSupportFeature caps producers Ip.none .afbcWriteNonSparse
    then format.setModifier .afbcSparse true else format
  let format :=
    if support .afbcTiledHeaders then
      let format := format.setModifier .afbcTiledHeaders true
      let format :=
        if usage.isFrontbuffer && support .afbcDoubleBody
        then format.setModifier .afbcDoubleBody true else format
      if f.npln > 1 && isAfbcMultiplaneSupported caps producers consumers && f.isYuv
      then format.setModifier .afbcExtrawideblk true else format
    else format
  if producers.contains Ip.gpu && consumers.contains Ip.dpu && ipPresent caps Ip.dpu then
    let format :=
      if support .afbc32x8 && !f.isYuv then format.setModifier .afbcWideblk true else format
    if support .afbcBlockSplit
    then format.setModifier .afbcSplitblk (enableSplitBlock f producers consumers)
    else format
  else format

/-- **Only the candidate is repaired**, where AFBC is not avoided. -/
theorem getAfbcFormat_eq {f : FormatInfo} {usage : Usage} :
    getAfbcFormat caps f usage producers consumers =
      if avoidsAfbc caps f producers consumers then
        InternalFormat.fromAndroid f.id (calcFormatDataType f)
      else validateAfbcFormat caps (afbcCandidate caps f usage producers consumers) producers
        consumers := by
  rcases h : avoidsAfbc caps f producers consumers with - | -
  · simp only [avoidsAfbc, Bool.or_eq_false_iff] at h
    rcases h with ⟨⟨⟨hread, hwrite⟩, hvpu⟩, hsupport⟩
    unfold getAfbcFormat
    extract_lets base support f₁ f₂ t₁ t₂ f₃ w₁ f₄
    rw [if_neg (by rw [hread]; decide), if_neg (by rw [hwrite]; decide),
      if_neg (by rw [hvpu]; decide), if_neg (by rw [hsupport]; decide), if_neg (by decide)]
    rfl
  · rw [getAfbcFormat_of_avoidsAfbc h, if_pos rfl]

/-- What is selected is settled: AFBC is tried only where it is supported, and blocks are
asked to be split only where they can be. -/
theorem settled_getAfbcFormat {f : FormatInfo} {usage : Usage} (hf : f ∈ formats)
    (h : (getAfbcFormat caps f usage producers consumers).isAfbc = true) :
    Settled caps producers consumers (getAfbcFormat caps f usage producers consumers) := by
  have havoids := avoidsAfbc_of_isAfbc hf h
  rcases afbcFeatures_getAfbcFormat hf havoids with ⟨hbut, hfeatures⟩
  have hwell := afbcWellFormed_getAfbcFormat hf h
  refine ⟨Or.inl h, ?_⟩
  rcases afbcFeatures_validateAfbcFormat (getAfbcFormat caps f usage producers consumers)
    hwell.basic with ⟨hbut', hfeatures'⟩
  refine hbut'.eq_of_afbcFeatures .rfl ?_
  have hid : (getAfbcFormat caps f usage producers consumers).getBase = f.id := by
    rw [hbut.getBase_eq]
    exact getBase_fromAndroid (t := calcFormatDataType f) (and_fmtMask_of_mem_formats f hf)
  have hsub : isSubsampledYuv (getAfbcFormat caps f usage producers consumers) =
      f.isSubsampled := isSubsampledYuv_of_getBase hf hid
  rw [hfeatures', hid, hsub, hfeatures, repair_repair_iff]
  rintro ⟨hwide, -, h565, hno⟩
  rw [← hfeatures] at hwide
  have hsplit := (hwell.wide hwide).2.2 (by simpa using h565)
  exact absurd ((hwell.split hsplit).1.symm.trans hno) (by decide)

/-- **What is repaired is settled by the repair**: every format that is proposed is AFBC, becomes
what is selected, is AFBC still, and a second repair leaves it as it is. -/
theorem settled_validateAfbcFormat_candidate {f : FormatInfo} {usage : Usage} (hf : f ∈ formats)
    (h : avoidsAfbc caps f producers consumers = false) :
    let candidate := afbcCandidate caps f usage producers consumers
    let repaired := validateAfbcFormat caps candidate producers consumers
    getAfbcFormat caps f usage producers consumers = repaired ∧ candidate.isAfbc = true ∧
      (repaired.isAfbc = true ∨ repaired.hasModifiers = false) ∧
      validateAfbcFormat caps repaired producers consumers = repaired := by
  intro candidate repaired
  have hselected : getAfbcFormat caps f usage producers consumers = repaired := by
    rw [getAfbcFormat_eq, h, if_neg (by decide)]
  have hsupport : ipSupportFeature caps producers consumers .afbc16x16 = true := by
    simp only [avoidsAfbc, Bool.or_eq_false_iff, Bool.not_eq_false'] at h
    exact h.2
  have hafbc : (getAfbcFormat caps f usage producers consumers).isAfbc = true :=
    isAfbc_getAfbcFormat hf h
  have hsettled : Settled caps producers consumers repaired :=
    hselected ▸ settled_getAfbcFormat hf hafbc
  -- the repair does not touch the bit of AFBC where it is supported
  have hbut : candidate.SameBut repaired := (afbcFeatures_validateAfbcFormat candidate hsupport).1
  exact ⟨hselected, hbut.isAfbc_eq.symm.trans (hselected ▸ hafbc), hsettled.1, hsettled.2⟩

/-- `RGBA_8888` that the GPU writes and the display reads, in wide and split blocks. -/
theorem settled_validateAfbcFormat_candidate_rgba8888 :
    let caps := { Capabilities.gpuOnly with
      gpu := [(.afbc16x16, .rw), (.afbc32x8, .rw), (.afbcBlockSplit, .rw)]
      dpu := some [(.afbc16x16, .ro), (.afbc32x8, .ro), (.afbcBlockSplit, .ro)] }
    ∃ f, getFormatInfo .rgba8888 = some f ∧
      let candidate := afbcCandidate caps f 0xb00#64 Ip.gpu Ip.dpu
      let repaired := validateAfbcFormat caps candidate Ip.gpu Ip.dpu
      getAfbcFormat caps f 0xb00#64 Ip.gpu Ip.dpu = repaired ∧ candidate.isAfbc = true ∧
        (repaired.isAfbc = true ∨ repaired.hasModifiers = false) ∧
        validateAfbcFormat caps repaired Ip.gpu Ip.dpu = repaired :=
  ⟨_, rfl, settled_validateAfbcFormat_candidate (by decide) (by decide)⟩

end

end Gralloc
