import Gralloc.Format.Compatible

/-!
# Composition without the display

Where the display supports no layout of a format and the GPU consumes it as well, the layouts are
those of the other consumers. But the formats of these layouts are built for all of them, with the
display: AFRC and AFBC are made with the features that the display reads, and not at all where it
does not, and AFBC is given the blocks that a display likes.

`Gralloc.FallbackAgrees` says, in the features of the platform, when nothing of this makes a
difference: then, and only then, the request is given what it would be given without the display
(`Gralloc.getSupportedFormat_remove_dpu_iff`).
-/

namespace Gralloc

/-! ### Support -/

section

variable {caps : Capabilities} {producers consumers : Ip}

/-- Whoever consumes without the display consumes with it. -/
theorem contains_of_contains_remove {ips ip jp : Ip} (h : (ips.remove jp).contains ip = true) :
    ips.contains ip = true := by
  rw [Ip.contains, bne_iff_ne] at h ⊢
  rintro hzero
  refine h ?_
  rw [Ip.remove, ← BitVec.and_assoc, hzero, BitVec.zero_and]

theorem contains_remove_of_ne {ips ip jp : Ip} (h : ~~~jp &&& ip = ip) :
    (ips.remove jp).contains ip = ips.contains ip := by
  rw [Ip.contains, Ip.contains, Ip.remove, BitVec.and_comm ips, ← BitVec.and_assoc,
    BitVec.and_comm ip, h]

/-- **Fewer producers and consumers support more.** -/
theorem ipSupportFeature_mono {producers' consumers' : Ip} {feature : Feature}
    (hp : ∀ ip, producers'.contains ip = true → producers.contains ip = true)
    (hc : ∀ ip, consumers'.contains ip = true → consumers.contains ip = true)
    (h : ipSupportFeature caps producers consumers feature = true) :
    ipSupportFeature caps producers' consumers' feature = true := by
  rw [ipSupportFeature] at h ⊢
  split_ifs at h with hcpu
  rw [Bool.and_eq_true, Bool.or_eq_true, not_and] at hcpu
  have hcpu' : ¬((producers'.contains Ip.cpu || consumers'.contains Ip.cpu) &&
      !capsSupportsFeatureCpu feature) = true := by
    rw [Bool.and_eq_true, Bool.or_eq_true, not_and]
    exact fun hsome => hcpu (hsome.imp (hp _) (hc _))
  rw [if_neg hcpu', List.all_eq_true]
  intro e he
  have hall := List.all_eq_true.mp h e he
  simp only [Bool.and_eq_true, Bool.or_eq_true, Bool.not_eq_true'] at hall ⊢
  constructor
  · exact hall.1.imp_left fun hnot => Bool.eq_false_of_not_eq_true fun hin =>
      absurd (hnot.symm.trans (hp _ hin)) Bool.false_ne_true
  · exact hall.2.imp_left fun hnot => Bool.eq_false_of_not_eq_true fun hin =>
      absurd (hnot.symm.trans (hc _ hin)) Bool.false_ne_true

theorem ipSupportFeature_remove {ip : Ip} {feature : Feature}
    (h : ipSupportFeature caps producers consumers feature = true) :
    ipSupportFeature caps producers (consumers.remove ip) feature = true :=
  ipSupportFeature_mono (fun _ => id) (fun _ => contains_of_contains_remove) h

theorem contains_none {ip : Ip} (h : Ip.none.contains ip = true) {p : Prop} : p := by
  rw [Ip.contains, Ip.none, BitVec.and_zero] at h
  exact absurd h (by decide)

end

section

variable {caps : Capabilities} {f : FormatInfo} {ip : FormatIpSupport} {usage : Usage}
  {producers consumers : Ip} {flags g : SupportFlags}

theorem SupportFlags.has_without_self (flags g : SupportFlags) :
    (flags.without g).has g = false := by
  rw [SupportFlags.has, SupportFlags.without, BitVec.and_assoc, BitVec.and_comm (~~~g) g]
  simp

/-- Where a layout was not taken away, the test that would take it failed. -/
theorem SupportFlags.not_of_has_ite_without {b : Bool}
    (h : (if flags.has g && b then flags.without g else flags).has g = true) : ¬b = true := by
  split_ifs at h with hcond
  · rw [SupportFlags.has_without_self] at h
    exact absurd h Bool.false_ne_true
  · rwa [h, Bool.true_and] at hcond

theorem has_of_has_restrictAfrc (h : (restrictAfrc caps f producers consumers flags).has g = true) :
    flags.has g = true := SupportFlags.has_of_has_ite h

theorem has_of_has_restrictBlYuv
    (h : (restrictBlYuv caps f producers consumers flags).has g = true) :
    flags.has g = true := SupportFlags.has_of_has_ite h

/-- A format that has lost its layouts is linear at most. -/
theorem has_of_has_restrictBase (hg : SupportFlags.fLin.has g = false)
    (h : (restrictBase caps f producers consumers flags).has g = true) : flags.has g = true := by
  have hnone : SupportFlags.fNone.has g = false := by
    rw [SupportFlags.has, SupportFlags.fNone, BitVec.zero_and]
    rfl
  rw [restrictBase] at h
  split_ifs at h
  all_goals first
    | exact h
    | exact absurd (hnone.symm.trans h) Bool.false_ne_true
    | exact absurd (hg.symm.trans h) Bool.false_ne_true

/-- **What a layout says of the features.** -/
theorem support_of_has_fAfbc
    (h : (isFormatSupported caps f ip usage producers consumers).has .fAfbc = true) :
    f.afbc = true ∧ ipSupportFeature caps producers consumers .afbc16x16 = true ∧
      (f.isYuv = true → ipSupportFeature caps producers consumers .afbcYuv = true) ∧
      (usage.isFrontbuffer = true →
        ipSupportFeature caps producers consumers .afbcDoubleBody = true) := by
  have h₁ := has_of_has_restrictAfrc
    (has_of_has_restrictBlYuv (has_of_has_restrictBase (by decide) h))
  rw [restrictAfbc] at h₁
  have hcond := SupportFlags.not_of_has_ite_without h₁
  simp only [Bool.or_eq_true, Bool.and_eq_true, Bool.not_eq_true', not_or, not_and,
    Bool.not_eq_false] at hcond
  exact ⟨hcond.1.1.1.1, hcond.1.1.1.2, hcond.1.1.2, hcond.1.2⟩

theorem support_of_has_fAfrc
    (h : (isFormatSupported caps f ip usage producers consumers).has .fAfrc = true) :
    ipSupportFeature caps producers consumers .afrcRotLayout = true ∨
      ipSupportFeature caps producers consumers .afrcScanLayout = true := by
  have h₁ := has_of_has_restrictBlYuv (has_of_has_restrictBase (by decide) h)
  rw [restrictAfrc] at h₁
  have hcond := SupportFlags.not_of_has_ite_without h₁
  simp only [Bool.or_eq_true, Bool.and_eq_true, Bool.not_eq_true', not_or, not_and,
    Bool.not_eq_false] at hcond
  rcases hrot : ipSupportFeature caps producers consumers .afrcRotLayout with - | -
  · exact .inr (hcond.2 hrot)
  · exact .inl rfl

theorem bps_of_mem_formats : ∀ f ∈ formats, f.blockLinear = true → f.bps = 8 ∨ f.bps = 10 := by
  decide

theorem support_of_has_fBlYuv (hf : f ∈ formats)
    (h : (isFormatSupported caps f ip usage producers consumers).has .fBlYuv = true) :
    ipSupportFeature caps producers consumers .yuvBl8 = true ∨
      ipSupportFeature caps producers consumers .yuvBl10 = true := by
  have h₁ := has_of_has_restrictBase (by decide) h
  rw [restrictBlYuv] at h₁
  have hcond := SupportFlags.not_of_has_ite_without h₁
  simp only [Bool.or_eq_true, Bool.and_eq_true, Bool.not_eq_true', not_or, not_and,
    Bool.not_eq_false, beq_iff_eq, Bool.and_eq_false_iff] at hcond
  rcases bps_of_mem_formats f hf hcond.1.1.1 with hbps | hbps
  · exact .inl (hcond.1.2 hbps)
  · exact .inr (hcond.2 hbps)

end

/-! ### The AFRC candidate -/

section

variable {caps : Capabilities} {f : FormatInfo} {usage : Usage} {producers consumers : Ip}

/-- The usage gives a format the coding sizes that AFRC needs, and no others. -/
def afrcSized (f : FormatInfo) (usage : Usage) : Bool :=
  (afrcLumaCodingSize usage).isSome &&
    if f.isYuv then (afrcChromaCodingSize usage).isSome else !usage.has Usage.afrcChromaMask

/-- A base in AFRC, rotated or not, with its coding sizes. -/
def sizedAfrc (f : FormatInfo) (usage : Usage) (rot : Bool) : InternalFormat :=
  let base := InternalFormat.fromAndroid f.id (calcFormatDataType f)
  let format := base.setModifier .afrcBasic true
  let format := if rot then format.setModifier .afrcRotLayout true else format
  match afrcLumaCodingSize usage with
  | some luma =>
    let format := format.setAfrcLumaCodingSize luma
    if f.isYuv then
      match afrcChromaCodingSize usage with
      | some chroma => format.setAfrcChromaCodingSize chroma
      | none => format
    else format
  | none => format

/-- **The AFRC candidate** is made of the usage and of the layout that is supported. -/
theorem getAfrcFormat_eq :
    getAfrcFormat caps f usage producers consumers =
      if (ipSupportFeature caps producers consumers .afrcRotLayout ||
          ipSupportFeature caps producers consumers .afrcScanLayout) && afrcSized f usage
      then sizedAfrc f usage (ipSupportFeature caps producers consumers .afrcRotLayout)
      else InternalFormat.fromAndroid f.id (calcFormatDataType f) := by
  rw [getAfrcFormat, afrcSized, sizedAfrc]
  dsimp only
  rcases ipSupportFeature caps producers consumers .afrcRotLayout with - | -
  all_goals rcases ipSupportFeature caps producers consumers .afrcScanLayout with - | -
  all_goals rcases afrcLumaCodingSize usage with - | luma
  all_goals rcases f.isYuv with - | -
  all_goals rcases afrcChromaCodingSize usage with - | chroma
  all_goals rcases usage.has Usage.afrcChromaMask with - | -
  all_goals rfl

/-- Coding sizes are beside the bits of AFRC. -/
theorem getModifier_setAfrcCodingSize {shift : ℕ} (hs : shift = 20 ∨ shift = 22)
    {flag : Modifiers} (hflag : flag = .afrcBasic ∨ flag = .afrcRotLayout) (a : InternalFormat)
    (size : AfrcCodingUnitSize) :
    (InternalFormat.setAfrcCodingSize shift a size).getModifier flag = a.getModifier flag := by
  have hkeep : ~~~(Modifiers.afrcCodingMask <<< shift) &&& flag = flag := by
    rcases hs with rfl | rfl <;> rcases hflag with rfl | rfl <;> decide
  have hcode : size.code <<< shift &&& flag = 0#32 := by
    rcases hs with rfl | rfl <;> rcases hflag with rfl | rfl <;> cases size <;> decide
  simp [InternalFormat.getModifier, InternalFormat.setAfrcCodingSize,
    BitVec.and_or_distrib_right, hcode, BitVec.and_assoc, hkeep]

theorem getModifier_sizedAfrc {flag : Modifiers} (hflag : flag = .afrcBasic ∨ flag = .afrcRotLayout)
    (rot : Bool) :
    (sizedAfrc f usage rot).getModifier flag =
      (let base := InternalFormat.fromAndroid f.id (calcFormatDataType f)
        if rot then (base.setModifier .afrcBasic true).setModifier .afrcRotLayout true
        else base.setModifier .afrcBasic true).getModifier flag := by
  rw [sizedAfrc]
  dsimp only
  rcases afrcLumaCodingSize usage with - | luma
  · rfl
  have hluma (a : InternalFormat) (size : AfrcCodingUnitSize) :
      (a.setAfrcLumaCodingSize size).getModifier flag = a.getModifier flag :=
    getModifier_setAfrcCodingSize (.inl rfl) hflag a size
  have hchroma (a : InternalFormat) (size : AfrcCodingUnitSize) :
      (a.setAfrcChromaCodingSize size).getModifier flag = a.getModifier flag :=
    getModifier_setAfrcCodingSize (.inr rfl) hflag a size
  rcases f.isYuv with - | -
  · exact hluma _ _
  · rcases afrcChromaCodingSize usage with - | chroma
    · exact hluma _ _
    · exact (hchroma _ _).trans (hluma _ _)

theorem isAfrc_sizedAfrc (rot : Bool) : (sizedAfrc f usage rot).isAfrc = true := by
  have hrot : Modifiers.afrcRotLayout &&& Modifiers.afrcBasic = 0#32 := by decide
  have hne : Modifiers.afrcBasic ≠ 0#32 := by decide
  rw [InternalFormat.isAfrc, getModifier_sizedAfrc (.inl rfl)]
  cases rot with
  | true =>
    exact (getModifier_setModifier_of_disjoint hrot _ _).trans (getModifier_setModifier _ _ hne)
  | false => exact getModifier_setModifier _ _ hne

theorem getAfrcRotLayout_sizedAfrc (hf : f ∈ formats) (rot : Bool) :
    (sizedAfrc f usage rot).getAfrcRotLayout = rot := by
  have hbasic : Modifiers.afrcBasic &&& Modifiers.afrcRotLayout = 0#32 := by decide
  have hne : Modifiers.afrcRotLayout ≠ 0#32 := by decide
  rw [InternalFormat.getAfrcRotLayout, getModifier_sizedAfrc (.inr rfl)]
  cases rot with
  | true => exact getModifier_setModifier _ _ hne
  | false =>
    exact (getModifier_setModifier_of_disjoint hbasic _ _).trans
      (getModifier_of_mem_formats hf _ _)

theorem isAfrc_getAfrcFormat (hf : f ∈ formats) :
    (getAfrcFormat caps f usage producers consumers).isAfrc =
      ((ipSupportFeature caps producers consumers .afrcRotLayout ||
        ipSupportFeature caps producers consumers .afrcScanLayout) && afrcSized f usage) := by
  rw [getAfrcFormat_eq]
  split_ifs with hcond
  · rw [hcond]
    exact isAfrc_sizedAfrc _
  · rw [Bool.eq_false_of_not_eq_true hcond]
    exact getModifier_of_mem_formats hf _ _

end

/-! ### The AFBC candidate -/

section

variable (caps : Capabilities) (f : FormatInfo) (usage : Usage) (producers consumers : Ip)

/-- The planes of the format are one AFBC buffer, or need no superblocks of their own. -/
def FormatInfo.inOnePiece (f : FormatInfo) : Bool := f.npln == 1 || !f.isYuv

/-- Video is written and read by the same block. -/
def transcoded : Bool := producers.contains Ip.vpu && consumers.contains Ip.vpu

/-- AFBC is read by all the consumers, and of YUV formats. -/
def readsAfbc : Bool :=
  ipSupportFeature caps producers consumers .afbc16x16 &&
    (!f.isYuv || ipSupportFeature caps Ip.none consumers .afbcYuv)

/-- Blocks are added for a display: wide ones, or split ones. -/
def addsBlocks : Bool :=
  let support := ipSupportFeature caps producers consumers
  AfbcFeatures.gpuToDisplay caps producers consumers &&
    ((!f.isYuv && support .afbc32x8 && (f.id == .rgb565 || support .afbcBlockSplit) &&
        !(support .afbcTiledHeaders && (usage.isFrontbuffer && support .afbcDoubleBody))) ||
      (!(f.id == .rgb565) && support .afbcBlockSplit && enableSplitBlock f producers consumers))

variable {caps f usage producers consumers}

theorem ite_eq_or (b x y : Bool) : (if b = true then x else y) = (b && x || !b && y) := by
  cases b <;> cases x <;> cases y <;> rfl

/-- Blocks are those that are added. -/
theorem blocks_getAfbcFormat (hf : f ∈ formats)
    (h : avoidsAfbc caps f producers consumers = false) :
    ((getAfbcFormat caps f usage producers consumers).afbcFeatures.wide ||
      (getAfbcFormat caps f usage producers consumers).afbcFeatures.split) =
        addsBlocks caps f usage producers consumers := by
  rw [(afbcFeatures_getAfbcFormat hf h).2, repair_wide, repair_split, ite_eq_or, addsBlocks,
    AfbcFeatures.asked, FormatInfo.isSubsampled]
  dsimp only
  generalize AfbcFeatures.gpuToDisplay caps producers consumers = display
  generalize ipSupportFeature caps producers consumers .afbc32x8 = wide
  generalize ipSupportFeature caps producers consumers .afbcBlockSplit = split
  generalize (ipSupportFeature caps producers consumers .afbcTiledHeaders &&
    (usage.isFrontbuffer && ipSupportFeature caps producers consumers .afbcDoubleBody)) = two
  generalize enableSplitBlock f producers consumers = enable
  generalize (f.id == .rgb565) = rgb565
  generalize (decide (f.hsub > 1) || decide (f.vsub > 1)) = sub
  generalize f.isYuv = yuv
  revert display wide split two enable rgb565 sub yuv
  decide

/-- **Planes fit the allocation** of an AFBC format where they are one buffer, or have their
superblocks. -/
theorem any_isMultiPlane_eq {a : InternalFormat} (hafbc : a.isAfbc = true)
    (hinfo : a.getBaseInfo = some f) (hpos : 0 < f.npln)
    (hextra : a.getAfbc64x4 = true →
      a.getAfbcTiledHeaders = true ∧ 1 < f.npln ∧ f.isYuv = true) :
    ((getAllocType a usage).any fun t => f.npln == 1 || t.isMultiPlane) =
      (f.inOnePiece || a.getAfbc64x4) := by
  rw [getAllocType, hinfo, Option.bind_some, if_pos hafbc, getAfbcAllocType,
    FormatInfo.inOnePiece]
  rcases h64 : a.getAfbc64x4 with - | -
  · rw [if_neg (by rw [Bool.false_and]; decide), if_neg (by rw [Bool.and_false]; decide),
      Option.any_some, afbcIsMultiPlane, h64]
    by_cases hone : f.npln = 1
    · rw [hone]
      rfl
    · have hmany : 1 < f.npln := by omega
      have hne : (f.npln == 1) = false := beq_eq_false_iff_ne.mpr hone
      rcases f.isYuv with - | -
      · simp [hne, hmany]
      · simp [hne, hmany]
  · rcases hextra h64 with ⟨htiled, hmany, hyuv⟩
    have hne : (f.npln == 1) = false := beq_eq_false_iff_ne.mpr (by omega)
    rw [htiled, hne, if_neg (by decide), if_neg (by rw [Bool.false_and, Bool.false_and]; decide),
      Option.any_some, afbcIsMultiPlane, htiled, h64]
    simp [hmany]

theorem any_isMultiPlane_getAfbcFormat (hf : f ∈ formats)
    (h : avoidsAfbc caps f producers consumers = false) :
    ((getAllocType (getAfbcFormat caps f usage producers consumers) usage).any fun t =>
      f.npln == 1 || t.isMultiPlane) =
        (f.inOnePiece || separatesPlanes caps f usage producers consumers) := by
  rw [← extraWide_getAfbcFormat hf h]
  refine any_isMultiPlane_eq (isAfbc_getAfbcFormat hf h) ?_
    (wellFormed_of_mem_formats f hf).npln_pos ?_
  · exact getBaseInfo_of_getBase hf (getBase_getAfbcFormat hf)
  · intro hextra
    rw [getAfbc64x4_eq, extraWide_getAfbcFormat hf h] at hextra
    simp only [separatesPlanes, Bool.and_eq_true, decide_eq_true_iff] at hextra
    rw [getAfbcTiledHeaders_eq, tiledHeaders_getAfbcFormat hf h]
    exact ⟨hextra.1.1, hextra.1.2.1.1, hextra.1.2.2⟩

end

/-! ### One candidate after another -/

/-- **Two chains of candidates agree** if they agree on the first one, of a kind that no later one
has, and after it. -/
theorem ite_some_eq_iff {α β : Type} (kind : α → β) (k : β) {p p' : Bool} {x x' : α}
    {r r' : Option α} (hx : p = true → kind x = k) (hx' : p' = true → kind x' = k)
    (hr : ∀ y ∈ r, kind y ≠ k) (hr' : ∀ y ∈ r', kind y ≠ k) :
    ((if p = true then some x else r) = if p' = true then some x' else r') ↔
      (p = p' ∧ (p' = true → x = x')) ∧ (p' = false → r = r') := by
  cases p with
  | true =>
    cases p' with
    | true => simp
    | false =>
      simp only [if_true, Bool.false_eq_true, if_false, Bool.true_eq_false, false_and, iff_false]
      exact fun h => hr' x h.symm (hx rfl)
  | false =>
    cases p' with
    | true =>
      simp only [if_true, Bool.false_eq_true, if_false, Bool.false_eq_true, false_and, iff_false]
      exact fun h => hr x' h (hx' rfl)
    | false => simp

section

variable (caps : Capabilities) (f : FormatInfo) (usage : Usage) (producers consumers : Ip)
  (flags : SupportFlags)

/-- AFRC is taken. -/
def takesAfrc : Bool := flags.has .fAfrc && (getAfrcFormat caps f usage producers consumers).isAfrc

/-- AFBC is taken. -/
def takesAfbc : Bool :=
  flags.has .fAfbc && !usage.isNoAfbc &&
    (getAfbcFormat caps f usage producers consumers).isAfbc &&
    (getAllocType (getAfbcFormat caps f usage producers consumers) usage).any fun t =>
      f.npln == 1 || t.isMultiPlane

/-- Blocks in a line are taken. -/
def takesBl : Bool :=
  let base := InternalFormat.fromAndroid f.id (calcFormatDataType f)
  flags.has .fBlYuv && (getBlFormat caps base producers consumers).isBlockLinear

/-- The last candidate. -/
def linearLayout : Option InternalFormat :=
  if flags.has .fLin = true then some (InternalFormat.fromAndroid f.id (calcFormatDataType f))
  else none

/-- The candidates from blocks in a line on. -/
def blLayout : Option InternalFormat :=
  let base := InternalFormat.fromAndroid f.id (calcFormatDataType f)
  if takesBl caps f producers consumers flags = true
  then some (getBlFormat caps base producers consumers)
  else linearLayout f flags

/-- The candidates from AFBC on. -/
def afbcLayout : Option InternalFormat :=
  if takesAfbc caps f usage producers consumers flags = true
  then some (getAfbcFormat caps f usage producers consumers)
  else blLayout caps f producers consumers flags

theorem firstLayout_eq :
    firstLayout caps f usage producers consumers flags =
      if takesAfrc caps f usage producers consumers flags = true
      then some (getAfrcFormat caps f usage producers consumers)
      else afbcLayout caps f usage producers consumers flags := rfl

end

section

variable {caps : Capabilities} {f : FormatInfo} {usage : Usage}
  {producers consumers consumers' : Ip} {flags : SupportFlags} {a : InternalFormat}

theorem layout_getAfrcFormat (hf : f ∈ formats)
    (h : takesAfrc caps f usage producers consumers flags = true) :
    (getAfrcFormat caps f usage producers consumers).layout = .fAfrc := by
  rw [takesAfrc, Bool.and_eq_true] at h
  rw [InternalFormat.layout, isAfbc_getAfrcFormat hf usage producers consumers, h.2]
  rfl

theorem layout_getAfbcFormat (h : takesAfbc caps f usage producers consumers flags = true) :
    (getAfbcFormat caps f usage producers consumers).layout = .fAfbc := by
  rw [takesAfbc, Bool.and_eq_true, Bool.and_eq_true] at h
  rw [InternalFormat.layout, h.1.2]
  rfl

theorem layout_of_takesBl (hf : f ∈ formats)
    (h : takesBl caps f producers consumers flags = true) :
    (getBlFormat caps (InternalFormat.fromAndroid f.id (calcFormatDataType f)) producers
      consumers).layout = .fBlYuv := by
  rw [takesBl, Bool.and_eq_true] at h
  exact layout_getBlFormat (hasModifiers_of_mem_formats hf _) h.2

theorem layout_of_linearLayout (hf : f ∈ formats) (h : a ∈ linearLayout f flags) :
    a.layout = .fLin := by
  rw [linearLayout, Option.mem_def] at h
  split_ifs at h
  rw [← Option.some.inj h]
  exact layout_of_hasModifiers (hasModifiers_of_mem_formats hf _)

theorem layout_of_blLayout (hf : f ∈ formats) (h : a ∈ blLayout caps f producers consumers flags) :
    a.layout = .fBlYuv ∨ a.layout = .fLin := by
  rw [blLayout, Option.mem_def] at h
  split_ifs at h with htakes
  · rw [← Option.some.inj h]
    exact .inl (layout_of_takesBl hf htakes)
  · exact .inr (layout_of_linearLayout hf h)

theorem layout_of_afbcLayout (hf : f ∈ formats)
    (h : a ∈ afbcLayout caps f usage producers consumers flags) :
    a.layout = .fAfbc ∨ a.layout = .fBlYuv ∨ a.layout = .fLin := by
  rw [afbcLayout, Option.mem_def] at h
  split_ifs at h with htakes
  · rw [← Option.some.inj h]
    exact .inl (layout_getAfbcFormat htakes)
  · exact .inr (layout_of_blLayout hf h)

theorem blLayout_eq_iff (hf : f ∈ formats) :
    blLayout caps f producers consumers flags = blLayout caps f producers consumers' flags ↔
      takesBl caps f producers consumers flags = takesBl caps f producers consumers' flags ∧
        (takesBl caps f producers consumers' flags = true →
          getBlFormat caps (InternalFormat.fromAndroid f.id (calcFormatDataType f)) producers
              consumers =
            getBlFormat caps (InternalFormat.fromAndroid f.id (calcFormatDataType f)) producers
              consumers') := by
  have hlin (y : InternalFormat) (hy : y ∈ linearLayout f flags) : y.layout ≠ .fBlYuv := by
    rw [layout_of_linearLayout hf hy]
    decide
  rw [blLayout, blLayout]
  refine (ite_some_eq_iff InternalFormat.layout .fBlYuv (layout_of_takesBl hf)
    (layout_of_takesBl hf) hlin hlin).trans ?_
  simp only [implies_true, and_true]

theorem afbcLayout_eq_iff (hf : f ∈ formats) :
    afbcLayout caps f usage producers consumers flags =
        afbcLayout caps f usage producers consumers' flags ↔
      (takesAfbc caps f usage producers consumers flags =
          takesAfbc caps f usage producers consumers' flags ∧
        (takesAfbc caps f usage producers consumers' flags = true →
          getAfbcFormat caps f usage producers consumers =
            getAfbcFormat caps f usage producers consumers')) ∧
      (takesAfbc caps f usage producers consumers' flags = false →
        blLayout caps f producers consumers flags =
          blLayout caps f producers consumers' flags) := by
  have hbl (ips : Ip) (y : InternalFormat) (hy : y ∈ blLayout caps f producers ips flags) :
      y.layout ≠ .fAfbc := by
    rcases layout_of_blLayout hf hy with h | h <;> rw [h] <;> decide
  exact ite_some_eq_iff InternalFormat.layout .fAfbc layout_getAfbcFormat layout_getAfbcFormat
    (hbl _) (hbl _)

/-- **The first layouts agree** where each candidate does that comes to be tried. -/
theorem firstLayout_eq_iff (hf : f ∈ formats) :
    firstLayout caps f usage producers consumers flags =
        firstLayout caps f usage producers consumers' flags ↔
      (takesAfrc caps f usage producers consumers flags =
          takesAfrc caps f usage producers consumers' flags ∧
        (takesAfrc caps f usage producers consumers' flags = true →
          getAfrcFormat caps f usage producers consumers =
            getAfrcFormat caps f usage producers consumers')) ∧
      (takesAfrc caps f usage producers consumers' flags = false →
        afbcLayout caps f usage producers consumers flags =
          afbcLayout caps f usage producers consumers' flags) := by
  have hafbc (ips : Ip) (y : InternalFormat)
      (hy : y ∈ afbcLayout caps f usage producers ips flags) : y.layout ≠ .fAfrc := by
    rcases layout_of_afbcLayout hf hy with h | h | h <;> rw [h] <;> decide
  rw [firstLayout_eq, firstLayout_eq]
  exact ite_some_eq_iff InternalFormat.layout .fAfrc (layout_getAfrcFormat hf)
    (layout_getAfrcFormat hf) (hafbc _) (hafbc _)

end

/-! ### What is tried -/

section

variable (f : FormatInfo) (usage : Usage) (producers consumers : Ip) (flags : SupportFlags)

/-- AFRC is supported, and there is a format of its sizes. -/
def triesAfrc : Bool := flags.has .fAfrc && afrcSized f usage

/-- AFBC is supported, and neither the usage nor the video block keeps it out. -/
def triesAfbc : Bool := flags.has .fAfbc && !usage.isNoAfbc && !transcoded producers consumers

end

section

variable {caps : Capabilities} {f : FormatInfo} {ip : FormatIpSupport} {usage : Usage}
  {producers consumers : Ip} {flags : SupportFlags}

theorem takesAfrc_eq (hf : f ∈ formats) :
    takesAfrc caps f usage producers consumers flags =
      (triesAfrc f usage flags && (ipSupportFeature caps producers consumers .afrcRotLayout ||
        ipSupportFeature caps producers consumers .afrcScanLayout)) := by
  rw [takesAfrc, isAfrc_getAfrcFormat hf, triesAfrc, Bool.and_assoc, Bool.and_comm (afrcSized _ _)]

theorem isAfbc_getAfbcFormat_eq (hf : f ∈ formats) :
    (getAfbcFormat caps f usage producers consumers).isAfbc =
      !avoidsAfbc caps f producers consumers := by
  rcases h : avoidsAfbc caps f producers consumers with - | -
  · exact isAfbc_getAfbcFormat hf h
  · rw [getAfbcFormat_of_avoidsAfbc h]
    exact getModifier_of_mem_formats hf _ _

theorem takesAfbc_eq (hf : f ∈ formats) :
    takesAfbc caps f usage producers consumers flags =
      (flags.has .fAfbc && !usage.isNoAfbc && !avoidsAfbc caps f producers consumers &&
        (f.inOnePiece || separatesPlanes caps f usage producers consumers)) := by
  rw [takesAfbc, isAfbc_getAfbcFormat_eq hf]
  rcases h : avoidsAfbc caps f producers consumers with - | -
  · rw [any_isMultiPlane_getAfbcFormat hf h]
  · rw [Bool.not_true, Bool.and_false, Bool.false_and, Bool.false_and]

theorem takesBl_eq (hf : f ∈ formats) :
    takesBl caps f producers consumers flags =
      (flags.has .fBlYuv && (ipSupportFeature caps producers consumers .yuvBl8 ||
        ipSupportFeature caps producers consumers .yuvBl10)) := by
  rw [takesBl, getBlFormat]
  rcases ipSupportFeature caps producers consumers .yuvBl8 ||
    ipSupportFeature caps producers consumers .yuvBl10 with - | -
  · rw [if_neg (by decide), InternalFormat.isBlockLinear, getModifier_of_mem_formats hf]
  · rw [if_pos rfl, InternalFormat.isBlockLinear, getModifier_setModifier _ _ (by decide)]

/-- **What is supported is not avoided**, but by the video block. -/
theorem avoidsAfbc_of_has
    (h : (isFormatSupported caps f ip usage producers consumers).has .fAfbc = true) :
    avoidsAfbc caps f producers consumers = transcoded producers consumers := by
  rcases support_of_has_fAfbc h with ⟨-, h16x16, hyuv, -⟩
  have hread : f.isYuv = true → ipSupportFeature caps Ip.none consumers .afbcYuv = true :=
    fun h => ipSupportFeature_mono (fun _ h => contains_none h) (fun _ => id) (hyuv h)
  have hwrite : f.isYuv = true → ipSupportFeature caps producers Ip.none .afbcYuv = true :=
    fun h => ipSupportFeature_mono (fun _ => id) (fun _ h => contains_none h) (hyuv h)
  rw [avoidsAfbc, transcoded, h16x16]
  rcases hf : f.isYuv with - | -
  · simp
  · rw [hread hf, hwrite hf]
    simp

end

/-! ### The display left out -/

section

variable (caps : Capabilities) (f : FormatInfo) (usage : Usage) (producers consumers : Ip)

/-- The planes of the format fit an AFBC candidate that is made without the display. -/
def planesFit : Bool :=
  let support := ipSupportFeature caps producers (consumers.remove Ip.dpu)
  f.inOnePiece || (!usage.isFrontbuffer && support .afbcTiledHeaders && support .afbc64x4)

/-- **The display has what the AFBC candidate would be given without it**, and is given no blocks
of its own. -/
structure AfbcAgrees : Prop where
  reads : readsAfbc caps f producers consumers = true
  tiled : ipSupportFeature caps producers (consumers.remove Ip.dpu) .afbcTiledHeaders = true →
    ipSupportFeature caps producers consumers .afbcTiledHeaders = true
  bodies : usage.isFrontbuffer = true →
    ipSupportFeature caps producers (consumers.remove Ip.dpu) .afbcTiledHeaders = true →
    ipSupportFeature caps producers consumers .afbcDoubleBody = true
  planes : f.inOnePiece = false → ipSupportFeature caps producers consumers .afbc64x4 = true
  blocks : addsBlocks caps f usage producers consumers = false

/-- **The display makes no difference** to a format that is supported without it: to AFRC, where
the format is tried in it; otherwise to AFBC, where it is tried and its planes fit without the
display, or would fit with it alone; and otherwise to blocks in a line. -/
structure FallbackAgrees (flags : SupportFlags) : Prop where
  afrc : triesAfrc f usage flags = true →
    if ipSupportFeature caps producers (consumers.remove Ip.dpu) .afrcRotLayout = true
    then ipSupportFeature caps producers consumers .afrcRotLayout = true
    else ipSupportFeature caps producers consumers .afrcScanLayout = true
  afbc : triesAfrc f usage flags = false → triesAfbc usage producers consumers flags = true →
    planesFit caps f usage producers consumers = true →
    AfbcAgrees caps f usage producers consumers
  bodies : triesAfrc f usage flags = false → triesAfbc usage producers consumers flags = true →
    planesFit caps f usage producers consumers = false →
    ¬(usage.isFrontbuffer = true ∧ readsAfbc caps f producers consumers = true ∧
      ipSupportFeature caps producers consumers .afbcTiledHeaders = true ∧
      ipSupportFeature caps producers consumers .afbc64x4 = true ∧
      ipSupportFeature caps producers consumers .afbcDoubleBody = false)
  blockLinear : triesAfrc f usage flags = false →
    (triesAfbc usage producers consumers flags &&
      planesFit caps f usage producers consumers) = false →
    flags.has .fBlYuv = true →
    ipSupportFeature caps producers consumers .yuvBl8 = true ∨
      ipSupportFeature caps producers consumers .yuvBl10 = true

end

section

variable {caps : Capabilities} {f : FormatInfo} {ip : FormatIpSupport} {usage : Usage}
  {producers consumers : Ip} {flags : SupportFlags}

theorem contains_remove_self (ips ip : Ip) : (ips.remove ip).contains ip = false := by
  rw [Ip.contains, Ip.remove, BitVec.and_comm ips, ← BitVec.and_assoc, BitVec.and_not_self]
  simp

theorem transcoded_remove_dpu :
    transcoded producers (consumers.remove Ip.dpu) = transcoded producers consumers := by
  rw [transcoded, contains_remove_of_ne (by decide), transcoded]

theorem addsBlocks_remove_dpu :
    addsBlocks caps f usage producers (consumers.remove Ip.dpu) = false := by
  rw [addsBlocks, AfbcFeatures.gpuToDisplay, contains_remove_self, Bool.and_false, Bool.false_and]
  exact Bool.false_and _

theorem sizedAfrc_inj (hf : f ∈ formats) {rot rot' : Bool} :
    sizedAfrc f usage rot = sizedAfrc f usage rot' ↔ rot = rot' := by
  constructor
  · rintro h
    rw [← getAfrcRotLayout_sizedAfrc hf rot, h, getAfrcRotLayout_sizedAfrc hf]
  · rintro rfl
    rfl

/-- **AFRC agrees.** -/
theorem afrc_agrees_iff (hf : f ∈ formats)
    (hflags : flags.has .fAfrc = true → (isFormatSupported caps f ip usage producers
      (consumers.remove Ip.dpu)).has .fAfrc = true) :
    takesAfrc caps f usage producers (consumers.remove Ip.dpu) flags = triesAfrc f usage flags ∧
      ((takesAfrc caps f usage producers consumers flags =
          takesAfrc caps f usage producers (consumers.remove Ip.dpu) flags ∧
        (takesAfrc caps f usage producers (consumers.remove Ip.dpu) flags = true →
          getAfrcFormat caps f usage producers consumers =
            getAfrcFormat caps f usage producers (consumers.remove Ip.dpu))) ↔
      (triesAfrc f usage flags = true →
        if ipSupportFeature caps producers (consumers.remove Ip.dpu) .afrcRotLayout = true
        then ipSupportFeature caps producers consumers .afrcRotLayout = true
        else ipSupportFeature caps producers consumers .afrcScanLayout = true)) := by
  rcases htries : triesAfrc f usage flags with - | -
  · simp [takesAfrc_eq hf, htries]
  have hboth := htries
  rw [triesAfrc, Bool.and_eq_true] at hboth
  have hsome := support_of_has_fAfrc (hflags hboth.1)
  have hrot : ipSupportFeature caps producers consumers .afrcRotLayout = true →
      ipSupportFeature caps producers (consumers.remove Ip.dpu) .afrcRotLayout = true :=
    ipSupportFeature_remove
  rw [← Bool.or_eq_true] at hsome
  rw [takesAfrc_eq hf, takesAfrc_eq hf, htries, getAfrcFormat_eq, getAfrcFormat_eq, hboth.2, hsome]
  refine ⟨rfl, ?_⟩
  simp only [Bool.true_and, Bool.and_true, if_true, forall_const]
  generalize ipSupportFeature caps producers consumers .afrcRotLayout = rot at hrot ⊢
  generalize ipSupportFeature caps producers (consumers.remove Ip.dpu) .afrcRotLayout = rot'
    at hrot ⊢
  generalize ipSupportFeature caps producers consumers .afrcScanLayout = scan
  cases rot <;> cases rot' <;> cases scan <;> simp [sizedAfrc_inj hf] at hrot ⊢

/-- Planes are separated if there are several, but not in two bodies. -/
theorem separatesPlanes_eq (hf : f ∈ formats) :
    separatesPlanes caps f usage producers consumers =
      (!f.inOnePiece && ipSupportFeature caps producers consumers .afbcTiledHeaders &&
        ipSupportFeature caps producers consumers .afbc64x4 &&
        !(usage.isFrontbuffer && ipSupportFeature caps producers consumers .afbcDoubleBody)) := by
  have hpos := (wellFormed_of_mem_formats f hf).npln_pos
  have hmany : decide (f.npln > 1) = !(f.npln == 1) := by
    by_cases hone : f.npln = 1
    · rw [hone]
      rfl
    · have hgt : f.npln > 1 := by omega
      rw [beq_eq_false_iff_ne.mpr hone, decide_eq_true hgt]
      rfl
  rw [separatesPlanes, isAfbcMultiplaneSupported, FormatInfo.inOnePiece, hmany]
  cases f.npln == 1 <;> cases f.isYuv <;>
    cases ipSupportFeature caps producers consumers .afbcTiledHeaders <;>
    cases ipSupportFeature caps producers consumers .afbc64x4 <;> rfl

/-- Without the display, planes fit as the platform says. -/
theorem planesFit_eq (hf : f ∈ formats)
    (hdouble : usage.isFrontbuffer = true →
      ipSupportFeature caps producers (consumers.remove Ip.dpu) .afbcDoubleBody = true) :
    (f.inOnePiece || separatesPlanes caps f usage producers (consumers.remove Ip.dpu)) =
      planesFit caps f usage producers consumers := by
  rw [separatesPlanes_eq hf, planesFit]
  rcases hfront : usage.isFrontbuffer with - | -
  · cases f.inOnePiece <;> simp
  · rw [hdouble hfront]
    cases f.inOnePiece <;> simp

/-- **AFBC without the display** is taken where it is tried and its planes fit. -/
theorem takesAfbc_remove_dpu (hf : f ∈ formats)
    (hflags : flags.has .fAfbc = true → (isFormatSupported caps f ip usage producers
      (consumers.remove Ip.dpu)).has .fAfbc = true) :
    takesAfbc caps f usage producers (consumers.remove Ip.dpu) flags =
      (triesAfbc usage producers consumers flags &&
        planesFit caps f usage producers consumers) := by
  rw [takesAfbc_eq hf, triesAfbc]
  rcases hhas : flags.has .fAfbc with - | -
  · simp
  · rw [avoidsAfbc_of_has (hflags hhas), transcoded_remove_dpu,
      planesFit_eq hf (support_of_has_fAfbc (hflags hhas)).2.2.2]

/-- With the display, AFBC has to be read by it as well. -/
theorem avoidsAfbc_of_has_remove (hgpu : consumers.contains Ip.gpu = true)
    (h : (isFormatSupported caps f ip usage producers (consumers.remove Ip.dpu)).has .fAfbc =
      true) :
    avoidsAfbc caps f producers consumers =
      (transcoded producers consumers || !readsAfbc caps f producers consumers) := by
  have hyuv := (support_of_has_fAfbc h).2.2.1
  have hwrite : f.isYuv = true → ipSupportFeature caps producers Ip.none .afbcYuv = true :=
    fun h => ipSupportFeature_mono (fun _ => id) (fun _ h => contains_none h) (hyuv h)
  have hempty : consumers.empty = false := by
    refine beq_eq_false_iff_ne.mpr ?_
    rintro rfl
    exact absurd hgpu (by decide)
  rw [avoidsAfbc, readsAfbc, hempty]
  rcases hf : f.isYuv with - | -
  · simp [transcoded]
  · rw [hwrite hf]
    generalize ipSupportFeature caps Ip.none consumers .afbcYuv = read
    generalize ipSupportFeature caps producers consumers .afbc16x16 = basic
    rw [transcoded]
    generalize (producers.contains Ip.vpu && consumers.contains Ip.vpu) = vpu
    revert read basic vpu
    decide

/-- The candidates of one base are what their features are. -/
theorem getAfbcFormat_eq_iff (hf : f ∈ formats) {consumers' : Ip}
    (h : avoidsAfbc caps f producers consumers = false)
    (h' : avoidsAfbc caps f producers consumers' = false) :
    getAfbcFormat caps f usage producers consumers =
        getAfbcFormat caps f usage producers consumers' ↔
      (getAfbcFormat caps f usage producers consumers).afbcFeatures =
        (getAfbcFormat caps f usage producers consumers').afbcFeatures :=
  ⟨congrArg _, InternalFormat.SameBut.eq_of_afbcFeatures (afbcFeatures_getAfbcFormat hf h).1
    (afbcFeatures_getAfbcFormat hf h').1⟩

/-- **The AFBC candidates agree** where the display has what the other one has, and no blocks are
added for it. -/
theorem getAfbcFormat_remove_dpu_iff (hf : f ∈ formats)
    (h : avoidsAfbc caps f producers consumers = false)
    (h' : avoidsAfbc caps f producers (consumers.remove Ip.dpu) = false)
    (hdouble : usage.isFrontbuffer = true →
      ipSupportFeature caps producers (consumers.remove Ip.dpu) .afbcDoubleBody = true)
    (hfit : planesFit caps f usage producers consumers = true) :
    getAfbcFormat caps f usage producers consumers =
        getAfbcFormat caps f usage producers (consumers.remove Ip.dpu) ↔
      (ipSupportFeature caps producers (consumers.remove Ip.dpu) .afbcTiledHeaders = true →
        ipSupportFeature caps producers consumers .afbcTiledHeaders = true) ∧
      (usage.isFrontbuffer = true →
        ipSupportFeature caps producers (consumers.remove Ip.dpu) .afbcTiledHeaders = true →
        ipSupportFeature caps producers consumers .afbcDoubleBody = true) ∧
      (f.inOnePiece = false → ipSupportFeature caps producers consumers .afbc64x4 = true) ∧
      addsBlocks caps f usage producers consumers = false := by
  have hmono : ipSupportFeature caps producers consumers .afbcTiledHeaders = true →
      ipSupportFeature caps producers (consumers.remove Ip.dpu) .afbcTiledHeaders = true :=
    ipSupportFeature_remove
  have hblocks : (_ || _) = addsBlocks caps f usage producers consumers :=
    blocks_getAfbcFormat hf h
  have hnone : (_ || _) = false :=
    (blocks_getAfbcFormat hf h').trans (addsBlocks_remove_dpu : addsBlocks caps f usage _ _ = _)
  rw [Bool.or_eq_false_iff] at hnone
  have hpieces := planesFit_eq hf hdouble
  rw [hfit] at hpieces
  rw [getAfbcFormat_eq_iff hf h h', AfbcFeatures.ext_iff, sparse_getAfbcFormat hf h,
    sparse_getAfbcFormat hf h', tiledHeaders_getAfbcFormat hf h, tiledHeaders_getAfbcFormat hf h',
    doubleBody_getAfbcFormat hf h, doubleBody_getAfbcFormat hf h', extraWide_getAfbcFormat hf h,
    extraWide_getAfbcFormat hf h', hnone.1, hnone.2, ← hblocks, Bool.or_eq_false_iff]
  rw [separatesPlanes_eq hf] at hpieces
  rw [separatesPlanes_eq hf, separatesPlanes_eq hf]
  constructor
  · rintro ⟨-, htiled, hbody, hwide, hextra, hsplit⟩
    refine ⟨htiled.trans, fun hfront ht => ?_, fun hmany => ?_, hwide, hsplit⟩
    · rw [htiled, ht, hfront, hdouble hfront] at hbody
      simpa using hbody
    · rw [hmany, Bool.false_or] at hpieces
      rw [hmany, hpieces] at hextra
      simp only [Bool.and_eq_true] at hextra
      exact hextra.1.2
  · rintro ⟨htiled, hbody, hplanes, hwide, hsplit⟩
    have heq : ipSupportFeature caps producers consumers .afbcTiledHeaders =
        ipSupportFeature caps producers (consumers.remove Ip.dpu) .afbcTiledHeaders :=
      Bool.eq_iff_iff.mpr ⟨hmono, htiled⟩
    refine ⟨rfl, heq, ?_, hwide, ?_, hsplit⟩
    · rw [heq]
      rcases hfront : usage.isFrontbuffer with - | -
      · rfl
      · rcases ht : ipSupportFeature caps producers (consumers.remove Ip.dpu) .afbcTiledHeaders
          with - | -
        · rfl
        · rw [hbody hfront ht, hdouble hfront]
    · rcases hone : f.inOnePiece with - | -
      · -- the other candidate has its superblocks, hence one body
        rw [hone] at hpieces
        simp only [Bool.false_or, Bool.not_false, Bool.true_and, Bool.and_eq_true,
          Bool.not_eq_true'] at hpieces
        rcases hpieces with ⟨⟨ht, hextra⟩, hbody'⟩
        have hfront : usage.isFrontbuffer = false := by
          refine Bool.eq_false_of_not_eq_true fun hfront => ?_
          rw [hfront, hdouble hfront] at hbody'
          exact absurd hbody' (by decide)
        rw [heq, ht, hplanes hone, hextra, hfront]
        rfl
      · rfl

/-- With the display, AFBC is taken where it is tried as well, and the display reads it. -/
theorem takesAfbc_eq_and (hf : f ∈ formats) (hgpu : consumers.contains Ip.gpu = true)
    (hflags : flags.has .fAfbc = true → (isFormatSupported caps f ip usage producers
      (consumers.remove Ip.dpu)).has .fAfbc = true) :
    takesAfbc caps f usage producers consumers flags =
      (triesAfbc usage producers consumers flags && readsAfbc caps f producers consumers &&
        (f.inOnePiece || separatesPlanes caps f usage producers consumers)) := by
  rw [takesAfbc_eq hf, triesAfbc]
  rcases hhas : flags.has .fAfbc with - | -
  · simp
  · rw [avoidsAfbc_of_has_remove hgpu (hflags hhas), Bool.not_or, Bool.not_not,
      ← Bool.and_assoc (true && !usage.isNoAfbc)]

/-- Planes that do not fit without the display fit with it for want of a second body. -/
theorem fits_of_not_planesFit (hf : f ∈ formats)
    (hfit : planesFit caps f usage producers consumers = false) :
    (f.inOnePiece || separatesPlanes caps f usage producers consumers) =
      (usage.isFrontbuffer && ipSupportFeature caps producers consumers .afbcTiledHeaders &&
        ipSupportFeature caps producers consumers .afbc64x4 &&
        !ipSupportFeature caps producers consumers .afbcDoubleBody) := by
  rw [planesFit, Bool.or_eq_false_iff] at hfit
  rw [separatesPlanes_eq hf, hfit.1]
  have htiled : ipSupportFeature caps producers consumers .afbcTiledHeaders = true →
      ipSupportFeature caps producers (consumers.remove Ip.dpu) .afbcTiledHeaders = true :=
    ipSupportFeature_remove
  have hextra : ipSupportFeature caps producers consumers .afbc64x4 = true →
      ipSupportFeature caps producers (consumers.remove Ip.dpu) .afbc64x4 = true :=
    ipSupportFeature_remove
  rcases ht : ipSupportFeature caps producers consumers .afbcTiledHeaders with - | -
  · simp
  rcases he : ipSupportFeature caps producers consumers .afbc64x4 with - | -
  · simp
  -- without the display there are superblocks for them, so it is a front buffer
  have hfront := hfit.2
  rw [htiled ht, hextra he, Bool.and_true, Bool.and_true, Bool.not_eq_false'] at hfront
  rw [hfront]
  rfl

/-- Planes that fit without the display fit with it exactly as the candidate agrees. -/
theorem afbc_agrees_of_planesFit (hf : f ∈ formats) (hgpu : consumers.contains Ip.gpu = true)
    (hhas : (isFormatSupported caps f ip usage producers (consumers.remove Ip.dpu)).has .fAfbc =
      true)
    (htrans : transcoded producers consumers = false)
    (hfit : planesFit caps f usage producers consumers = true) :
    ((readsAfbc caps f producers consumers &&
          (f.inOnePiece || separatesPlanes caps f usage producers consumers)) = true ∧
        getAfbcFormat caps f usage producers consumers =
          getAfbcFormat caps f usage producers (consumers.remove Ip.dpu)) ↔
      AfbcAgrees caps f usage producers consumers := by
  have hdouble := (support_of_has_fAfbc hhas).2.2.2
  have havoids' : avoidsAfbc caps f producers (consumers.remove Ip.dpu) = false := by
    rw [avoidsAfbc_of_has hhas, transcoded_remove_dpu, htrans]
  have havoids (hreads : readsAfbc caps f producers consumers = true) :
      avoidsAfbc caps f producers consumers = false := by
    rw [avoidsAfbc_of_has_remove hgpu hhas, htrans, hreads]
    rfl
  constructor
  · rintro ⟨htakes, heq⟩
    rw [Bool.and_eq_true] at htakes
    rcases (getAfbcFormat_remove_dpu_iff hf (havoids htakes.1) havoids' hdouble hfit).mp heq
      with ⟨htiled, hbodies, hplanes, hblocks⟩
    exact ⟨htakes.1, htiled, hbodies, hplanes, hblocks⟩
  · rintro ⟨hreads, htiled, hbodies, hplanes, hblocks⟩
    have heq := (getAfbcFormat_remove_dpu_iff hf (havoids hreads) havoids' hdouble hfit).mpr
      ⟨htiled, hbodies, hplanes, hblocks⟩
    refine ⟨?_, heq⟩
    -- the planes fit, since they fit the same format
    rw [hreads, Bool.true_and, ← any_isMultiPlane_getAfbcFormat hf (havoids hreads), heq,
      any_isMultiPlane_getAfbcFormat hf havoids', planesFit_eq hf hdouble, hfit]

/-- **AFBC agrees.** -/
theorem afbc_agrees_iff (hf : f ∈ formats) (hgpu : consumers.contains Ip.gpu = true)
    (hflags : flags.has .fAfbc = true → (isFormatSupported caps f ip usage producers
      (consumers.remove Ip.dpu)).has .fAfbc = true) :
    (takesAfbc caps f usage producers consumers flags =
        takesAfbc caps f usage producers (consumers.remove Ip.dpu) flags ∧
      (takesAfbc caps f usage producers (consumers.remove Ip.dpu) flags = true →
        getAfbcFormat caps f usage producers consumers =
          getAfbcFormat caps f usage producers (consumers.remove Ip.dpu))) ↔
    (triesAfbc usage producers consumers flags = true →
      (planesFit caps f usage producers consumers = true →
        AfbcAgrees caps f usage producers consumers) ∧
      (planesFit caps f usage producers consumers = false →
        ¬(usage.isFrontbuffer = true ∧ readsAfbc caps f producers consumers = true ∧
          ipSupportFeature caps producers consumers .afbcTiledHeaders = true ∧
          ipSupportFeature caps producers consumers .afbc64x4 = true ∧
          ipSupportFeature caps producers consumers .afbcDoubleBody = false))) := by
  rw [takesAfbc_remove_dpu hf hflags, takesAfbc_eq_and hf hgpu hflags]
  rcases htries : triesAfbc usage producers consumers flags with - | -
  · simp
  have hboth := htries
  rw [triesAfbc, Bool.and_eq_true, Bool.and_eq_true, Bool.not_eq_true' (transcoded _ _)] at hboth
  rcases hfit : planesFit caps f usage producers consumers with - | -
  · rw [fits_of_not_planesFit hf hfit]
    simp only [Bool.true_and, Bool.and_false, Bool.false_eq_true, false_implies, and_true,
      forall_const, true_and]
    rw [← Bool.not_eq_true]
    refine not_congr ?_
    simp only [Bool.and_eq_true, Bool.not_eq_true', and_assoc]
    exact and_left_comm
  · simp only [Bool.true_and, Bool.and_true, forall_const, Bool.true_eq_false, false_implies,
      and_true]
    exact afbc_agrees_of_planesFit hf hgpu (hflags hboth.1.1) hboth.2 hfit

/-- **Blocks in a line agree.** -/
theorem bl_agrees_iff (hf : f ∈ formats)
    (hflags : flags.has .fBlYuv = true → (isFormatSupported caps f ip usage producers
      (consumers.remove Ip.dpu)).has .fBlYuv = true) :
    (takesBl caps f producers consumers flags =
        takesBl caps f producers (consumers.remove Ip.dpu) flags ∧
      (takesBl caps f producers (consumers.remove Ip.dpu) flags = true →
        getBlFormat caps (InternalFormat.fromAndroid f.id (calcFormatDataType f)) producers
            consumers =
          getBlFormat caps (InternalFormat.fromAndroid f.id (calcFormatDataType f)) producers
            (consumers.remove Ip.dpu))) ↔
    (flags.has .fBlYuv = true →
      ipSupportFeature caps producers consumers .yuvBl8 = true ∨
        ipSupportFeature caps producers consumers .yuvBl10 = true) := by
  rw [takesBl_eq hf, takesBl_eq hf]
  rcases hhas : flags.has .fBlYuv with - | -
  · simp
  · have hsome := support_of_has_fBlYuv hf (hflags hhas)
    rw [← Bool.or_eq_true] at hsome
    rw [getBlFormat, getBlFormat, hsome, ← Bool.or_eq_true]
    simp only [Bool.true_and, forall_const, if_true]
    constructor
    · rintro ⟨h, -⟩
      exact h
    · rintro h
      exact ⟨h, if_pos h⟩

end

/-! ### The fallback -/

section

variable {caps : Capabilities} {f : FormatInfo} {ip : FormatIpSupport} {usage : Usage}
  {producers consumers : Ip} {descriptorFlags : DescriptorFlags}

/-- Layouts that can be composed are those without the display, with it or without. -/
theorem composedFlags_remove_dpu (hgpu : consumers.contains Ip.gpu = true)
    (hdpu : consumers.contains Ip.dpu = true)
    (hnone : isFormatSupported caps f ip usage producers consumers = .fNone) :
    composedFlags caps f ip usage producers consumers =
        isFormatSupported caps f ip usage producers (consumers.remove Ip.dpu) ∧
      composedFlags caps f ip usage producers (consumers.remove Ip.dpu) =
        isFormatSupported caps f ip usage producers (consumers.remove Ip.dpu) := by
  constructor
  · rw [composedFlags]
    exact if_pos (by rw [hnone, hgpu, hdpu]; decide)
  · rw [composedFlags]
    exact if_neg (by rw [contains_remove_self, Bool.and_false]; decide)

/-- **The fallback is given what it would be given without the display** exactly where the display
makes no difference to the candidates. -/
theorem getSupportedFormat_remove_dpu_iff (hf : f ∈ formats)
    (hip : getFormatIpSupport f.id = some ip) (hgpu : consumers.contains Ip.gpu = true)
    (hdpu : consumers.contains Ip.dpu = true)
    (hnone : isFormatSupported caps f ip usage producers consumers = .fNone) :
    getSupportedFormat caps f usage producers consumers descriptorFlags =
        getSupportedFormat caps f usage producers (consumers.remove Ip.dpu) descriptorFlags ↔
      FallbackAgrees caps f usage producers consumers
        (allowedFlags usage descriptorFlags
          (isFormatSupported caps f ip usage producers (consumers.remove Ip.dpu))) := by
  rcases composedFlags_remove_dpu hgpu hdpu hnone with ⟨hwith, hwithout⟩
  rw [getSupportedFormat_eq, getSupportedFormat_eq, hip, Option.bind_some, Option.bind_some, hwith,
    hwithout]
  have hflags (g : SupportFlags) : (allowedFlags usage descriptorFlags (isFormatSupported caps f ip
      usage producers (consumers.remove Ip.dpu))).has g = true →
      (isFormatSupported caps f ip usage producers (consumers.remove Ip.dpu)).has g = true :=
    has_of_has_allowedFlags
  generalize allowedFlags usage descriptorFlags
    (isFormatSupported caps f ip usage producers (consumers.remove Ip.dpu)) = flags at hflags ⊢
  rcases afrc_agrees_iff hf (hflags .fAfrc) with ⟨htries, hafrc⟩
  rw [firstLayout_eq_iff hf, hafrc, htries, afbcLayout_eq_iff hf,
    afbc_agrees_iff hf hgpu (hflags .fAfbc), takesAfbc_remove_dpu hf (hflags .fAfbc),
    blLayout_eq_iff hf, bl_agrees_iff hf (hflags .fBlYuv)]
  constructor
  · rintro ⟨hafrc, hrest⟩
    exact ⟨hafrc, fun hno htries hfit => ((hrest hno).1 htries).1 hfit,
      fun hno htries hfit => ((hrest hno).1 htries).2 hfit, fun hno => (hrest hno).2⟩
  · rintro ⟨hafrc, hafbc, hbodies, hbl⟩
    exact ⟨hafrc, fun hno =>
      ⟨fun htries => ⟨hafbc hno htries, hbodies hno htries⟩, hbl hno⟩⟩

/-- Half floats, which the display has no feature for and the GPU composes. -/
theorem getSupportedFormat_remove_dpu_iff_rgba16161616 :
    let caps := { Capabilities.gpuOnly with
      gpu := [(.formatR16G16B16A16Float, .rw)], dpu := some [] }
    let usage := 0xb00#64
    let producers := getProducers usage
    let consumers := getConsumers usage
    ∃ f ip, getFormatInfo .rgba16161616 = some f ∧ getFormatIpSupport f.id = some ip ∧
      (getSupportedFormat caps f usage producers consumers 0#32 =
          getSupportedFormat caps f usage producers (consumers.remove Ip.dpu) 0#32 ↔
        FallbackAgrees caps f usage producers consumers (allowedFlags usage 0#32
          (isFormatSupported caps f ip usage producers (consumers.remove Ip.dpu)))) :=
  ⟨_, _, rfl, rfl, getSupportedFormat_remove_dpu_iff (by decide) rfl (by decide) (by decide)
    (by decide)⟩

/-- The GPU compresses half floats. The display does not read them at all, but for want of its AFBC
they are linear. -/
theorem not_getSupportedFormat_remove_dpu :
    let caps := { Capabilities.gpuOnly with
      gpu := [(.formatR16G16B16A16Float, .rw), (.afbc16x16, .rw),
        (.afbcFormatR16G16B16A16Float, .rw)]
      dpu := some [] }
    let usage := 0xb00#64
    let producers := getProducers usage
    let consumers := getConsumers usage
    ∃ f ip, getFormatInfo .rgba16161616 = some f ∧ getFormatIpSupport f.id = some ip ∧
      isFormatSupported caps f ip usage producers consumers = .fNone ∧
      (getSupportedFormat caps f usage producers consumers 0#32).map InternalFormat.isAfbc =
        some false ∧
      (getSupportedFormat caps f usage producers (consumers.remove Ip.dpu) 0#32).map
        InternalFormat.isAfbc = some true := by
  intro caps usage producers consumers
  exact ⟨_, _, rfl, rfl, by decide +kernel, by decide +kernel, by decide +kernel⟩

end

end Gralloc
