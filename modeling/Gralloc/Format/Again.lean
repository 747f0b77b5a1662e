import Gralloc.Format.Private

/-!
# Asking again for what was selected

The selection has many inputs: the usage, the flags of the request and the features of every block
of the platform. A client that knows which format came out may want the same one again, under
another usage or from an allocator with other features, and for this there are private codes.

Whatever the selection returns for an ordinary request fits such a code
(`Gralloc.inUpperHalf_of_getSupportedFormat`), and the check on forced formats accepts it
(`Gralloc.checkModifiers_of_getSupportedFormat`): the two were written apart, one asks for the
features of the platform and the other does not, but they agree on what the entry of a format can
have. In particular a format in three planes is never compressed by AFBC, which the check excludes
by name, because every block that produces it writes it in another layout
(`Gralloc.npln_le_of_has_fAfbc`).

There is one exception, and one more thing that a code does not carry
(`Gralloc.selectFormat_again_iff`).
-/

namespace Gralloc

open CInt

/-! ### Modifiers that can be packed -/

section

variable {caps : Capabilities} {f : FormatInfo} {usage : Usage} {producers consumers : Ip}
  {a : InternalFormat}

/-- The modifiers are where a private code has them. -/
def InternalFormat.InUpperHalf (a : InternalFormat) : Prop :=
  FitsIn a.modifiers Modifiers.extMask

namespace InternalFormat.InUpperHalf

theorem of_hasModifiers (h : a.hasModifiers = false) : a.InUpperHalf := by
  have hzero : a.modifiers = 0#32 := bne_eq_false_iff_eq.mp h
  rw [InternalFormat.InUpperHalf, hzero]
  exact fitsIn_zero _

theorem setModifier (h : a.InUpperHalf) {flag : Modifiers} (v : Bool)
    (hflag : FitsIn flag Modifiers.extMask := by decide) : (a.setModifier flag v).InUpperHalf := by
  cases v with
  | true => exact h.or hflag
  | false =>
    have hand : a.modifiers &&& ~~~flag = ~~~flag &&& a.modifiers := BitVec.and_comm _ _
    rw [InternalFormat.InUpperHalf, InternalFormat.setModifier, if_neg Bool.false_ne_true, FitsIn,
      hand, BitVec.and_assoc, h]

theorem setAfrcCodingSize (h : a.InUpperHalf) {shift : ℕ} (hs : shift = 20 ∨ shift = 22)
    (size : AfrcCodingUnitSize) : (a.setAfrcCodingSize shift size).InUpperHalf := by
  have hcode : FitsIn (size.code <<< shift) Modifiers.extMask := by
    rcases hs with rfl | rfl <;> rcases size <;> decide
  refine FitsIn.or ?_ hcode
  rw [FitsIn, BitVec.and_assoc, BitVec.and_comm (~~~_), ← BitVec.and_assoc, h]

theorem ite {b : InternalFormat} (ha : a.InUpperHalf) (hb : b.InUpperHalf) (c : Prop)
    [Decidable c] : InternalFormat.InUpperHalf (if c then a else b) := by
  split
  · exact ha
  · exact hb

/-- Formats that differ in the features of AFBC only. -/
theorem of_sameBut {b : InternalFormat} (hb : b.InUpperHalf) (h : b.SameBut a) :
    a.InUpperHalf := by
  have hmask : ~~~Modifiers.afbcFeatures &&& ~~~Modifiers.extMask = ~~~Modifiers.extMask := by
    decide
  rw [InternalFormat.InUpperHalf, fitsIn_iff_and_not] at hb ⊢
  rw [← hmask, ← BitVec.and_assoc, h.2.2, BitVec.and_assoc, hmask, hb]

end InternalFormat.InUpperHalf

theorem inUpperHalf_fromAndroid (hf : f ∈ formats) (t : FormatDataType) :
    (InternalFormat.fromAndroid f.id t).InUpperHalf :=
  .of_hasModifiers (hasModifiers_of_mem_formats hf t)

theorem inUpperHalf_sizedAfrc (hf : f ∈ formats) (rot : Bool) :
    (sizedAfrc f usage rot).InUpperHalf := by
  unfold sizedAfrc
  extract_lets base format layout
  have hbasic : format.InUpperHalf := (inUpperHalf_fromAndroid hf _).setModifier true
  have hlayout : layout.InUpperHalf := (hbasic.setModifier true).ite hbasic _
  split
  · rename_i luma hluma
    have hsized : (layout.setAfrcLumaCodingSize luma).InUpperHalf :=
      hlayout.setAfrcCodingSize (.inl rfl) luma
    extract_lets sized
    split
    · split
      · exact hsized.setAfrcCodingSize (.inr rfl) _
      · exact hsized
    · exact hsized
  · exact hlayout

theorem inUpperHalf_getAfrcFormat (hf : f ∈ formats) :
    (getAfrcFormat caps f usage producers consumers).InUpperHalf := by
  rw [getAfrcFormat_eq]
  exact (inUpperHalf_sizedAfrc hf _).ite (inUpperHalf_fromAndroid hf _) _

theorem inUpperHalf_getAfbcFormat (hf : f ∈ formats) :
    (getAfbcFormat caps f usage producers consumers).InUpperHalf := by
  have hbase := inUpperHalf_fromAndroid hf (calcFormatDataType f)
  rcases havoids : avoidsAfbc caps f producers consumers with - | -
  · have hafbc : (afbcBase f).InUpperHalf := (hbase.setModifier true).setModifier f.yuvTransform
    exact hafbc.of_sameBut (afbcFeatures_getAfbcFormat hf havoids).1
  · rw [getAfbcFormat_of_avoidsAfbc havoids]
    exact hbase

/-- **Every candidate fits a private code.** -/
theorem inUpperHalf_of_getSupportedFormat (hf : f ∈ formats) {descriptorFlags : DescriptorFlags}
    (h : getSupportedFormat caps f usage producers consumers descriptorFlags = some a) :
    a.InUpperHalf := by
  have hbase := inUpperHalf_fromAndroid hf (calcFormatDataType f)
  refine getSupportedFormat_ind h (fun _ => ?_) (fun _ => ?_) ?_ hbase
  · exact inUpperHalf_getAfrcFormat hf
  · exact inUpperHalf_getAfbcFormat hf
  · exact (hbase.setModifier true).ite hbase _

end

/-! ### Three planes -/

/-- A support that is left has been there, and is that of every block that takes part. -/
theorem has_of_has_restrictTo {ips ip : Ip} {support flags g : SupportFlags}
    (h : (SupportFlags.restrictTo ips ip support flags).has g = true) :
    flags.has g = true ∧ (ips.contains ip = true → support.has g = true) := by
  rw [SupportFlags.restrictTo] at h
  split_ifs at h with hip
  · rw [SupportFlags.has, bne_iff_ne, BitVec.and_assoc] at h
    refine ⟨?_, fun _ => ?_⟩
    · rw [SupportFlags.has, bne_iff_ne]
      intro hzero
      rw [BitVec.and_comm support, ← BitVec.and_assoc, hzero, BitVec.zero_and] at h
      exact h rfl
    · rw [SupportFlags.has, bne_iff_ne]
      intro hzero
      rw [hzero, BitVec.and_zero] at h
      exact h rfl
  · exact ⟨h, fun hcontains => absurd hcontains hip⟩

/-- The blocks that may produce a buffer, with their columns of the support table. -/
def producerColumns (ip : FormatIpSupport) : List (Ip × SupportFlags) :=
  [(Ip.cpu, ip.cpuWr), (Ip.gpu, ip.gpuWr), (Ip.dpu, ip.dpuWr), (Ip.dpuAeu, ip.dpuAeuWr),
    (Ip.cam, ip.camWr), (Ip.vpu, ip.vpuWr)]

/-- **What all support, each producer supports.** -/
theorem has_producerColumns {producers consumers : Ip} {ip : FormatIpSupport} {g : SupportFlags}
    (h : (ipSupportsBaseFormat producers consumers ip).has g = true) :
    ∀ e ∈ producerColumns ip, producers.contains e.1 = true → e.2.has g = true := by
  rw [ipSupportsBaseFormat_eq] at h
  obtain ⟨h, -⟩ := has_of_has_restrictTo h
  obtain ⟨h, -⟩ := has_of_has_restrictTo h
  obtain ⟨h, -⟩ := has_of_has_restrictTo h
  obtain ⟨h, -⟩ := has_of_has_restrictTo h
  obtain ⟨h, hvpu⟩ := has_of_has_restrictTo h
  obtain ⟨h, hcam⟩ := has_of_has_restrictTo h
  obtain ⟨h, hdpuAeu⟩ := has_of_has_restrictTo h
  obtain ⟨h, hdpu⟩ := has_of_has_restrictTo h
  obtain ⟨h, hgpu⟩ := has_of_has_restrictTo h
  obtain ⟨-, hcpu⟩ := has_of_has_restrictTo h
  simp only [producerColumns, List.forall_mem_cons, List.not_mem_nil, false_implies, implies_true,
    and_true]
  exact ⟨hcpu, hgpu, hdpu, hdpuAeu, hcam, hvpu⟩

/-- Someone produces a buffer. -/
theorem exists_producer (usage : Usage) :
    ∃ ip ∈ [Ip.cpu, Ip.gpu, Ip.dpu, Ip.dpuAeu, Ip.cam, Ip.vpu],
      (getProducersOrCpu usage).contains ip = true := by
  rw [← List.any_eq_true, getProducersOrCpu, getProducers]
  generalize (ipUsage usage == Usage.hwComposer) = composer
  generalize (ipUsage usage).has Usage.swWriteMask = cpu
  generalize (!(ipUsage usage).hasAll Usage.decoder &&
    (ipUsage usage).hasAll (Usage.hwComposer ||| Usage.hwVideoEncoder)) = dpu
  generalize (ipUsage usage).has (Usage.hwRender ||| Usage.gpuDataBuffer) = gpu
  generalize (ipUsage usage).has Usage.hwCameraWrite = cam
  generalize (ipUsage usage).hasAll Usage.decoder = vpu
  revert composer cpu dpu gpu cam vpu
  decide

/-- **Formats in three planes that AFBC compresses** are not written in AFBC by any block. -/
theorem columns_of_three_planes :
    formats.all (fun f => decide (f.npln ≤ 2) || !f.afbc ||
      (getFormatIpSupport f.id).all fun ip =>
        (producerColumns ip).all fun e => !e.2.has .fAfbc) = true := by
  decide

section

variable {caps : Capabilities} {f : FormatInfo} {ip : FormatIpSupport} {usage : Usage}
  {consumers : Ip} {descriptorFlags : DescriptorFlags} {a : InternalFormat}

/-- The check on AFBC comes after the table. -/
theorem has_of_has_isFormatSupported {producers : Ip}
    (h : (isFormatSupported caps f ip usage producers consumers).has .fAfbc = true) :
    (ipSupportsBaseFormat producers consumers ip).has .fAfbc = true := by
  have h₁ := has_of_has_restrictAfrc
    (has_of_has_restrictBlYuv (has_of_has_restrictBase (by decide) h))
  have h₂ : (usageSupportsBaseFormat usage
      (ipSupportsBaseFormat producers consumers ip)).has .fAfbc = true :=
    SupportFlags.has_of_has_ite h₁
  rw [usageSupportsBaseFormat] at h₂
  split_ifs at h₂
  · -- a data buffer is linear
    rw [SupportFlags.has, BitVec.and_assoc] at h₂
    exact absurd h₂ (by simp [SupportFlags.fLin, SupportFlags.fAfbc])
  · exact h₂

/-- **AFBC is supported of two planes at most.** -/
theorem npln_le_of_has_fAfbc (hf : f ∈ formats) (hip : getFormatIpSupport f.id = some ip)
    (h : (isFormatSupported caps f ip usage (getProducersOrCpu usage) consumers).has .fAfbc =
      true) : f.npln ≤ 2 := by
  by_contra hmany
  obtain ⟨jp, hjp, hcontains⟩ := exists_producer usage
  have hcolumns := has_producerColumns (has_of_has_isFormatSupported h)
  have htable := List.all_eq_true.mp columns_of_three_planes f hf
  rw [decide_eq_false hmany, (support_of_has_fAfbc h).1, hip, Option.all_some] at htable
  have hnone := List.all_eq_true.mp htable
  obtain ⟨e, he, rfl⟩ : ∃ e ∈ producerColumns ip, e.1 = jp := by
    have hmap : (producerColumns ip).map Prod.fst =
        [Ip.cpu, Ip.gpu, Ip.dpu, Ip.dpuAeu, Ip.cam, Ip.vpu] := rfl
    rw [← hmap] at hjp
    exact List.mem_map.mp hjp
  have hhas := hcolumns e he hcontains
  have hnot := hnone e he
  rw [hhas] at hnot
  exact absurd hnot (by decide)

end

/-! ### The check on forced formats -/

/-- The one layout that is selected and cannot be forced. -/
def InternalFormat.TiledDepthStencil (a : InternalFormat) : Prop :=
  a.isAfbc = true ∧ a.getAfbcTiledHeaders = true ∧ a.getBase = .depth24Stencil8Afbc

instance (a : InternalFormat) : Decidable a.TiledDepthStencil :=
  inferInstanceAs (Decidable (_ ∧ _))

/-- Several planes that are not YUV. -/
theorem depthStencil_of_mem_formats : ∀ f ∈ formats,
    (f.afbc = true → f.npln = 2 → f.isYuv = false → f.id = .depth24Stencil8Afbc) ∧
      (f.id = .depth24Stencil8Afbc →
        f.npln = 2 ∧ f.isYuv = false ∧ f.afrc = false ∧ f.blockLinear = false) := by
  decide

section

variable {caps : Capabilities} {f : FormatInfo} {ip : FormatIpSupport} {usage : Usage}
  {producers consumers : Ip} {descriptorFlags : DescriptorFlags} {a : InternalFormat}

/-- The check, as one condition. -/
theorem checkModifiersAgainstFormat_eq :
    checkModifiersAgainstFormat f a =
      ((a.isAfrc && f.afrc) || !a.hasModifiers || (a.isBlockLinear && f.blockLinear) ||
        (a.isAfbc && f.afbc && ((f.npln == 1 && !isFormatMultiplaneAfbc a f) ||
          (f.npln == 2 && isFormatMultiplaneAfbc a f)))) := by
  rw [checkModifiersAgainstFormat]
  dsimp only
  generalize (f.npln == 1 && !isFormatMultiplaneAfbc a f ||
    f.npln == 2 && isFormatMultiplaneAfbc a f) = planes
  generalize (a.isAfrc && f.afrc) = afrc
  generalize (a.isBlockLinear && f.blockLinear) = bl
  revert planes afrc bl
  cases a.hasModifiers <;> cases a.isAfbc <;> cases f.afbc <;> decide

theorem not_tiledDepthStencil_of_isAfbc (h : a.isAfbc = false) : ¬a.TiledDepthStencil := by
  rintro ⟨hafbc, -⟩
  exact Bool.false_ne_true (h.symm.trans hafbc)

/-- A layout that is tried is supported, with the display or without it. -/
theorem exists_isFormatSupported {g : SupportFlags}
    (h : (allowedFlags usage descriptorFlags
      (composedFlags caps f ip usage producers consumers)).has g = true) :
    ∃ consumers', (isFormatSupported caps f ip usage producers consumers').has g = true := by
  have hcomposed := has_of_has_allowedFlags h
  rw [composedFlags] at hcomposed
  split_ifs at hcomposed
  · exact ⟨_, hcomposed⟩
  · exact ⟨_, hcomposed⟩

theorem afrc_of_has_fAfrc
    (h : (isFormatSupported caps f ip usage producers consumers).has .fAfrc = true) :
    f.afrc = true := by
  have h₁ := has_of_has_restrictBlYuv (has_of_has_restrictBase (by decide) h)
  rw [restrictAfrc] at h₁
  have hcond := SupportFlags.not_of_has_ite_without h₁
  simp only [Bool.or_eq_true, Bool.not_eq_true', not_or, Bool.not_eq_false] at hcond
  exact hcond.1

theorem blockLinear_of_has_fBlYuv
    (h : (isFormatSupported caps f ip usage producers consumers).has .fBlYuv = true) :
    f.blockLinear = true := by
  have h₁ := has_of_has_restrictBase (by decide) h
  rw [restrictBlYuv] at h₁
  have hcond := SupportFlags.not_of_has_ite_without h₁
  simp only [Bool.or_eq_true, Bool.not_eq_true', not_or, Bool.not_eq_false,
    Bool.and_eq_true] at hcond
  exact hcond.1.1.1

theorem hasModifiers_of_isAfbc (h : a.isAfbc = true) : a.hasModifiers = true := by
  by_contra hnone
  rw [Bool.not_eq_true] at hnone
  exact Bool.false_ne_true ((getModifier_of_hasModifiers hnone _).symm.trans h)

/-- The check refuses the one layout. -/
theorem not_tiledDepthStencil_of_check (hf : f ∈ formats) (hbase : a.getBase = f.id)
    (hcheck : checkModifiersAgainstFormat f a = true) : ¬a.TiledDepthStencil := by
  rintro ⟨hafbc, htiled, hid⟩
  obtain ⟨htwo, hyuv, hafrc, hbl⟩ := (depthStencil_of_mem_formats f hf).2 (hbase ▸ hid)
  rw [checkModifiersAgainstFormat_eq, hafrc, hbl, hasModifiers_of_isAfbc hafbc,
    isFormatMultiplaneAfbc, hyuv, htwo, htiled] at hcheck
  simp at hcheck

/-- **An AFBC candidate passes the check** with the superblocks its planes need, and fails it where
planes that are not YUV have tiled headers. -/
theorem checkModifiers_of_isAfbc (hf : f ∈ formats) (hbase : a.getBase = f.id)
    (hafbc : a.isAfbc = true) (hfafbc : f.afbc = true) (hnpln : f.npln ≤ 2)
    (hfit : (f.inOnePiece || a.getAfbc64x4) = true)
    (hextra : a.getAfbc64x4 = true →
      a.getAfbcTiledHeaders = true ∧ 1 < f.npln ∧ f.isYuv = true) :
    checkModifiersAgainstFormat f a = true ↔ ¬a.TiledDepthStencil := by
  have hpos := (wellFormed_of_mem_formats f hf).npln_pos
  obtain ⟨hdepth, hentry⟩ := depthStencil_of_mem_formats f hf
  rcases hnpln.lt_or_eq with hone | htwo
  · have hone : f.npln = 1 := by omega
    have h64 : a.getAfbc64x4 = false := by
      rw [← Bool.not_eq_true]
      intro h64
      exact absurd (hextra h64).2.1 (by omega)
    refine iff_of_true ?_ ?_
    · rw [checkModifiersAgainstFormat_eq, hafbc, hfafbc, isFormatMultiplaneAfbc, h64, hone]
      simp
    · rintro ⟨-, -, hid⟩
      exact absurd (hentry (hbase ▸ hid)).1 (by omega)
  · rcases hyuv : f.isYuv with - | -
    · have hid := hdepth hfafbc htwo hyuv
      have h64 : a.getAfbc64x4 = false := by
        rw [← Bool.not_eq_true]
        intro h64
        exact Bool.false_ne_true (hyuv.symm.trans (hextra h64).2.2)
      refine ⟨not_tiledDepthStencil_of_check hf hbase, fun hnot => ?_⟩
      have htiled : a.getAfbcTiledHeaders = false := by
        rw [← Bool.not_eq_true]
        intro htiled
        exact hnot ⟨hafbc, htiled, hbase.trans hid⟩
      rw [checkModifiersAgainstFormat_eq, hafbc, hfafbc, isFormatMultiplaneAfbc, hafbc, h64,
        htiled, htwo]
      simp
    · have h64 : a.getAfbc64x4 = true := by
        rw [FormatInfo.inOnePiece, htwo, hyuv] at hfit
        exact hfit
      refine iff_of_true ?_ ?_
      · rw [checkModifiersAgainstFormat_eq, hafbc, hfafbc, isFormatMultiplaneAfbc, hafbc, h64,
          (hextra h64).1, htwo, hyuv]
        simp
      · rintro ⟨-, -, hid⟩
        exact Bool.false_ne_true ((hentry (hbase ▸ hid)).2.1.symm.trans hyuv)

/-- **The check agrees with the selection** on every candidate but one. -/
theorem checkModifiers_of_getSupportedFormat (hf : f ∈ formats)
    (h : getSupportedFormat caps f usage (getProducersOrCpu usage) consumers descriptorFlags =
      some a) : checkModifiersAgainstFormat f a = true ↔ ¬a.TiledDepthStencil := by
  have hbase := getBase_of_getSupportedFormat hf h
  have hlinear : (InternalFormat.fromAndroid f.id (calcFormatDataType f)).hasModifiers = false :=
    hasModifiers_of_mem_formats hf _
  rw [getSupportedFormat_eq] at h
  obtain ⟨ip, hip, hfirst⟩ := Option.bind_eq_some_iff.mp h
  unfold firstLayout at hfirst
  extract_lets base afrc afbc bl at hfirst
  split_ifs at hfirst with hafrc hafbc hbl hlin <;> rw [← Option.some.inj hfirst] at hbase ⊢
  · rw [Bool.and_eq_true] at hafrc
    obtain ⟨consumers', hsupported⟩ := exists_isFormatSupported hafrc.1
    refine iff_of_true ?_
      (not_tiledDepthStencil_of_isAfbc (isAfbc_getAfrcFormat hf usage _ consumers))
    rw [checkModifiersAgainstFormat_eq, hafrc.2, afrc_of_has_fAfrc hsupported]
    simp
  · rw [Bool.and_eq_true, Bool.and_eq_true, Bool.and_eq_true] at hafbc
    obtain ⟨⟨⟨hhas, -⟩, hisAfbc⟩, hfit⟩ := hafbc
    obtain ⟨consumers', hsupported⟩ := exists_isFormatSupported hhas
    have havoids := avoidsAfbc_of_isAfbc hf hisAfbc
    rw [any_isMultiPlane_getAfbcFormat hf havoids, ← extraWide_getAfbcFormat hf havoids,
      ← getAfbc64x4_eq] at hfit
    refine checkModifiers_of_isAfbc hf hbase hisAfbc (support_of_has_fAfbc hsupported).1
      (npln_le_of_has_fAfbc hf hip hsupported) hfit ?_
    intro h64
    rw [getAfbc64x4_eq, extraWide_getAfbcFormat hf havoids] at h64
    simp only [separatesPlanes, Bool.and_eq_true, decide_eq_true_iff] at h64
    rw [getAfbcTiledHeaders_eq, tiledHeaders_getAfbcFormat hf havoids]
    exact ⟨h64.1.1, h64.1.2.1.1, h64.1.2.2⟩
  · rw [Bool.and_eq_true] at hbl
    obtain ⟨consumers', hsupported⟩ := exists_isFormatSupported hbl.1
    have hlayout : bl.layout = .fBlYuv := layout_getBlFormat hlinear hbl.2
    refine iff_of_true ?_ (not_tiledDepthStencil_of_isAfbc ?_)
    · rw [checkModifiersAgainstFormat_eq, hbl.2, blockLinear_of_has_fBlYuv hsupported]
      simp
    · rw [← Bool.not_eq_true]
      intro hafbc
      rw [InternalFormat.layout, if_pos hafbc] at hlayout
      exact absurd hlayout (by decide)
  · refine iff_of_true ?_ (not_tiledDepthStencil_of_isAfbc (getModifier_of_hasModifiers hlinear _))
    rw [checkModifiersAgainstFormat_eq, hlinear]
    simp

end

/-! ### Spelling out a format -/

/-- The codes of the format table stand for themselves. -/
theorem getInternalFormat_of_mem_formats : ∀ f ∈ formats, getInternalFormat f.id = f.id := by
  intro f hf
  have hall : formats.all (fun f => getInternalFormat f.id == f.id) = true := by decide
  exact beq_iff_eq.mp (List.all_eq_true.mp hall f hf)

section

variable {f : FormatInfo} {m : Modifiers} {a : InternalFormat}

/-- An entry and its modifiers are given back if they pass the check. -/
theorem selectForcedFormat_spelled (hf : f ∈ formats) (hm : FitsIn m Modifiers.extMask) :
    selectForcedFormat (formatWrapper f.id m) =
      if checkModifiersAgainstFormat f (spelledFormat f.id m) then spelledFormat f.id m
      else .invalid := by
  rw [selectForcedFormat_formatWrapper hm, getInternalFormat_of_mem_formats f hf,
    getFormatInfo_of_mem_formats f hf]

/-- What a private request is given is spelled out, and passes the check. -/
theorem exists_spelled_of_selectForcedFormat {w : BitVec 32}
    (h : (selectForcedFormat w).isUndefined = false) :
    ∃ f m, f ∈ formats ∧ FitsIn m Modifiers.extMask ∧
      selectForcedFormat w = spelledFormat f.id m ∧
      checkModifiersAgainstFormat f (spelledFormat f.id m) = true := by
  have hfits : FitsIn (InternalFormat.fromPrivate w).modifiers Modifiers.extMask :=
    fitsIn_and _ Modifiers.extMask
  obtain ⟨f, hinfo, heq⟩ := selectForcedFormat_of_isUndefined h
  have hf := mem_formats_of_getFormatInfo hinfo
  rw [fromPrivate_id_or hf hfits] at heq
  refine ⟨f, _, hf, hfits, heq, ?_⟩
  unfold selectForcedFormat at h
  dsimp only at h
  rw [hinfo] at h
  dsimp only at h
  rcases of_ite_invalid h with ⟨-, h⟩
  rw [← id_of_getFormatInfo hinfo, fromPrivate_id_or hf hfits] at h
  by_contra hcheck
  rw [if_neg hcheck] at h
  exact absurd h (by decide)

/-- **The type of the data** is that of the entry, but for `DEPTH_32F`. -/
theorem spelledFormat_eq_iff (hf : f ∈ formats) (hformat : a.format = f.id)
    (htype : a.dataType = calcFormatDataType f) :
    spelledFormat f.id a.modifiers = a ↔ f.id ≠ .depth32f := by
  have hid : f.id &&& Modifiers.fmtMask = f.id := and_fmtMask_of_mem_formats f hf
  have hdata : (InternalFormat.fromPrivate f.id).dataType = calcFormatDataType f ↔
      f.id ≠ .depth32f := by
    rw [← dataType_fromPrivate_iff hid BitVec.zero_and, BitVec.or_zero]
  rw [← hdata, ← htype, ← hformat]
  rcases a with ⟨t, b, m⟩
  simp only [spelledFormat, InternalFormat.mk.injEq, and_true]

variable {caps : Capabilities} {reqFormat : BitVec 32} {descriptorFlags : DescriptorFlags}
  {usage : Usage}

/-- What an ordinary request is given is an entry with modifiers that fit a code. -/
theorem exists_entry_of_selectBestFormat
    (h : (selectBestFormat caps reqFormat descriptorFlags usage).isUndefined = false) :
    ∃ f ∈ formats, (selectBestFormat caps reqFormat descriptorFlags usage).format = f.id ∧
      (selectBestFormat caps reqFormat descriptorFlags usage).dataType = calcFormatDataType f ∧
      (selectBestFormat caps reqFormat descriptorFlags usage).InUpperHalf ∧
      (checkModifiersAgainstFormat f (selectBestFormat caps reqFormat descriptorFlags usage) =
          true ↔
        ¬(selectBestFormat caps reqFormat descriptorFlags usage).TiledDepthStencil) := by
  rcases selectBestFormat_of_isUndefined h with ⟨req, s, hreq, hs, ⟨-, hfound⟩ | ⟨-, hforced, -⟩⟩
  · rw [hfound] at h ⊢
    have hmem : s.req ∈ formats := by
      rw [hs]
      exact mem_formats_of_getFormatInfo hreq
    obtain ⟨f, hf, hcandidate⟩ := FormatSearch.exists_candidate_found hmem h
    obtain ⟨-, hsupported, -⟩ := FormatSearch.candidate_eq_some_iff.mp hcandidate
    obtain ⟨hformat, htype⟩ := sameBase_of_getSupportedFormat hf hsupported
    have hid : f.id &&& Modifiers.fmtMask = f.id := and_fmtMask_of_mem_formats f hf
    refine ⟨f, hf, hformat.trans hid, htype, inUpperHalf_of_getSupportedFormat hf hsupported, ?_⟩
    rw [hs] at hsupported ⊢
    exact checkModifiers_of_getSupportedFormat hf hsupported
  · rw [hforced]
    obtain ⟨f, hinfo⟩ := Option.isSome_iff_exists.mp
      (show (getFormatInfo .bgra8888).isSome = true by decide)
    have hid := id_of_getFormatInfo hinfo
    have hnone : (InternalFormat.fromAndroid .bgra8888 .unorm).hasModifiers = false := by decide
    have htype : FormatDataType.unorm = calcFormatDataType f := by
      rw [calcFormatDataType, hid]
      decide
    refine ⟨f, mem_formats_of_getFormatInfo hinfo, ?_, htype, .of_hasModifiers hnone, ?_⟩
    · rw [hid]
      decide
    · refine iff_of_true ?_
        (not_tiledDepthStencil_of_isAfbc (getModifier_of_hasModifiers hnone _))
      rw [checkModifiersAgainstFormat_eq, hnone]
      simp

end

/-! ### Asking again -/

section

variable {caps caps' : Capabilities} {flags flags' : DescriptorFlags} {usage usage' : Usage}
  {x y : BitVec 64} {a : InternalFormat}

/-- **What was selected** is an entry with modifiers that fit a code. It passes the check but for
one layout, and keeps the type of its data unless an ordinary request was given `DEPTH_32F`. -/
theorem exists_entry_of_selectFormat (ha : selectFormat caps x flags usage = a)
    (h : a.isUndefined = false) :
    ∃ f ∈ formats, a.format = f.id ∧ a.InUpperHalf ∧
      (checkModifiersAgainstFormat f a = true ↔ ¬a.TiledDepthStencil) ∧
      (spelledFormat f.id a.modifiers = a ↔
        (formatIsPrivate (x.truncate 32) = false → f.id ≠ .depth32f)) := by
  rw [selectFormat] at ha
  split_ifs at ha with hinvalid hprivate
  · rw [← ha] at h
    exact absurd h (by decide)
  · rw [← ha] at h
    obtain ⟨f, m, hf, hm, heq, hcheck⟩ := exists_spelled_of_selectForcedFormat h
    rw [← ha, heq]
    refine ⟨f, hf, rfl, hm, ?_, ?_⟩
    · exact iff_of_true hcheck
        (not_tiledDepthStencil_of_check hf (and_fmtMask_of_mem_formats f hf) hcheck)
    · exact iff_of_true rfl fun hordinary => absurd (hprivate.symm.trans hordinary) (by decide)
  · rw [← ha] at h
    obtain ⟨f, hf, hformat, htype, hupper, hcheck⟩ := exists_entry_of_selectBestFormat h
    rw [ha] at hformat htype hupper hcheck
    rw [Bool.not_eq_true] at hprivate
    refine ⟨f, hf, hformat, hupper, hcheck, ?_⟩
    rw [hprivate, spelledFormat_eq_iff hf hformat htype]
    exact (imp_iff_right rfl).symm

/-- **What comes back** of a format that was selected, if it is spelled out and asked for again. -/
theorem selectFormat_again (ha : selectFormat caps x flags usage = a)
    (h : a.isUndefined = false) (hvalid : usage'.has (~~~Usage.validUsage) = false)
    (hy : y.truncate 32 = formatWrapper a.getBase a.modifiers) :
    selectFormat caps' y flags' usage' =
      if a.TiledDepthStencil then .invalid else spelledFormat a.getBase a.modifiers := by
  obtain ⟨f, hf, hformat, hupper, hcheck, -⟩ := exists_entry_of_selectFormat ha h
  have hbase : a.getBase = f.id := by
    rw [InternalFormat.getBase, hformat]
    exact and_fmtMask_of_mem_formats f hf
  rw [selectFormat, hy, if_neg (by rw [hvalid]; exact Bool.false_ne_true),
    if_pos (formatIsPrivate_formatWrapper.mpr hupper), hbase, selectForcedFormat_spelled hf hupper]
  -- the check looks at the modifiers alone
  have hsame : checkModifiersAgainstFormat f (spelledFormat f.id a.modifiers) =
      checkModifiersAgainstFormat f a := rfl
  rw [hsame]
  by_cases htiled : a.TiledDepthStencil
  · rw [if_pos htiled, if_neg (fun hpass => hcheck.mp hpass htiled)]
  · rw [if_neg htiled, if_pos (hcheck.mpr htiled)]

/-- **A format that was selected can be had again**, under any usage, any flags and any features,
exactly if it is not the one layout that cannot be forced, and not a `DEPTH_32F` that was given to
an ordinary request. -/
theorem selectFormat_again_iff (ha : selectFormat caps x flags usage = a)
    (h : a.isUndefined = false) (hvalid : usage'.has (~~~Usage.validUsage) = false)
    (hy : y.truncate 32 = formatWrapper a.getBase a.modifiers) :
    selectFormat caps' y flags' usage' = a ↔
      ¬a.TiledDepthStencil ∧
        (formatIsPrivate (x.truncate 32) = false → a.getBase ≠ .depth32f) := by
  obtain ⟨f, hf, hformat, -, -, htype⟩ := exists_entry_of_selectFormat ha h
  have hbase : a.getBase = f.id := by
    rw [InternalFormat.getBase, hformat]
    exact and_fmtMask_of_mem_formats f hf
  rw [selectFormat_again ha h hvalid hy, hbase, ← htype]
  by_cases htiled : a.TiledDepthStencil
  · rw [if_pos htiled]
    refine iff_of_false ?_ fun hboth => hboth.1 htiled
    rintro rfl
    exact absurd h (by decide)
  · rw [if_neg htiled]
    exact ⟨fun heq => ⟨htiled, heq⟩, fun hboth => hboth.2⟩

/-- A GPU that renders depth buffers in AFBC with tiled headers. -/
def depthGpu : Capabilities :=
  ⟨[(.afbc16x16, .rw), (.afbcTiledHeaders, .rw), (.formatDepthStencil, .rw)], none, none, none,
    none⟩

/-- An AFBC texture, asked for again for the CPU, of a platform without features. -/
theorem selectFormat_again_iff_rgba8888 :
    selectFormat .gpuOnly 0x6218001#64 0#32 Usage.swWriteMask =
        ⟨.unorm, .rgba8888, 0x6210000#32⟩ ↔
      ¬InternalFormat.TiledDepthStencil ⟨.unorm, .rgba8888, 0x6210000#32⟩ ∧
        (formatIsPrivate 1#32 = false → PixelFormat.rgba8888 ≠ .depth32f) := by
  have hselected : selectFormat depthGpu 1#64 0#32 Usage.hwRender =
      ⟨.unorm, .rgba8888, 0x6210000#32⟩ := by decide +kernel
  exact selectFormat_again_iff hselected (by decide) (by decide) (by decide)

/-- **The two exceptions are met**: tiled headers of a depth and a stencil plane are selected and
refused, and a `DEPTH_32F` comes back with another type. -/
theorem not_selectFormat_again :
    (selectFormat depthGpu 0x112#64 0#32 Usage.hwRender =
        ⟨.unorm, .depth24Stencil8Afbc, 0x4210000#32⟩ ∧
      (selectFormat depthGpu
        ((formatWrapper PixelFormat.depth24Stencil8Afbc 0x4210000#32).setWidth 64) 0#32
        Usage.hwRender).isUndefined = true) ∧
    (selectFormat depthGpu 0x33#64 0#32 Usage.hwRender = ⟨.sfloat, .depth32f, 0x4210000#32⟩ ∧
      selectFormat depthGpu ((formatWrapper PixelFormat.depth32f 0x4210000#32).setWidth 64) 0#32
        Usage.hwRender = ⟨.unorm, .depth32f, 0x4210000#32⟩) := by
  decide +kernel

end

end Gralloc
