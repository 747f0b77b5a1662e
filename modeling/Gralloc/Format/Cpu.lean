import Gralloc.Format.Select

/-!
# Formats under CPU access

The CPU neither decompresses nor converts, so a buffer it accesses has to hold the pixels
it asked for, row by row. Nothing in the selection says so at one place. The support
table lists the CPU with linear layouts only (`Gralloc.cpu_of_mem_formatsIpSupport`); that
restriction survives every further one, and the retreat from the display to the GPU
(`Gralloc.getSupportedFormat_of_cpu`); of the graded candidates the CPU is given the
requested base or nothing (`Gralloc.getBestFormat_of_cpu`); and a usage that names the CPU
has it among its producers or consumers (`Gralloc.involves_cpu_of_hasCpu`).
`Gralloc.selectFormat_linear_of_hasCpu` puts the four together.
-/

namespace Gralloc

/-! ### Linear layouts -/

namespace SupportFlags

/-- At most the linear layout is supported. -/
def LinOnly (s : SupportFlags) : Prop := s &&& fLin = s

instance (s : SupportFlags) : Decidable s.LinOnly := inferInstanceAs (Decidable (_ = _))

theorem linOnly_fNone : LinOnly fNone := by decide

theorem linOnly_fLin : LinOnly fLin := by decide

theorem LinOnly.and_left {s : SupportFlags} (h : s.LinOnly) (t : SupportFlags) :
    LinOnly (s &&& t) := by
  rw [LinOnly, BitVec.and_assoc, BitVec.and_comm t, ← BitVec.and_assoc, h]

theorem LinOnly.and_right {t : SupportFlags} (h : t.LinOnly) (s : SupportFlags) :
    LinOnly (s &&& t) := by
  rw [BitVec.and_comm]
  exact h.and_left s

theorem LinOnly.without {s : SupportFlags} (h : s.LinOnly) (t : SupportFlags) :
    (s.without t).LinOnly :=
  h.and_left _

theorem LinOnly.ite {s t : SupportFlags} (h : s.LinOnly) (k : t.LinOnly) (c : Bool) :
    LinOnly (if c then s else t) := by
  cases c
  · exact k
  · exact h

/-- Nothing but the linear layout is found. -/
theorem LinOnly.has_eq_false {s t : SupportFlags} (h : s.LinOnly) (ht : fLin &&& t = 0#8) :
    s.has t = false := by
  have hs : s &&& t = 0#8 := by rw [← h, BitVec.and_assoc, ht, BitVec.and_zero]
  simp [has, hs]

/-- The support of a block restricts what is left, when the block takes part. -/
def restrictTo (ips ip : Ip) (support flags : SupportFlags) : SupportFlags :=
  if ips.contains ip then flags &&& support else flags

theorem LinOnly.restrictTo {flags : SupportFlags} (h : flags.LinOnly) (ips ip : Ip)
    (support : SupportFlags) : (restrictTo ips ip support flags).LinOnly :=
  (h.and_left support).ite h _

theorem linOnly_restrictTo {support : SupportFlags} (h : support.LinOnly) {ips ip : Ip}
    (hip : ips.contains ip = true) (flags : SupportFlags) :
    (SupportFlags.restrictTo ips ip support flags).LinOnly := by
  rw [SupportFlags.restrictTo, if_pos hip]
  exact h.and_right flags

end SupportFlags

open SupportFlags

/-- **The CPU's columns of the support table**: linear, or nothing. -/
theorem cpu_of_mem_formatsIpSupport :
    ∀ f ∈ formatsIpSupport, f.cpuWr.LinOnly ∧ f.cpuRd.LinOnly := by
  decide

theorem ipSupportsBaseFormat_eq (producers consumers : Ip) (f : FormatIpSupport) :
    ipSupportsBaseFormat producers consumers f =
      (BitVec.allOnes 8
        |> restrictTo producers Ip.cpu f.cpuWr
        |> restrictTo producers Ip.gpu f.gpuWr
        |> restrictTo producers Ip.dpu f.dpuWr
        |> restrictTo producers Ip.dpuAeu f.dpuAeuWr
        |> restrictTo producers Ip.cam f.camWr
        |> restrictTo producers Ip.vpu f.vpuWr
        |> restrictTo consumers Ip.cpu f.cpuRd
        |> restrictTo consumers Ip.gpu f.gpuRd
        |> restrictTo consumers Ip.dpu f.dpuRd
        |> restrictTo consumers Ip.vpu f.vpuRd) :=
  rfl

section Supported

variable {caps : Capabilities} {f : FormatInfo} {ip : FormatIpSupport} {usage : Usage}
  {producers consumers : Ip}

/-- A block that takes part as a producer or as a consumer. -/
def Involves (producers consumers ip : Ip) : Prop :=
  producers.contains ip = true ∨ consumers.contains ip = true

theorem linOnly_ipSupportsBaseFormat (hip : ip ∈ formatsIpSupport)
    (hcpu : Involves producers consumers Ip.cpu) :
    (ipSupportsBaseFormat producers consumers ip).LinOnly := by
  obtain ⟨hwr, hrd⟩ := cpu_of_mem_formatsIpSupport ip hip
  rw [ipSupportsBaseFormat_eq]
  rcases hcpu with hp | hc
  · have h := linOnly_restrictTo hwr hp (BitVec.allOnes 8)
    exact ((((((((h.restrictTo _ _ _).restrictTo _ _ _).restrictTo _ _ _).restrictTo _ _
      _).restrictTo _ _ _).restrictTo _ _ _).restrictTo _ _ _).restrictTo _ _ _).restrictTo _ _ _
  · exact ((linOnly_restrictTo hrd hc _).restrictTo _ _ _ |>.restrictTo _ _ _).restrictTo _ _ _

/-! ### The restrictions keep to linear layouts -/

section Restrictions

variable {flags : SupportFlags} (h : flags.LinOnly)
include h

theorem linOnly_usageSupportsBaseFormat : (usageSupportsBaseFormat usage flags).LinOnly :=
  (h.and_left _).ite h _

theorem linOnly_restrictAfbc : (restrictAfbc caps f usage producers consumers flags).LinOnly :=
  (h.without _).ite h _

theorem linOnly_restrictAfrc : (restrictAfrc caps f producers consumers flags).LinOnly :=
  (h.without _).ite h _

theorem linOnly_restrictBlYuv : (restrictBlYuv caps f producers consumers flags).LinOnly :=
  (h.without _).ite h _

/-- Only the half-float format is reset to the linear layout, the others to none. -/
theorem linOnly_restrictBase : (restrictBase caps f producers consumers flags).LinOnly := by
  simp only [restrictBase]
  repeat' split
  all_goals first | exact h | exact linOnly_fNone | exact linOnly_fLin

end Restrictions

theorem linOnly_isFormatSupported (caps : Capabilities) (f : FormatInfo) (usage : Usage)
    (hip : ip ∈ formatsIpSupport) (hcpu : Involves producers consumers Ip.cpu) :
    (isFormatSupported caps f ip usage producers consumers).LinOnly :=
  linOnly_restrictBase (linOnly_restrictBlYuv (linOnly_restrictAfrc (linOnly_restrictAfbc
    (linOnly_usageSupportsBaseFormat (linOnly_ipSupportsBaseFormat hip hcpu)))))

/-- The display leaves the consumers, the CPU does not. -/
theorem contains_cpu_remove_dpu {ips : Ip} (h : ips.contains Ip.cpu = true) :
    (ips.remove Ip.dpu).contains Ip.cpu = true := by
  have hm : ~~~Ip.dpu &&& Ip.cpu = Ip.cpu := by decide
  rw [Ip.contains, Ip.remove, BitVec.and_comm, BitVec.and_assoc, hm, BitVec.and_comm]
  exact h

/-- **The layout offered to the CPU is the linear one**, also after the display has given
its place to the GPU. -/
theorem getSupportedFormat_of_cpu (hcpu : Involves producers consumers Ip.cpu)
    {descriptorFlags : DescriptorFlags} {a : InternalFormat}
    (h : getSupportedFormat caps f usage producers consumers descriptorFlags = some a) :
    a = InternalFormat.fromAndroid f.id (calcFormatDataType f) := by
  have hdpu : Involves producers (consumers.remove Ip.dpu) Ip.cpu :=
    hcpu.imp_right contains_cpu_remove_dpu
  simp only [getSupportedFormat, Option.bind_eq_some_iff] at h
  obtain ⟨ip, hip, h⟩ := h
  have hmem : ip ∈ formatsIpSupport := List.mem_of_find?_eq_some hip
  have h₁ := linOnly_isFormatSupported caps f usage hmem hcpu
  have h₂ := linOnly_isFormatSupported caps f usage hmem hdpu
  generalize isFormatSupported caps f ip usage producers consumers = s₁ at h h₁
  generalize isFormatSupported caps f ip usage producers (consumers.remove Ip.dpu) = s₂ at h h₂
  have hdisp := h₂.ite h₁ (s₁ == .fNone && consumers.contains Ip.gpu && consumers.contains Ip.dpu)
  have hlin := (hdisp.without (.fAfbc ||| .fAfrc ||| .fBlYuv)).ite hdisp
    (descriptorFlags.has .hwcFbDisableAfbc && usage.has Usage.hwFb)
  rw [hlin.has_eq_false (t := .fAfrc) (by decide), hlin.has_eq_false (t := .fAfbc) (by decide),
    hlin.has_eq_false (t := .fBlYuv) (by decide)] at h
  simp only [Bool.false_and, Bool.false_eq_true, if_false, Option.ite_none_right_eq_some,
    Option.some.injEq] at h
  exact h.2.symm

/-! ### The requested base, or nothing -/

/-- The base of a format is the code it was made from, where that is no longer than a
base. -/
theorem getBase_fromAndroid {b : PixelFormat} {t : FormatDataType}
    (hb : b &&& Modifiers.fmtMask = b) : (InternalFormat.fromAndroid b t).getBase = b := by
  simp only [InternalFormat.fromAndroid, InternalFormat.ofValue, InternalFormat.getBase, hb]

theorem hasModifiers_fromAndroid {b : PixelFormat} {t : FormatDataType}
    (hb : b &&& Modifiers.fmtMask = b) :
    (InternalFormat.fromAndroid b t).hasModifiers = false := by
  have h : b &&& Modifiers.extMask = 0#32 := by
    have hm : Modifiers.fmtMask &&& Modifiers.extMask = 0#32 := by decide
    rw [← hb, BitVec.and_assoc, hm, BitVec.and_zero]
  simp [InternalFormat.fromAndroid, InternalFormat.ofValue, InternalFormat.hasModifiers, h]

/-- The codes of the format table fit a base. -/
theorem and_fmtMask_of_mem_formats : ∀ f ∈ formats, f.id &&& Modifiers.fmtMask = f.id := by
  decide

theorem hasModifiers_of_mem_formats {f : FormatInfo} (hf : f ∈ formats) (t : FormatDataType) :
    (InternalFormat.fromAndroid f.id t).hasModifiers = false :=
  hasModifiers_fromAndroid (and_fmtMask_of_mem_formats f hf)

/-- Linear, and of the given base. -/
def InternalFormat.IsLinear (a : InternalFormat) (base : PixelFormat) : Prop :=
  a.hasModifiers = false ∧ a.getBase = base

/-- Refused, or linear and of the given base. -/
def InternalFormat.IsLinearOrInvalid (a : InternalFormat) (base : PixelFormat) : Prop :=
  a = .invalid ∨ a.IsLinear base

/-- A check before the result can only refuse. -/
theorem InternalFormat.IsLinearOrInvalid.ite {a : InternalFormat} {base : PixelFormat}
    (h : a.IsLinearOrInvalid base) (c : Prop) [Decidable c] :
    InternalFormat.IsLinearOrInvalid (if c then .invalid else a) base := by
  split
  · exact .inl rfl
  · exact h

/-- The requested candidate, once seen, is linear and of the requested base. -/
def BestFormat.ReqLinear (req : FormatInfo) (b : BestFormat) : Prop :=
  b.reqFormatGrade ≠ 0 → b.reqFormat.IsLinear req.id

/-- The step lemma of the grading loop. -/
theorem BestFormat.ReqLinear.step (caps : Capabilities) (usage : Usage)
    (descriptorFlags : DescriptorFlags) (hcpu : Involves producers consumers Ip.cpu)
    {req : FormatInfo} {b : BestFormat} (hb : b.ReqLinear req) (hf : f ∈ formats) :
    (b.step caps usage producers consumers descriptorFlags req f).ReqLinear req := by
  rw [BestFormat.step]
  split
  · exact hb
  split
  · exact hb
  case _ a ha =>
    have hid := and_fmtMask_of_mem_formats f hf
    have hlin := getSupportedFormat_of_cpu hcpu ha
    have hbase : a.getBase = f.id := by rw [hlin, getBase_fromAndroid hid]
    have hmod : a.hasModifiers = false := by rw [hlin, hasModifiers_fromAndroid hid]
    dsimp only
    split
    · exact hb
    split
    -- the candidate is of the requested base, and takes its place
    · rename_i hreq
      exact fun _ => ⟨hmod, by simpa using hreq⟩
    · split
      · exact hb
      · exact hb

/-- **The CPU gets the requested base, linear, or nothing.** -/
theorem getBestFormat_of_cpu (caps : Capabilities) (usage : Usage)
    (hcpu : Involves producers consumers Ip.cpu) (req : FormatInfo)
    (descriptorFlags : DescriptorFlags) :
    (getBestFormat caps req usage producers consumers descriptorFlags).IsLinearOrInvalid
      req.id := by
  have hno : (!producers.contains Ip.cpu && !consumers.contains Ip.cpu) = false := by
    rcases hcpu with h | h <;> simp [h]
  have hinit : (BestFormat.mk 0 0 0 .invalid .invalid).ReqLinear req := fun h => absurd rfl h
  -- one candidate after the other
  have hb : (formats.foldl (BestFormat.step caps usage producers consumers descriptorFlags req)
      (.mk 0 0 0 .invalid .invalid)).ReqLinear req :=
    List.foldlRecOn formats _ hinit fun _ hb _ hf => hb.step caps usage descriptorFlags hcpu hf
  rw [getBestFormat]
  simp only [hno, Bool.and_false, Bool.false_eq_true, if_false]
  split
  · exact .inl rfl
  split
  · rename_i hgrade
    exact .inr (hb hgrade)
  · exact .inl rfl

end Supported

/-! ### The CPU takes part -/

theorem contains_addIf {ips : Ip} (c : Bool) (ip : Ip) {jp : Ip} (h : ips.contains jp = true) :
    (ips.addIf c ip).contains jp = true := by
  rw [Ip.addIf]
  split
  · simp only [Ip.contains, Ip.add, bne_iff_ne, ne_eq, BitVec.and_or_distrib_left,
      BitVec.or_eq_zero_iff] at h ⊢
    exact fun hc => h hc.1
  · exact h

theorem contains_addIf_self {ips ip : Ip} {c : Bool} (hc : c = true) (hip : ip ≠ 0#32) :
    (ips.addIf c ip).contains ip = true := by
  rw [Ip.addIf, if_pos hc]
  simp only [Ip.contains, Ip.add, bne_iff_ne, ne_eq, BitVec.and_or_distrib_left,
    BitVec.or_eq_zero_iff, BitVec.and_self]
  exact fun h => hip h.2

/-- Bits outside the vendor's and other than the protection are those of the word. -/
theorem has_ipUsage {usage m : Usage}
    (hm : ~~~Usage.privateMask &&& (~~~Usage.protectedContent &&& m) = m) :
    (ipUsage usage).has m = usage.has m := by
  rw [Usage.has, ipUsage, BitVec.and_assoc, BitVec.and_assoc, hm]
  rfl

theorem ipUsage_ne_hwComposer {usage m : Usage} (h : (ipUsage usage).has m = true)
    (hm : Usage.hwComposer.has m = false) : (ipUsage usage == Usage.hwComposer) = false := by
  rw [beq_eq_false_iff_ne]
  rintro heq
  rw [heq, hm] at h
  exact absurd h Bool.false_ne_true

/-- **Who reads or writes through the CPU involves it.** -/
theorem involves_cpu_of_hasCpu {usage : Usage} (h : usage.hasCpu = true) :
    Involves (getProducers usage) (getConsumers usage) Ip.cpu := by
  have hcpu : Ip.cpu ≠ 0#32 := by decide
  rw [Usage.hasCpu_eq, Bool.or_eq_true] at h
  rcases h with hrd | hwr
  · rw [← has_ipUsage (m := Usage.swReadMask) (by decide)] at hrd
    have hne := ipUsage_ne_hwComposer hrd (by decide)
    refine .inr ?_
    simp only [getConsumers, hne, Bool.false_eq_true, if_false]
    exact contains_addIf _ _ (contains_addIf _ _ (contains_addIf _ _ (contains_addIf _ _
      (contains_addIf _ _ (contains_addIf _ _ (contains_addIf_self hrd hcpu))))))
  · rw [← has_ipUsage (m := Usage.swWriteMask) (by decide)] at hwr
    have hne := ipUsage_ne_hwComposer hwr (by decide)
    refine .inl ?_
    simp only [getProducers, hne, Bool.false_eq_true, if_false]
    exact contains_addIf _ _ (contains_addIf _ _ (contains_addIf _ _ (contains_addIf _ _
      (contains_addIf_self hwr hcpu))))

/-! ### The selection -/

/-- The code a lookup answers for is the one it was asked for. -/
theorem id_of_getFormatInfo {b : PixelFormat} {f : FormatInfo} (h : getFormatInfo b = some f) :
    f.id = b := by
  simpa using List.find?_some h

/-- The display's colour order is forced on a buffer the CPU accesses only where the
selection has arrived at it already. -/
theorem selectBestFormat_of_hasCpu (caps : Capabilities) (reqFormat : BitVec 32)
    (descriptorFlags : DescriptorFlags) {usage : Usage} (hcpu : usage.hasCpu = true) :
    (selectBestFormat caps reqFormat descriptorFlags usage).IsLinearOrInvalid
      (getInternalFormatWithUsage reqFormat usage descriptorFlags) := by
  rw [selectBestFormat]
  dsimp only
  split
  · exact .inl rfl
  rename_i f hf
  have hid := id_of_getFormatInfo hf
  have hinv : Involves (if (getProducers usage).empty then (getProducers usage).add Ip.cpu
      else getProducers usage) (getConsumers usage) Ip.cpu :=
    (involves_cpu_of_hasCpu hcpu).imp_left fun h => contains_addIf (getProducers usage).empty _ h
  have hbest := getBestFormat_of_cpu caps usage hinv f descriptorFlags
  generalize getBestFormat caps f usage _ _ descriptorFlags = a at hbest ⊢
  rw [hid] at hbest
  refine ((((((InternalFormat.IsLinearOrInvalid.ite ?_ _).ite _).ite _).ite _).ite _).ite _).ite _
  split
  · by_cases hbgra : a.getBase = .bgra8888
    · have hreq : a.getBase = getInternalFormatWithUsage reqFormat usage descriptorFlags := by
        rcases hbest with rfl | hlin
        · exact absurd hbgra (by decide)
        · exact hlin.2
      have hm : PixelFormat.bgra8888 &&& Modifiers.fmtMask = PixelFormat.bgra8888 := by decide
      refine InternalFormat.IsLinearOrInvalid.ite (.inr ⟨hasModifiers_fromAndroid hm, ?_⟩) _
      rw [getBase_fromAndroid hm, ← hreq, hbgra]
    · rw [if_pos (by simp [hbgra, hcpu])]
      exact .inl rfl
  · exact hbest

/-- **Buffers with CPU access keep their requested format.** Whatever the flags of the
service and the capabilities of the blocks, an ordinary request that the CPU reads or
writes is refused, or given the internal format it maps to without any modifier. -/
theorem selectFormat_linear_of_hasCpu (caps : Capabilities) (halFormat : BitVec 64)
    (descriptorFlags : DescriptorFlags) (usage : Usage)
    (hpriv : formatIsPrivate (halFormat.truncate 32) = false) (hcpu : usage.hasCpu = true) :
    let a := selectFormat caps halFormat descriptorFlags usage
    a.isUndefined = true ∨ (a.hasModifiers = false ∧
      a.getBase = getInternalFormatWithUsage (halFormat.truncate 32) usage descriptorFlags) := by
  have hbest := selectBestFormat_of_hasCpu caps (halFormat.truncate 32) descriptorFlags hcpu
  have hsel : (selectFormat caps halFormat descriptorFlags usage).IsLinearOrInvalid
      (getInternalFormatWithUsage (halFormat.truncate 32) usage descriptorFlags) := by
    rw [selectFormat]
    simp only [hpriv, Bool.false_eq_true, if_false]
    exact hbest.ite _
  exact hsel.imp_left fun h => by rw [h]; rfl

/-- A texture the CPU writes and the GPU reads, on a platform whose GPU has AFBC. -/
theorem selectFormat_linear_cpuTexture :
    let caps := { Capabilities.gpuOnly with gpu := [(.afbc16x16, .rw), (.afbcTiledHeaders, .rw)] }
    let usage := Usage.hwTexture ||| Usage.hwRender ||| 0x30#64
    let a := selectFormat caps 1#64 0#32 usage
    a.isUndefined = false ∧ a.hasModifiers = false ∧
      a.getBase = getInternalFormatWithUsage Hal.rgba8888 usage 0#32 := by
  intro caps usage a
  have hdef : a.isUndefined = false := by decide
  refine ⟨hdef, ?_⟩
  have h := selectFormat_linear_of_hasCpu caps 1#64 0#32 usage (by decide) (by decide)
  exact h.resolve_left (by rw [← Bool.not_eq_false]; exact not_not.mpr hdef)

end Gralloc
