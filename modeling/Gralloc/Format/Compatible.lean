import Gralloc.Format.Best

/-!
# What the pixels mean

A request for a format may be given another one, as long as the pixels mean the same: the base is
compatible with the requested one, and whoever produces and consumes the buffer supports the
layout that was chosen (`Gralloc.supportedFor_of_getSupportedFormat`). There are two exceptions,
both on purpose. Where the GPU consumes a buffer as well, a format that the display does not read
is allocated for the others (`Gralloc.SupportedFor`). And a product may have all its frame buffers
in one format, whatever was requested (`Gralloc.forcesBgra`).

With these the selection keeps what the pixels mean (`Gralloc.keepsMeaning_selectFormat`).
-/

namespace Gralloc

/-! ### Layouts -/

/-- The layout of a format, as the bit of its support. -/
def InternalFormat.layout (a : InternalFormat) : SupportFlags :=
  if a.isAfbc then .fAfbc
  else if a.isAfrc then .fAfrc
  else if a.isBlockLinear then .fBlYuv
  else .fLin

section

variable (caps : Capabilities) (f : FormatInfo) (ip : FormatIpSupport) (usage : Usage)
  (producers consumers : Ip) (descriptorFlags : DescriptorFlags)

/-- The layouts that all can work with, but the display if the GPU can take its place. -/
def composedFlags : SupportFlags :=
  let flags := isFormatSupported caps f ip usage producers consumers
  if flags == .fNone && consumers.contains Ip.gpu && consumers.contains Ip.dpu
  then isFormatSupported caps f ip usage producers (consumers.remove Ip.dpu) else flags

/-- The product may have its frame buffers without compression. -/
def allowedFlags (flags : SupportFlags) : SupportFlags :=
  if descriptorFlags.has .hwcFbDisableAfbc && usage.has Usage.hwFb
  then flags.without (.fAfbc ||| .fAfrc ||| .fBlYuv) else flags

/-- The first of the layouts, in their order, of which there is a format. -/
def firstLayout (flags : SupportFlags) : Option InternalFormat :=
  let base := InternalFormat.fromAndroid f.id (calcFormatDataType f)
  let afrc := getAfrcFormat caps f usage producers consumers
  let afbc := getAfbcFormat caps f usage producers consumers
  let bl := getBlFormat caps base producers consumers
  if flags.has .fAfrc && afrc.isAfrc then some afrc
  else if flags.has .fAfbc && !usage.isNoAfbc && afbc.isAfbc &&
      (getAllocType afbc usage).any fun t => f.npln == 1 || t.isMultiPlane then some afbc
  else if flags.has .fBlYuv && bl.isBlockLinear then some bl
  else if flags.has .fLin then some base
  else none

theorem getSupportedFormat_eq :
    getSupportedFormat caps f usage producers consumers descriptorFlags =
      (getFormatIpSupport f.id).bind fun ip =>
        firstLayout caps f usage producers consumers
          (allowedFlags usage descriptorFlags
            (composedFlags caps f ip usage producers consumers)) := rfl

end

theorem SupportFlags.has_of_has_without {flags g m : SupportFlags}
    (h : (flags.without m).has g = true) : flags.has g = true := by
  rw [SupportFlags.has, bne_iff_ne] at h ⊢
  rintro hzero
  refine h ?_
  rw [SupportFlags.without, BitVec.and_assoc, BitVec.and_comm (~~~m) g, ← BitVec.and_assoc, hzero,
    BitVec.zero_and]

/-- Whatever takes layouts out adds none. -/
theorem SupportFlags.has_of_has_ite {flags g m : SupportFlags} {c : Prop} [Decidable c]
    (h : (if c then flags.without m else flags).has g = true) : flags.has g = true := by
  split_ifs at h
  · exact has_of_has_without h
  · exact h

section

variable {caps : Capabilities} {f : FormatInfo} {ip : FormatIpSupport} {usage : Usage}
  {producers consumers : Ip} {descriptorFlags : DescriptorFlags} {flags g : SupportFlags}
  {a : InternalFormat}

theorem has_of_has_allowedFlags (h : (allowedFlags usage descriptorFlags flags).has g = true) :
    flags.has g = true := SupportFlags.has_of_has_ite h

/-- A base without modifiers is linear. -/
theorem layout_of_hasModifiers (h : a.hasModifiers = false) : a.layout = .fLin := by
  rw [InternalFormat.layout, InternalFormat.isAfbc, InternalFormat.isAfrc,
    InternalFormat.isBlockLinear, getModifier_of_hasModifiers h, getModifier_of_hasModifiers h,
    getModifier_of_hasModifiers h]
  rfl

theorem layout_getBlFormat (h : a.hasModifiers = false)
    (hbl : (getBlFormat caps a producers consumers).isBlockLinear = true) :
    (getBlFormat caps a producers consumers).layout = .fBlYuv := by
  rw [getBlFormat] at hbl ⊢
  split_ifs at hbl ⊢
  · have hafbc : (a.setModifier .blockLinearBasic true).isAfbc = false :=
      (getModifier_setModifier_of_disjoint (by decide) a true).trans
        (getModifier_of_hasModifiers h _)
    have hafrc : (a.setModifier .blockLinearBasic true).isAfrc = false :=
      (getModifier_setModifier_of_disjoint (by decide) a true).trans
        (getModifier_of_hasModifiers h _)
    rw [InternalFormat.layout, hafbc, hafrc, hbl]
    rfl
  · rw [InternalFormat.isBlockLinear, getModifier_of_hasModifiers h] at hbl
    exact absurd hbl Bool.false_ne_true

/-- **The layout that is chosen** was to be tried. -/
theorem has_layout_of_firstLayout (hf : f ∈ formats)
    (h : firstLayout caps f usage producers consumers flags = some a) :
    flags.has a.layout = true := by
  have hbase : (InternalFormat.fromAndroid f.id (calcFormatDataType f)).hasModifiers = false :=
    hasModifiers_of_mem_formats hf _
  unfold firstLayout at h
  extract_lets base afrc afbc bl at h
  split_ifs at h with hafrc hafbc hbl hlin <;> rw [← Option.some.inj h]
  · rw [Bool.and_eq_true] at hafrc
    have hnot : afrc.isAfbc = false := isAfbc_getAfrcFormat hf usage producers consumers
    rw [InternalFormat.layout, hnot, hafrc.2]
    exact hafrc.1
  · rw [Bool.and_eq_true, Bool.and_eq_true, Bool.and_eq_true] at hafbc
    rw [InternalFormat.layout, hafbc.1.2]
    exact hafbc.1.1.1
  · rw [Bool.and_eq_true] at hbl
    rw [layout_getBlFormat hbase hbl.2]
    exact hbl.1
  · rw [layout_of_hasModifiers hbase]
    exact hlin

/-! ### Support -/

variable (caps f usage producers consumers) in
/-- All the producers and consumers support the layout of a format of this base. -/
def SupportsLayout (a : InternalFormat) : Prop :=
  ∃ ip, getFormatIpSupport f.id = some ip ∧
    (isFormatSupported caps f ip usage producers consumers).has a.layout = true

variable (caps f usage producers consumers) in
/-- **A format is for its producers and consumers**: they support it; or the display supports no
format of the base, and the GPU composes in its place, which supports it as the others do. -/
def SupportedFor (a : InternalFormat) : Prop :=
  SupportsLayout caps f usage producers consumers a ∨
    (consumers.contains Ip.gpu = true ∧ consumers.contains Ip.dpu = true ∧
      ∃ ip, getFormatIpSupport f.id = some ip ∧
        isFormatSupported caps f ip usage producers consumers = .fNone ∧
        (isFormatSupported caps f ip usage producers (consumers.remove Ip.dpu)).has a.layout =
          true)

/-- **Candidates are for their producers and consumers.** -/
theorem supportedFor_of_getSupportedFormat (hf : f ∈ formats)
    (h : getSupportedFormat caps f usage producers consumers descriptorFlags = some a) :
    SupportedFor caps f usage producers consumers a := by
  rw [getSupportedFormat_eq] at h
  rcases Option.bind_eq_some_iff.mp h with ⟨ip, hip, hfirst⟩
  have hhas := has_of_has_allowedFlags (has_layout_of_firstLayout hf hfirst)
  rw [composedFlags] at hhas
  split_ifs at hhas with hcomposed
  · rw [Bool.and_eq_true, Bool.and_eq_true, beq_iff_eq] at hcomposed
    exact .inr ⟨hcomposed.1.2, hcomposed.2, ip, hip, hcomposed.1.1, hhas⟩
  · exact .inl ⟨ip, hip, hhas⟩

end

/-! ### The format that is selected -/

section

variable (caps : Capabilities) (reqFormat : BitVec 32) (descriptorFlags : DescriptorFlags)
  (usage : Usage)

/-- The product has its frame buffers in `BGRA_8888`. -/
def forcesBgra : Bool := descriptorFlags.has .hwcForceBgra8888 && usage.has Usage.hwFb

/-- The producers of a usage; the CPU, without one. -/
def getProducersOrCpu : Ip :=
  if (getProducers usage).empty then (getProducers usage).add Ip.cpu else getProducers usage

/-- **The pixels of a format mean what was requested**, to everyone who works with them. -/
def SameMeaning (a : InternalFormat) : Prop :=
  ∃ req f, getFormatInfo (getInternalFormatWithUsage reqFormat usage descriptorFlags) = some req ∧
    f ∈ formats ∧ a.getBase = f.id ∧ isFormatCompatible req f = true ∧
    SupportedFor caps f usage (getProducersOrCpu usage) (getConsumers usage) a

/-- **What the selection keeps**: the meaning of the pixels, but for frame buffers that the
product wants in its own format and the CPU does not touch. -/
structure KeepsMeaning (a : InternalFormat) : Prop where
  forced : forcesBgra descriptorFlags usage = true →
    a = InternalFormat.fromAndroid .bgra8888 .unorm
  kept : ¬(forcesBgra descriptorFlags usage = true ∧ usage.hasCpu = false) →
    SameMeaning caps reqFormat descriptorFlags usage a

end

section

variable {caps : Capabilities} {descriptorFlags : DescriptorFlags} {usage : Usage}

namespace FormatSearch

variable {s : FormatSearch}

/-- What is found is a candidate. -/
theorem exists_candidate_found (hreq : s.req ∈ formats) (h : s.found.isUndefined = false) :
    ∃ f ∈ formats, s.candidate f = some s.found := by
  rcases exists_argmax_formats (s := s) with ⟨m, hm⟩
  have hmem := (chooses_of_argmax hreq hm).mem
  rw [found_eq s hreq hm] at h ⊢
  generalize (if s.cpu = true ∨ s.grade s.req = s.grade m then s.req else m) = f at hmem h ⊢
  rcases hc : s.candidate f with - | a
  · rw [hc] at h
    exact absurd h (by decide)
  · exact ⟨f, hmem, hc⟩

/-- It is compatible with what was requested, and for its producers and consumers. -/
theorem sameMeaning_found {caps : Capabilities} {reqFormat : BitVec 32}
    {descriptorFlags : DescriptorFlags} {usage : Usage} {req : FormatInfo}
    (hreq : getFormatInfo (getInternalFormatWithUsage reqFormat usage descriptorFlags) = some req)
    (hs : s = ⟨caps, req, usage, getProducersOrCpu usage, getConsumers usage, descriptorFlags⟩)
    {a : InternalFormat} (hbase : a.getBase = s.found.getBase) (hlayout : a.layout = s.found.layout)
    (h : s.found.isUndefined = false) : SameMeaning caps reqFormat descriptorFlags usage a := by
  have hmem : s.req ∈ formats := by
    rw [hs]
    exact mem_formats_of_getFormatInfo hreq
  rcases exists_candidate_found hmem h with ⟨f, hf, hc⟩
  rcases candidate_eq_some_iff.mp hc with ⟨hcompat, hsupported, -⟩
  have hsupport := supportedFor_of_getSupportedFormat hf hsupported
  have hid := getBase_of_getSupportedFormat hf hsupported
  rw [hs] at hcompat
  refine ⟨req, f, hreq, hf, hbase.trans hid, hcompat, ?_⟩
  rw [SupportedFor, SupportsLayout, hlayout]
  rw [SupportedFor, SupportsLayout, hs] at hsupport
  rw [hs]
  exact hsupport

end FormatSearch

/-- A check that did not refuse. -/
theorem of_ite_invalid {p : Prop} [Decidable p] {a : InternalFormat}
    (h : (if p then InternalFormat.invalid else a).isUndefined = false) :
    (if p then InternalFormat.invalid else a) = a ∧ a.isUndefined = false := by
  by_cases hp : p
  · rw [if_pos hp] at h
    exact absurd h (by decide)
  · rw [if_neg hp] at h ⊢
    exact ⟨rfl, h⟩

/-- An ordinary request is given what the search finds, or what the product forces. -/
theorem selectBestFormat_of_isUndefined {caps : Capabilities} {reqFormat : BitVec 32}
    {descriptorFlags : DescriptorFlags} {usage : Usage}
    (h : (selectBestFormat caps reqFormat descriptorFlags usage).isUndefined = false) :
    ∃ req s, getFormatInfo (getInternalFormatWithUsage reqFormat usage descriptorFlags) =
        some req ∧
      s = FormatSearch.mk caps req usage (getProducersOrCpu usage) (getConsumers usage)
        descriptorFlags ∧
      ((forcesBgra descriptorFlags usage = false ∧
          selectBestFormat caps reqFormat descriptorFlags usage = s.found) ∨
        (forcesBgra descriptorFlags usage = true ∧
          selectBestFormat caps reqFormat descriptorFlags usage =
            InternalFormat.fromAndroid .bgra8888 .unorm ∧
          (usage.hasCpu = true → s.found.getBase = .bgra8888))) := by
  rw [selectBestFormat] at h ⊢
  rcases hreq : getFormatInfo (getInternalFormatWithUsage reqFormat usage descriptorFlags)
    with - | req
  · rw [hreq] at h
    have hinvalid : InternalFormat.invalid.isUndefined = false := h
    exact absurd hinvalid (by decide)
  rw [hreq] at h
  refine ⟨req, _, rfl, rfl, ?_⟩
  dsimp only at h ⊢
  rcases of_ite_invalid h with ⟨h₁, h⟩
  rcases of_ite_invalid h with ⟨h₂, h⟩
  rcases of_ite_invalid h with ⟨h₃, h⟩
  rcases of_ite_invalid h with ⟨h₄, h⟩
  rcases of_ite_invalid h with ⟨h₅, h⟩
  rcases of_ite_invalid h with ⟨h₆, h⟩
  rcases of_ite_invalid h with ⟨h₇, h⟩
  rw [h₁, h₂, h₃, h₄, h₅, h₆, h₇]
  rcases hforced : forcesBgra descriptorFlags usage with - | -
  · rw [forcesBgra] at hforced
    rw [hforced]
    exact .inl ⟨rfl, rfl⟩
  · rw [forcesBgra] at hforced
    rw [hforced, if_pos rfl] at h
    rw [hforced, if_pos rfl]
    refine .inr ⟨rfl, (of_ite_invalid h).1, fun hcpu => ?_⟩
    by_contra hne
    rw [if_pos (by rw [hcpu, Bool.and_true]; exact bne_iff_ne.mpr hne)] at h
    exact absurd h (by decide)

/-- What a request that the CPU takes part in finds is linear. -/
theorem FormatSearch.layout_found_of_hasCpu {s : FormatSearch} {usage : Usage}
    (hcpu : usage.hasCpu = true) (hp : s.producers = getProducersOrCpu usage)
    (hc : s.consumers = getConsumers usage) (h : s.found.isUndefined = false) :
    s.found.layout = .fLin := by
  have hinv : Involves s.producers s.consumers Ip.cpu := by
    rw [hp, hc]
    exact (involves_cpu_of_hasCpu hcpu).imp_left fun h =>
      contains_addIf (getProducers usage).empty _ h
  rcases getBestFormat_of_cpu s.caps s.usage hinv s.req s.descriptorFlags with hnone | hlin
  · have hfound : s.found = .invalid := hnone
    rw [hfound] at h
    exact absurd h (by decide)
  · exact layout_of_hasModifiers hlin.1

/-- **The selection never changes what the pixels mean**, but for frame buffers in the product's
own format. -/
theorem keepsMeaning_selectFormat (caps : Capabilities) (halFormat : BitVec 64)
    (descriptorFlags : DescriptorFlags) (usage : Usage)
    (hpriv : formatIsPrivate (halFormat.truncate 32) = false)
    (h : (selectFormat caps halFormat descriptorFlags usage).isUndefined = false) :
    KeepsMeaning caps (halFormat.truncate 32) descriptorFlags usage
      (selectFormat caps halFormat descriptorFlags usage) := by
  rw [selectFormat] at h ⊢
  simp only [hpriv, Bool.false_eq_true, if_false] at h ⊢
  rcases of_ite_invalid h with ⟨heq, hbest⟩
  rw [heq]
  rcases selectBestFormat_of_isUndefined hbest with ⟨req, s, hreq, hs, hcases⟩
  rcases hcases with ⟨hforced, hfound⟩ | ⟨hforced, hbgra, hcpu⟩
  · refine ⟨fun hf => absurd (hforced.symm.trans hf) Bool.false_ne_true, fun _ => ?_⟩
    rw [hfound] at hbest ⊢
    exact FormatSearch.sameMeaning_found hreq hs rfl rfl hbest
  · refine ⟨fun _ => hbgra, fun hkept => ?_⟩
    have hhas : usage.hasCpu = true := by
      rw [not_and] at hkept
      exact Bool.eq_true_of_not_eq_false (hkept hforced)
    have hbase := hcpu hhas
    have hdefined : s.found.isUndefined = false := by
      refine beq_eq_false_iff_ne.mpr fun hformat => ?_
      rw [InternalFormat.getBase, hformat] at hbase
      exact absurd hbase (by decide)
    have hmod : (InternalFormat.fromAndroid .bgra8888 .unorm).hasModifiers = false := rfl
    have hlin := FormatSearch.layout_found_of_hasCpu hhas (by rw [hs]) (by rw [hs]) hdefined
    rw [hbgra]
    refine FormatSearch.sameMeaning_found hreq hs ?_ ?_ hdefined
    · rw [hbase]
      rfl
    · rw [hlin]
      exact layout_of_hasModifiers hmod

/-- A texture that the CPU writes and the GPU reads. -/
theorem keepsMeaning_selectFormat_rgba8888 :
    KeepsMeaning .gpuOnly 1#32 0#32 (Usage.hwTexture ||| 0x30#64)
      (selectFormat .gpuOnly 1#64 0#32 (Usage.hwTexture ||| 0x30#64)) :=
  keepsMeaning_selectFormat .gpuOnly 1#64 0#32 (Usage.hwTexture ||| 0x30#64) (by decide) (by decide)

/-- A frame buffer of 16 bits is forced to 32, which is not compatible. And half floats that the
display has no feature for are allocated for the GPU, which composes. -/
theorem not_sameMeaning_forced_and_composed :
    (let usage := Usage.hwFb ||| Usage.hwRender
      let a := selectFormat .gpuOnly 4#64 .hwcForceBgra8888 usage
      a.isUndefined = false ∧
        ((getFormatInfo .rgb565).bind fun req => (getFormatInfo a.getBase).map fun f =>
          isFormatCompatible req f) = some false) ∧
    (let caps := { Capabilities.gpuOnly with
        gpu := [(.formatR16G16B16A16Float, .rw)], dpu := some [] }
      let usage := Usage.hwRender ||| Usage.hwTexture ||| Usage.hwComposer
      let a := selectFormat caps 22#64 0#32 usage
      a.isUndefined = false ∧
        ((getFormatInfo a.getBase).bind fun f => (getFormatIpSupport f.id).map fun ip =>
          (isFormatSupported caps f ip usage (getProducersOrCpu usage) (getConsumers usage)).has
            a.layout) = some false) := by
  decide +kernel

end

end Gralloc
