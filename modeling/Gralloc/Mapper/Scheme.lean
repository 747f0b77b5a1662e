import Gralloc.Mapper.Metadata

/-!
# One compression scheme

Three bits of a format name a compression scheme – AFBC, AFRC or block linear – and the bits
above them are its options, which the schemes share in part. A format that names one scheme at
most, and has the options of no other, is of *one scheme* (`Gralloc.Modifiers.OneScheme`).

The selection gives an ordinary request nothing else (`Gralloc.oneScheme_selectBestFormat`): a
candidate of a scheme is made of a plain base and of the scheme's own bits. A private request
brings its bits along, and the check on them stops at the first scheme that the base format
supports. So a buffer is of one scheme exactly when its request is not private, or is of one
scheme itself (`Gralloc.oneScheme_iff`). Whoever looks at the bits later asks for the schemes
in the same order, and so they all name the same one (`Gralloc.Mapper.classified_of_choice`).
-/

namespace Gralloc

open CInt Mapper

/-! ### Schemes -/

namespace Modifiers

/-- Bits that are options of AFBC and of AFRC. -/
def sharedOptions : Modifiers := 0x00f80000#32

/-- Bits that are options of AFBC alone. -/
def afbcOnlyOptions : Modifiers := 0x0f000000#32

/-- **One scheme at most**, and options of no other. -/
structure OneScheme (m : Modifiers) : Prop where
  not_afbc_afrc : m &&& afbcBasic ≠ 0#32 → m &&& afrcBasic = 0#32
  not_afbc_blockLinear : m &&& afbcBasic ≠ 0#32 → m &&& blockLinearBasic = 0#32
  not_afrc_blockLinear : m &&& afrcBasic ≠ 0#32 → m &&& blockLinearBasic = 0#32
  sharedOptions : m &&& sharedOptions ≠ 0#32 → m &&& afbcBasic ≠ 0#32 ∨ m &&& afrcBasic ≠ 0#32
  afbcOnlyOptions : m &&& afbcOnlyOptions ≠ 0#32 → m &&& afbcBasic ≠ 0#32

instance (m : Modifiers) : Decidable m.OneScheme :=
  decidable_of_iff
    ((m &&& afbcBasic ≠ 0#32 → m &&& afrcBasic = 0#32) ∧
      (m &&& afbcBasic ≠ 0#32 → m &&& blockLinearBasic = 0#32) ∧
      (m &&& afrcBasic ≠ 0#32 → m &&& blockLinearBasic = 0#32) ∧
      (m &&& sharedOptions ≠ 0#32 → m &&& afbcBasic ≠ 0#32 ∨ m &&& afrcBasic ≠ 0#32) ∧
      (m &&& afbcOnlyOptions ≠ 0#32 → m &&& afbcBasic ≠ 0#32))
    ⟨fun ⟨h₁, h₂, h₃, h₄, h₅⟩ => ⟨h₁, h₂, h₃, h₄, h₅⟩,
      fun h => ⟨h.1, h.2, h.3, h.4, h.5⟩⟩

variable {m : Modifiers}

/-- No bits at all are of one scheme. -/
theorem oneScheme_zero : OneScheme 0#32 := by decide

/-- AFBC, with its options. -/
theorem OneScheme.of_afbc (ha : m &&& afbcBasic ≠ 0#32)
    (h : m &&& (afrcBasic ||| blockLinearBasic) = 0#32) : m.OneScheme := by
  rw [BitVec.and_or_distrib_left, BitVec.or_eq_zero_iff] at h
  exact ⟨fun _ => h.1, fun _ => h.2, fun _ => h.2, fun _ => Or.inl ha, fun _ => ha⟩

/-- AFRC, with its options. -/
theorem OneScheme.of_afrc (ha : m &&& afrcBasic ≠ 0#32)
    (h : m &&& (afbcBasic ||| blockLinearBasic ||| Modifiers.afbcOnlyOptions) = 0#32) :
    m.OneScheme := by
  rw [BitVec.and_or_distrib_left, BitVec.and_or_distrib_left, BitVec.or_eq_zero_iff,
    BitVec.or_eq_zero_iff] at h
  obtain ⟨⟨h₁, h₂⟩, h₃⟩ := h
  exact ⟨fun h => absurd h₁ h, fun _ => h₂, fun _ => h₂, fun _ => Or.inr ha,
    fun h => absurd h₃ h⟩

/-- The bits of a scheme are among the upper half of a word. -/
theorem oneScheme_and_extMask : OneScheme (m &&& extMask) ↔ m.OneScheme := by
  have hand (flag : Modifiers) (h : extMask &&& flag = flag) :
      m &&& extMask &&& flag = m &&& flag := by
    rw [BitVec.and_assoc, h]
  constructor
  · rintro ⟨h₁, h₂, h₃, h₄, h₅⟩
    simp only [hand afbcBasic (by decide), hand afrcBasic (by decide),
      hand blockLinearBasic (by decide), hand Modifiers.sharedOptions (by decide),
      hand Modifiers.afbcOnlyOptions (by decide)] at h₁ h₂ h₃ h₄ h₅
    exact ⟨h₁, h₂, h₃, h₄, h₅⟩
  · rintro ⟨h₁, h₂, h₃, h₄, h₅⟩
    constructor <;>
      simpa only [hand afbcBasic (by decide), hand afrcBasic (by decide),
        hand blockLinearBasic (by decide), hand Modifiers.sharedOptions (by decide),
        hand Modifiers.afbcOnlyOptions (by decide)]

end Modifiers

/-! ### Candidates -/

section

variable {caps : Capabilities} {a : InternalFormat} {mask : Modifiers}

/-- A format without any of some bits. -/
def Lacks (mask : Modifiers) (a : InternalFormat) : Prop := a.modifiers &&& mask = 0#32

theorem Lacks.of_hasModifiers (h : a.hasModifiers = false) : Lacks mask a := by
  have h₀ : a.modifiers = 0#32 := by simpa [InternalFormat.hasModifiers] using h
  rw [Lacks, h₀, BitVec.zero_and]

theorem Lacks.setModifier (h : Lacks mask a) {flag : Modifiers} (v : Bool)
    (hd : flag &&& mask = 0#32 := by decide) : Lacks mask (a.setModifier flag v) := by
  rw [Lacks] at h ⊢
  cases v with
  | true => rw [InternalFormat.setModifier, if_pos rfl, BitVec.and_or_distrib_right, h, hd]; rfl
  | false =>
    rw [InternalFormat.setModifier, if_neg Bool.false_ne_true, BitVec.and_assoc,
      BitVec.and_comm (~~~flag), ← BitVec.and_assoc, h, BitVec.zero_and]

theorem Lacks.setAfrcCodingSize (h : Lacks mask a) {shift : ℕ} (size : AfrcCodingUnitSize)
    (hd : size.code <<< shift &&& mask = 0#32) :
    Lacks mask (InternalFormat.setAfrcCodingSize shift a size) := by
  rw [Lacks] at h ⊢
  rw [InternalFormat.setAfrcCodingSize, BitVec.and_or_distrib_right, hd, BitVec.or_zero,
    BitVec.and_assoc, BitVec.and_comm (~~~_), ← BitVec.and_assoc, h, BitVec.zero_and]

theorem Lacks.ite {b : InternalFormat} (ha : Lacks mask a) (hb : Lacks mask b) (c : Prop)
    [Decidable c] : Lacks mask (if c then a else b) := by
  split
  · exact ha
  · exact hb

/-- The bits that AFBC has no use for. -/
def notAfbc : Modifiers := .afrcBasic ||| .blockLinearBasic

/-- The bits that AFRC has no use for. -/
def notAfrc : Modifiers := .afbcBasic ||| .blockLinearBasic ||| .afbcOnlyOptions

theorem lacks_fromAndroid {f : FormatInfo} (hf : f ∈ formats) :
    Lacks mask (InternalFormat.fromAndroid f.id (calcFormatDataType f)) :=
  .of_hasModifiers (hasModifiers_of_mem_formats hf _)

theorem lacks_resolveAfbcBlocks (h : Lacks notAfbc a) (producers consumers : Ip) :
    Lacks notAfbc (resolveAfbcBlocks caps a producers consumers) := by
  unfold resolveAfbcBlocks
  extract_lets base f₁ f₂ f₃
  have h₁ : Lacks notAfbc f₁ := ((h.setModifier _).setModifier _).ite h _
  have h₂ : Lacks notAfbc f₂ := (h₁.setModifier _).ite h₁ _
  have h₃ : Lacks notAfbc f₃ := ((h₂.setModifier _).ite (h₂.setModifier _) _).ite h₂ _
  exact (h₃.setModifier _).ite h₃ _

theorem lacks_validateAfbcFormat (h : Lacks notAfbc a) (producers consumers : Ip) :
    Lacks notAfbc (validateAfbcFormat caps a producers consumers) := by
  unfold validateAfbcFormat
  extract_lets support f₁ f₂ f₃ f₄ f₅
  have h₁ : Lacks notAfbc f₁ := lacks_resolveAfbcBlocks h _ _
  have h₂ : Lacks notAfbc f₂ := (Lacks.of_hasModifiers rfl).ite h₁ _
  have h₃ : Lacks notAfbc f₃ := (h₂.setModifier _).ite h₂ _
  have h₄ : Lacks notAfbc f₄ := (h₃.setModifier _).ite h₃ _
  have h₅ : Lacks notAfbc f₅ := (h₄.setModifier _).ite h₄ _
  exact (h₅.setModifier _).ite h₅ _

/-- **The AFBC candidate** has bits of AFBC only. -/
theorem lacks_getAfbcFormat {f : FormatInfo} (hf : f ∈ formats) (usage : Usage)
    (producers consumers : Ip) :
    Lacks notAfbc (getAfbcFormat caps f usage producers consumers) := by
  unfold getAfbcFormat
  extract_lets base support f₁ f₂ t₁ t₂ f₃ w₁ f₄
  have hbase : Lacks notAfbc base := lacks_fromAndroid hf
  have h₁ : Lacks notAfbc f₁ := (hbase.setModifier _).setModifier _
  have h₂ : Lacks notAfbc f₂ := (h₁.setModifier _).ite h₁ _
  have ht₁ : Lacks notAfbc t₁ := h₂.setModifier _
  have ht₂ : Lacks notAfbc t₂ := (ht₁.setModifier _).ite ht₁ _
  have h₃ : Lacks notAfbc f₃ := ((ht₂.setModifier _).ite ht₂ _).ite h₂ _
  have hw₁ : Lacks notAfbc w₁ := (h₃.setModifier _).ite h₃ _
  have h₄ : Lacks notAfbc f₄ := ((hw₁.setModifier _).ite hw₁ _).ite h₃ _
  have hvalid : Lacks notAfbc (validateAfbcFormat caps f₄ producers consumers) :=
    lacks_validateAfbcFormat h₄ producers consumers
  exact hbase.ite (hbase.ite (hbase.ite (hbase.ite hvalid _) _) _) _

/-- **The AFRC candidate** has bits of AFRC only. -/
theorem lacks_getAfrcFormat {f : FormatInfo} (hf : f ∈ formats) (usage : Usage)
    (producers consumers : Ip) :
    Lacks notAfrc (getAfrcFormat caps f usage producers consumers) := by
  have hcode {shift : ℕ} (hs : shift = 20 ∨ shift = 22) (size : AfrcCodingUnitSize) :
      size.code <<< shift &&& notAfrc = 0#32 := by
    rcases hs with rfl | rfl <;> cases size <;> decide
  unfold getAfrcFormat
  extract_lets base support layout
  have hbase : Lacks notAfrc base := lacks_fromAndroid hf
  have hlayout (a : InternalFormat) (ha : layout = some a) : Lacks notAfrc a := by
    simp only [layout] at ha
    split_ifs at ha
    · cases ha
      exact (hbase.setModifier _).setModifier _
    · cases ha
      exact hbase.setModifier _
  split
  · rename_i format luma hformat hluma
    have hl : Lacks notAfrc (format.setAfrcLumaCodingSize luma) :=
      (hlayout format hformat).setAfrcCodingSize luma (hcode (.inl rfl) luma)
    extract_lets format'
    split
    · split
      · rename_i chroma hchroma
        exact hl.setAfrcCodingSize chroma (hcode (.inr rfl) chroma)
      · exact hbase
    · exact hbase.ite hl _
  · exact hbase

/-! ### Selected formats -/

/-- The modifiers of a format are of one scheme. -/
def InternalFormat.OneScheme (a : InternalFormat) : Prop := a.modifiers.OneScheme

theorem InternalFormat.oneScheme_of_hasModifiers (h : a.hasModifiers = false) : a.OneScheme := by
  have h₀ : a.modifiers = 0#32 := by simpa [InternalFormat.hasModifiers] using h
  rw [InternalFormat.OneScheme, h₀]
  exact Modifiers.oneScheme_zero

/-- **Candidates are of one scheme.** -/
theorem oneScheme_of_getSupportedFormat {f : FormatInfo} (hf : f ∈ formats) {usage : Usage}
    {producers consumers : Ip} {descriptorFlags : DescriptorFlags}
    (h : getSupportedFormat caps f usage producers consumers descriptorFlags = some a) :
    a.OneScheme := by
  have hbase : (InternalFormat.fromAndroid f.id (calcFormatDataType f)).hasModifiers = false :=
    hasModifiers_of_mem_formats hf _
  have hscheme {flag : Modifiers} {a : InternalFormat} (ha : a.getModifier flag = true) :
      a.modifiers &&& flag ≠ 0#32 := by
    simpa [InternalFormat.getModifier] using ha
  refine getSupportedFormat_ind h (fun hafrc => ?_) (fun hafbc => ?_) ?_ ?_
  · exact .of_afrc (hscheme hafrc) (lacks_getAfrcFormat hf usage producers consumers)
  · exact .of_afbc (hscheme hafbc) (lacks_getAfbcFormat hf usage producers consumers)
  · -- the base with the one bit, or without
    have h₀ : (InternalFormat.fromAndroid f.id (calcFormatDataType f)).modifiers = 0#32 := by
      simpa [InternalFormat.hasModifiers] using hbase
    rw [getBlFormat]
    split
    · rw [InternalFormat.OneScheme, InternalFormat.setModifier, if_pos rfl, h₀]
      show Modifiers.OneScheme (0#32 ||| Modifiers.blockLinearBasic)
      decide
    · exact InternalFormat.oneScheme_of_hasModifiers hbase
  · exact InternalFormat.oneScheme_of_hasModifiers hbase

theorem InternalFormat.OneScheme.ite_invalid (h : a.OneScheme) (c : Prop) [Decidable c] :
    InternalFormat.OneScheme (if c then .invalid else a) := by
  split
  · exact InternalFormat.oneScheme_of_hasModifiers rfl
  · exact h

/-- **An ordinary request is given a format of one scheme.** -/
theorem oneScheme_selectBestFormat (caps : Capabilities) (reqFormat : BitVec 32)
    (descriptorFlags : DescriptorFlags) (usage : Usage) :
    (selectBestFormat caps reqFormat descriptorFlags usage).OneScheme := by
  have hinvalid : InternalFormat.invalid.OneScheme := InternalFormat.oneScheme_of_hasModifiers rfl
  rw [selectBestFormat]
  dsimp only
  split
  · exact hinvalid
  rename_i f hf
  have hbest := getBestFormat_of_forall (P := InternalFormat.OneScheme) caps usage
    (if (getProducers usage).empty then (getProducers usage).add Ip.cpu else getProducers usage)
    (getConsumers usage) descriptorFlags f hinvalid
    fun _ hg _ => oneScheme_of_getSupportedFormat hg
  generalize getBestFormat caps f usage _ _ descriptorFlags = a at hbest ⊢
  refine ((((((InternalFormat.OneScheme.ite_invalid ?_ _).ite_invalid _).ite_invalid
    _).ite_invalid _).ite_invalid _).ite_invalid _).ite_invalid _
  split
  · refine InternalFormat.OneScheme.ite_invalid (InternalFormat.oneScheme_of_hasModifiers ?_) _
    exact hasModifiers_fromAndroid (by decide)
  · exact hbest

/-- **A selected format is of one scheme** exactly when the request is not private, or is of
one scheme itself. -/
theorem oneScheme_selectFormat_iff {halFormat : BitVec 64} {flags : DescriptorFlags}
    {usage : Usage} (h : (selectFormat caps halFormat flags usage).isUndefined = false) :
    (selectFormat caps halFormat flags usage).OneScheme ↔
      (formatIsPrivate (halFormat.truncate 32) = true →
        Modifiers.OneScheme (halFormat.truncate 32)) := by
  rw [selectFormat] at h ⊢
  split_ifs at h ⊢ with hinvalid hpriv
  · exact absurd h (by decide)
  · have hne : selectForcedFormat (halFormat.truncate 32) ≠ .invalid := by
      intro he
      rw [he] at h
      exact absurd h (by decide)
    rw [InternalFormat.OneScheme, modifiers_selectForcedFormat hne,
      Modifiers.oneScheme_and_extMask]
    exact ⟨fun h _ => h, fun h => h hpriv⟩
  · exact iff_of_true (oneScheme_selectBestFormat caps _ flags usage) fun hp => absurd hp hpriv

end

/-! ### What the readers make of it -/

/-- A compression scheme, or none. -/
inductive Scheme where
  | afbc
  | afrc
  | blockLinear
  | linear
  deriving DecidableEq, Repr

namespace Scheme

/-- The scheme of an allocation type. -/
def ofAllocType (t : AllocType) : Scheme :=
  if t.isAfbc then afbc else if t.isAfrc then afrc else if t.isBlockLinear then blockLinear
  else linear

/-- The property of a format that the validation asks for. -/
def supportedBy (f : FormatInfo) : Scheme → Bool
  | afbc => f.afbc
  | afrc => f.afrc
  | blockLinear => f.blockLinear
  | linear => f.linear

/-- The vendor and the type of a DRM modifier. -/
def vendorType : DrmModifier := 0xfff0000000000000#64

/-- The scheme that a DRM modifier names. -/
def ofModifier (m : DrmModifier) : Scheme :=
  if m &&& vendorType = 0x0800000000000000#64 then afbc
  else if m &&& vendorType = 0x0820000000000000#64 then afrc
  else if m = DrmModifier.generic16x16Tile then blockLinear
  else linear

/-- What clients are told of a scheme. -/
def compression : Scheme → ExtendableType
  | afbc => compressionAfbc
  | afrc => compressionAfrc
  | blockLinear => compressionNone
  | linear => compressionNone

end Scheme

namespace Mapper

/-- **The readers of a format agree** on its scheme: the allocation type, the property that is
checked, the DRM modifier and the compression. -/
structure Classified (usage : Usage) (hnd : PrivateHandle) (s : Scheme) : Prop where
  allocType : (getAllocType hnd.allocFormat usage).map Scheme.ofAllocType = some s
  supported : hnd.allocFormat.getBaseInfo.any s.supportedBy = true
  modifier : Scheme.ofModifier (drmModifierFromHandle hnd) = s
  compression : compressionOf hnd = s.compression

/-- The scheme that is read off the bits, in the order of every reader. -/
def schemeOf (a : InternalFormat) : Scheme :=
  if a.isAfbc then .afbc else if a.isAfrc then .afrc else if a.isBlockLinear then .blockLinear
  else .linear

theorem ofAllocType_of_getAllocType {a : InternalFormat} {usage : Usage} {t : AllocType}
    (h : getAllocType a usage = some t) : Scheme.ofAllocType t = schemeOf a := by
  have hafbc := isAfbc_of_getAllocType h
  obtain ⟨f, -, h⟩ := Option.bind_eq_some_iff.mp h
  unfold Scheme.ofAllocType schemeOf
  rw [hafbc]
  split_ifs at h with ha hr
  · rw [if_pos ha, if_pos ha]
  · simp only [getAfrcAllocType] at h
    split_ifs at h
    obtain ⟨-, -, rfl⟩ := Option.map_eq_some_iff.mp h
    rw [if_neg ha, if_neg ha, if_pos hr]
    rfl
  · rw [if_neg ha, if_neg ha, if_neg hr, ← Option.some.inj h]
    simp only [AllocType.isAfrc, AllocType.isBlockLinear, getUncompressedAllocType]
    by_cases hb : a.isBlockLinear = true
    · simp only [if_pos hb]
      rfl
    · simp only [if_neg hb]
      rfl

/-- The tags of AFBC are below the type, which is 0. -/
theorem ofModifier_getAfbcModifierTags {hnd : PrivateHandle} (h : hnd.allocFormat.isAfbc = true) :
    Scheme.ofModifier (getAfbcModifierTags hnd) = .afbc := by
  have harm {m : DrmModifier} (hm : m &&& 0x00f0000000000000#64 = 0#64) :
      DrmModifier.armAfbc m &&& Scheme.vendorType = 0x0800000000000000#64 := by
    rw [DrmModifier.armAfbc, DrmModifier.fourccModCode, BitVec.and_or_distrib_right,
      BitVec.and_assoc, show 0x00ffffffffffffff#64 &&& Scheme.vendorType =
        0x00f0000000000000#64 by decide, hm]
    decide
  rw [getAfbcModifierTags_eq h]
  refine if_pos (harm ?_)
  rw [or_and_of_disjoint (afbcBlockSize_and_of_disjoint (by decide) _ _)]
  exact orFlags_and (afbcFlags_and (by decide) _)

/-- The tags of AFRC are below the type, which is 2. -/
theorem ofModifier_armAfrc (m : DrmModifier) :
    Scheme.ofModifier (DrmModifier.armAfrc m) = .afrc := by
  have hand : DrmModifier.armAfrc m &&& Scheme.vendorType = 0x0820000000000000#64 := by
    have hm : m &&& 0x000fffffffffffff#64 &&& 0x00ffffffffffffff#64 &&& Scheme.vendorType =
        0#64 := by
      rw [BitVec.and_assoc, BitVec.and_assoc, show 0x000fffffffffffff#64 &&&
        (0x00ffffffffffffff#64 &&& Scheme.vendorType) = 0#64 by decide, BitVec.and_zero]
    rw [DrmModifier.armAfrc, DrmModifier.arm, DrmModifier.fourccModCode,
      BitVec.and_or_distrib_right, BitVec.and_or_distrib_right, BitVec.and_or_distrib_right, hm]
    decide
  rw [Scheme.ofModifier, hand, if_neg (by decide), if_pos rfl]

/-- **The readers of a chosen format agree.** -/
theorem classified_of_choice {usage : Usage} {height : BitVec 32} (c : Choice usage height)
    {hnd : PrivateHandle} (h : hnd.allocFormat = c.format) :
    Classified usage hnd (schemeOf c.format) := by
  have htype := ofAllocType_of_getAllocType c.allocType_eq
  obtain ⟨hafbc, hafrc, hbl, hlin⟩ := supported_of_validateFormat c.valid
  refine ⟨?_, ?_, ?_, ?_⟩
  · rw [h, c.allocType_eq, Option.map_some, htype]
  · rw [h, c.info_eq, Option.any_some, ← htype, Scheme.ofAllocType]
    split_ifs with h₁ h₂ h₃
    · exact hafbc h₁
    · exact hafrc h₂
    · exact hbl h₃
    · exact hlin (AllocType.isLinear_iff.mpr ⟨h₁, h₂, h₃⟩)
  · rw [drmModifierFromHandle, h, schemeOf]
    split_ifs with h₁ h₂ h₃
    · exact ofModifier_getAfbcModifierTags (h.symm ▸ h₁)
    · simp only [getAfrcModifierTags, h, h₂, Bool.not_true, Bool.false_eq_true, if_false, c.info_eq]
      exact ofModifier_armAfrc _
    · decide
    · decide
  · rw [compressionOf, h, schemeOf]
    split_ifs <;> rfl

end Mapper

/-! ### Accepted requests -/

/-- What is promised of a format: one scheme, which all its readers name. -/
structure SchemeKept (usage : Usage) (a : InternalFormat) : Prop where
  oneScheme : a.OneScheme
  classified : ∀ hnd : PrivateHandle, hnd.allocFormat = a → ∃ s, Classified usage hnd s

/-- **A buffer is of one scheme** exactly when its request is not private, or names one scheme
itself. -/
theorem oneScheme_iff {A : Arith} {caps : Capabilities} {node : ℕ → Option DecoderPara}
    {d r : BufferDescriptor} (h : deriveFormatAndSize A caps node d = .ok (.success, r)) :
    SchemeKept d.usage r.allocFormat ↔
      (formatIsPrivate (d.halFormat.truncate 32) = true →
        Modifiers.OneScheme (d.halFormat.truncate 32)) := by
  obtain ⟨c, hc, -⟩ := deriveFormatAndSize_eq_success.mp h
  have hformat := allocFormat_of_success hc h
  have hsel := format_of_choose hc
  have hundefined := (chooseFormat_eq_some_iff.mp hc).1
  rw [hformat, hsel]
  constructor
  · intro hkept
    exact (oneScheme_selectFormat_iff hundefined).mp hkept.oneScheme
  · intro hreq
    refine ⟨(oneScheme_selectFormat_iff hundefined).mpr hreq, fun hnd hhnd => ?_⟩
    exact ⟨_, classified_of_choice c (hhnd.trans hsel.symm)⟩

/-- Sixteen pixels squared of RGBA_8888 as AFBC, for the GPU. -/
def afbcSquare : BufferDescriptor := .request 16#32 16#32 0x300#64 0x18001#64 1#32

theorem schemeKept_afbcSquare : ∃ r,
    deriveFormatAndSize wrapping .gpuOnly noDecoder afbcSquare = .ok (.success, r) ∧
      SchemeKept afbcSquare.usage r.allocFormat := by
  have hok : (deriveFormatAndSize wrapping .gpuOnly noDecoder afbcSquare).map Prod.fst =
      .ok .success := by decide +kernel
  obtain ⟨⟨st, r⟩, hr, rfl⟩ := map_eq_ok.mp hok
  exact ⟨r, hr, (oneScheme_iff hr).mpr (by decide)⟩

/-- The same pixels, as AFBC and as AFRC. -/
def bothSquare : BufferDescriptor := .request 16#32 16#32 0x300#64 0x38001#64 1#32

theorem not_schemeKept_bothSquare : ∃ r,
    deriveFormatAndSize wrapping .gpuOnly noDecoder bothSquare = .ok (.success, r) ∧
      ¬SchemeKept bothSquare.usage r.allocFormat := by
  have hok : (deriveFormatAndSize wrapping .gpuOnly noDecoder bothSquare).map
      (fun r => (r.1, r.2.allocFormat.modifiers)) =
        .ok (.success, .afbcBasic ||| .afrcBasic) := by decide +kernel
  obtain ⟨⟨st, r⟩, hr, he⟩ := map_eq_ok.mp hok
  obtain ⟨rfl, hm⟩ := Prod.mk.inj he
  refine ⟨r, hr, fun hkept => ?_⟩
  have hone := hkept.oneScheme
  rw [InternalFormat.OneScheme, hm] at hone
  exact absurd (hone.not_afbc_afrc (by decide)) (by decide)

end Gralloc
