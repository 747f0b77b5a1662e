import Gralloc.Format.Cpu

/-!
# Second bodies and tiled headers

A front buffer is given a second AFBC body, and the selection only asks for it once it has
asked for tiled headers. What happens to the format afterwards may take modifiers away
again, in the course of making it conform to the specification and to the features
supported: this file says that no path leaves a second body without tiled headers
(`Gralloc.tiledBodies_getAfbcFormat`). The candidates of the other layouts are not AFBC at
all, although AFRC reuses the bits, and the grading loop chooses among candidates
(`Gralloc.getBestFormat_of_forall`). A forced format keeps the modifiers of the request
(`Gralloc.modifiers_selectForcedFormat`), with no such check.
-/

namespace Gralloc

section

variable {caps : Capabilities} {a b : InternalFormat} {supported : Bool}

/-! ### Modifiers set and cleared -/

theorem getModifier_setModifier_of_disjoint {flag other : Modifiers} (h : flag &&& other = 0#32)
    (a : InternalFormat) (v : Bool) :
    (a.setModifier flag v).getModifier other = a.getModifier other := by
  have hc : ~~~flag &&& other = other := by
    have hall : other = (flag ||| ~~~flag) &&& other := by
      rw [BitVec.or_not_self, BitVec.allOnes_and]
    rw [BitVec.and_or_distrib_right, h, BitVec.zero_or] at hall
    exact hall.symm
  cases v with
  | true => simp [InternalFormat.getModifier, InternalFormat.setModifier,
      BitVec.and_or_distrib_right, h]
  | false => simp [InternalFormat.getModifier, InternalFormat.setModifier, BitVec.and_assoc, hc]

theorem getModifier_setModifier_self {flag : Modifiers} (h : flag ≠ 0#32) (a : InternalFormat) :
    (a.setModifier flag true).getModifier flag = true := by
  simp [InternalFormat.getModifier, InternalFormat.setModifier, BitVec.and_or_distrib_right, h]

theorem getModifier_of_hasModifiers (h : a.hasModifiers = false) (flag : Modifiers) :
    a.getModifier flag = false := by
  have h₀ : a.modifiers = 0#32 := by simpa [InternalFormat.hasModifiers] using h
  simp [InternalFormat.getModifier, h₀]

theorem getModifier_of_mem_formats {f : FormatInfo} (hf : f ∈ formats) (t : FormatDataType)
    (flag : Modifiers) : (InternalFormat.fromAndroid f.id t).getModifier flag = false :=
  getModifier_of_hasModifiers (hasModifiers_of_mem_formats hf t) flag

/-! ### The AFBC candidate -/

/-- A second body comes with tiled headers, which are supported. -/
def TiledBodies (supported : Bool) (a : InternalFormat) : Prop :=
  a.getAfbcDoubleBody = true → a.getAfbcTiledHeaders = true ∧ supported = true

theorem TiledBodies.of_hasModifiers (h : a.hasModifiers = false) : TiledBodies supported a := by
  intro hdb
  rw [InternalFormat.getAfbcDoubleBody, getModifier_of_hasModifiers h] at hdb
  exact absurd hdb Bool.false_ne_true

theorem TiledBodies.setModifier (h : TiledBodies supported a) {flag : Modifiers} (v : Bool)
    (hdb : flag &&& Modifiers.afbcDoubleBody = 0#32 := by decide)
    (htl : flag &&& Modifiers.afbcTiledHeaders = 0#32 := by decide) :
    TiledBodies supported (a.setModifier flag v) := by
  rw [TiledBodies, InternalFormat.getAfbcDoubleBody, InternalFormat.getAfbcTiledHeaders,
    getModifier_setModifier_of_disjoint hdb, getModifier_setModifier_of_disjoint htl]
  exact h

theorem TiledBodies.ite (ha : TiledBodies supported a) (hb : TiledBodies supported b) (c : Prop)
    [Decidable c] : TiledBodies supported (if c then a else b) := by
  split
  · exact ha
  · exact hb

/-- Tiled headers are asked for where they are supported, and hold a second body. -/
theorem TiledBodies.of_tiled (h : a.getAfbcTiledHeaders = true) (hs : supported = true) :
    TiledBodies supported a := fun _ => ⟨h, hs⟩

theorem tiledBodies_resolveAfbcBlocks (h : TiledBodies supported a) (producers consumers : Ip) :
    TiledBodies supported (resolveAfbcBlocks caps a producers consumers) := by
  unfold resolveAfbcBlocks
  extract_lets base f₁ f₂ f₃
  have h₁ : TiledBodies supported f₁ := ((h.setModifier _).setModifier _).ite h _
  have h₂ : TiledBodies supported f₂ := (h₁.setModifier _).ite h₁ _
  have h₃ : TiledBodies supported f₃ :=
    ((h₂.setModifier _).ite (h₂.setModifier _) _).ite h₂ _
  exact (h₃.setModifier _).ite h₃ _

/-- Tiled headers that are supported are not taken away. -/
theorem tiledBodies_validateAfbcFormat {producers consumers : Ip}
    (h : TiledBodies (ipSupportFeature caps producers consumers .afbcTiledHeaders) a) :
    TiledBodies (ipSupportFeature caps producers consumers .afbcTiledHeaders)
      (validateAfbcFormat caps a producers consumers) := by
  unfold validateAfbcFormat
  extract_lets support f₁ f₂ f₃ f₄ f₅
  have h₁ : TiledBodies (support .afbcTiledHeaders) f₁ := tiledBodies_resolveAfbcBlocks h _ _
  have h₂ : TiledBodies (support .afbcTiledHeaders) f₂ := (TiledBodies.of_hasModifiers rfl).ite h₁ _
  have h₃ : TiledBodies (support .afbcTiledHeaders) f₃ := (h₂.setModifier _).ite h₂ _
  have h₄ : TiledBodies (support .afbcTiledHeaders) f₄ := (h₃.setModifier _).ite h₃ _
  have h₅ : TiledBodies (support .afbcTiledHeaders) f₅ := by
    by_cases hc : (f₄.getAfbcTiledHeaders && !support .afbcTiledHeaders) = true
    · -- unsupported headers have no second body to lose
      simp only [f₅, if_pos hc]
      intro hdb
      rw [InternalFormat.getAfbcDoubleBody, getModifier_setModifier_of_disjoint (by decide)] at hdb
      simp [(h₄ hdb).2] at hc
    · simp only [f₅, if_neg hc]
      exact h₄
  exact (h₅.setModifier _).ite h₅ _

/-- **The AFBC candidate** has a second body under tiled headers only. -/
theorem tiledBodies_getAfbcFormat {f : FormatInfo} (hf : f ∈ formats) (usage : Usage)
    (producers consumers : Ip) :
    TiledBodies (ipSupportFeature caps producers consumers .afbcTiledHeaders)
      (getAfbcFormat caps f usage producers consumers) := by
  unfold getAfbcFormat
  extract_lets base support f₁ f₂ t₁ t₂ f₃ w₁ f₄
  have hbase : TiledBodies (support .afbcTiledHeaders) base :=
    .of_hasModifiers (hasModifiers_of_mem_formats hf _)
  have h₁ : TiledBodies (support .afbcTiledHeaders) f₁ := (hbase.setModifier _).setModifier _
  have h₂ : TiledBodies (support .afbcTiledHeaders) f₂ := (h₁.setModifier _).ite h₁ _
  have h₃ : TiledBodies (support .afbcTiledHeaders) f₃ := by
    by_cases hs : support .afbcTiledHeaders = true
    · have htl : t₁.getAfbcTiledHeaders = true := getModifier_setModifier_self (by decide) f₂
      have hdb : (t₁.setModifier .afbcDoubleBody true).getAfbcTiledHeaders = true :=
        (getModifier_setModifier_of_disjoint (by decide) t₁ true).trans htl
      have ht₂ : TiledBodies (support .afbcTiledHeaders) t₂ :=
        (TiledBodies.of_tiled hdb hs).ite (.of_tiled htl hs) _
      simp only [f₃, if_pos hs]
      exact (ht₂.setModifier _).ite ht₂ _
    · simp only [f₃, if_neg hs]
      exact h₂
  have hw₁ : TiledBodies (support .afbcTiledHeaders) w₁ := (h₃.setModifier _).ite h₃ _
  have h₄ : TiledBodies (support .afbcTiledHeaders) f₄ :=
    ((hw₁.setModifier _).ite hw₁ _).ite h₃ _
  exact hbase.ite (hbase.ite (hbase.ite (hbase.ite (tiledBodies_validateAfbcFormat h₄) _) _) _) _

/-! ### The other candidates -/

/-- A format has a second body, if it is AFBC, under tiled headers only. -/
def InternalFormat.TiledIfDouble (a : InternalFormat) : Prop :=
  a.isAfbc = true → a.getAfbcDoubleBody = true → a.getAfbcTiledHeaders = true

theorem InternalFormat.TiledIfDouble.of_isAfbc (h : a.isAfbc = false) : a.TiledIfDouble :=
  fun ha => absurd (h.symm.trans ha) Bool.false_ne_true

theorem isAfbc_setAfrcCodingSize {shift : ℕ} (a : InternalFormat) (size : AfrcCodingUnitSize)
    (hs : shift = 20 ∨ shift = 22) :
    (InternalFormat.setAfrcCodingSize shift a size).isAfbc = a.isAfbc := by
  have hkeep : ~~~(Modifiers.afrcCodingMask <<< shift) &&& Modifiers.afbcBasic =
      Modifiers.afbcBasic := by
    rcases hs with rfl | rfl <;> decide
  have hcode : size.code <<< shift &&& Modifiers.afbcBasic = 0#32 := by
    rcases hs with rfl | rfl <;> cases size <;> decide
  simp [InternalFormat.isAfbc, InternalFormat.getModifier, InternalFormat.setAfrcCodingSize,
    BitVec.and_or_distrib_right, hcode, BitVec.and_assoc, hkeep]

/-- **The AFRC candidate is not AFBC.** -/
theorem isAfbc_getAfrcFormat {f : FormatInfo} (hf : f ∈ formats) (usage : Usage)
    (producers consumers : Ip) :
    (getAfrcFormat caps f usage producers consumers).isAfbc = false := by
  have hset {a : InternalFormat} (ha : a.isAfbc = false) (flag : Modifiers)
      (hd : flag &&& Modifiers.afbcBasic = 0#32) : (a.setModifier flag true).isAfbc = false :=
    (getModifier_setModifier_of_disjoint hd a true).trans ha
  unfold getAfrcFormat
  extract_lets base support layout
  have hbase : base.isAfbc = false :=
    getModifier_of_mem_formats hf _ _
  have hlayout (a : InternalFormat) (ha : layout = some a) : a.isAfbc = false := by
    have hafrc := hset hbase .afrcBasic (by decide)
    simp only [layout] at ha
    split_ifs at ha
    · cases ha
      exact hset hafrc .afrcRotLayout (by decide)
    · cases ha
      exact hafrc
  split
  · rename_i format luma hformat hluma
    have hl : (format.setAfrcLumaCodingSize luma).isAfbc = false :=
      (isAfbc_setAfrcCodingSize format luma (.inl rfl)).trans (hlayout format hformat)
    extract_lets format'
    split
    · split
      · exact (isAfbc_setAfrcCodingSize _ _ (.inr rfl)).trans hl
      · exact hbase
    · split
      · exact hbase
      · exact hl
  · exact hbase

/-- **What a candidate is**: one of the formats that are tried, in its own layout, or the base. -/
theorem getSupportedFormat_ind {P : InternalFormat → Prop} {f : FormatInfo} {usage : Usage}
    {producers consumers : Ip} {descriptorFlags : DescriptorFlags}
    (h : getSupportedFormat caps f usage producers consumers descriptorFlags = some a)
    (afrc : (getAfrcFormat caps f usage producers consumers).isAfrc = true →
      P (getAfrcFormat caps f usage producers consumers))
    (afbc : (getAfbcFormat caps f usage producers consumers).isAfbc = true →
      P (getAfbcFormat caps f usage producers consumers))
    (bl : P (getBlFormat caps (.fromAndroid f.id (calcFormatDataType f)) producers consumers))
    (base : P (.fromAndroid f.id (calcFormatDataType f))) : P a := by
  unfold getSupportedFormat at h
  extract_lets base' afrc' afbc' bl' at h
  obtain ⟨ip, -, h⟩ := Option.bind_eq_some_iff.mp h
  extract_lets flags₁ flags₂ flags₃ at h
  clear_value flags₃
  split_ifs at h with h₁ h₂ h₃ <;> rw [← Option.some.inj h]
  · rw [Bool.and_eq_true] at h₁
    exact afrc h₁.2
  · simp only [Bool.and_eq_true] at h₂
    exact afbc h₂.1.2
  · exact bl
  · exact base

/-- **Candidates** have a second body under tiled headers only. -/
theorem tiledIfDouble_of_getSupportedFormat {f : FormatInfo} (hf : f ∈ formats) {usage : Usage}
    {producers consumers : Ip} {descriptorFlags : DescriptorFlags}
    (h : getSupportedFormat caps f usage producers consumers descriptorFlags = some a) :
    a.TiledIfDouble := by
  have hbase : (InternalFormat.fromAndroid f.id (calcFormatDataType f)).isAfbc = false :=
    getModifier_of_mem_formats hf _ _
  refine getSupportedFormat_ind h (fun _ => ?_) (fun _ => ?_) ?_ ?_
  · exact .of_isAfbc (isAfbc_getAfrcFormat hf usage producers consumers)
  · exact fun _ hdb => (tiledBodies_getAfbcFormat hf usage producers consumers hdb).1
  · refine .of_isAfbc ?_
    rw [getBlFormat]
    split
    · exact (getModifier_setModifier_of_disjoint (by decide) _ true).trans hbase
    · exact hbase
  · exact .of_isAfbc hbase

/-! ### Selected formats -/

/-- What the candidates so far have. -/
def BestFormat.Both (P : InternalFormat → Prop) (b : BestFormat) : Prop :=
  P b.firstOfBestFormats ∧ P b.reqFormat

/-- One more candidate. -/
theorem BestFormat.Both.step {P : InternalFormat → Prop} {usage : Usage}
    {producers consumers : Ip} {descriptorFlags : DescriptorFlags} {req f : FormatInfo}
    {b : BestFormat} (hb : b.Both P)
    (h : ∀ a, getSupportedFormat caps f usage producers consumers descriptorFlags = some a → P a) :
    (b.step caps usage producers consumers descriptorFlags req f).Both P := by
  rw [BestFormat.step]
  split
  · exact hb
  split
  · exact hb
  rename_i a ha
  have hPa := h a ha
  dsimp only
  split_ifs
  · exact hb
  · exact ⟨hPa, hPa⟩
  · exact ⟨hb.1, hPa⟩
  · exact ⟨hPa, hb.2⟩
  · exact hb

/-- **What all candidates have, the best of them has.** -/
theorem getBestFormat_of_forall {P : InternalFormat → Prop} (caps : Capabilities) (usage : Usage)
    (producers consumers : Ip) (descriptorFlags : DescriptorFlags) (req : FormatInfo)
    (hinvalid : P .invalid)
    (h : ∀ f ∈ formats, ∀ a,
      getSupportedFormat caps f usage producers consumers descriptorFlags = some a → P a) :
    P (getBestFormat caps req usage producers consumers descriptorFlags) := by
  have hinit : (BestFormat.mk 0 0 0 .invalid .invalid).Both P := ⟨hinvalid, hinvalid⟩
  have hb : (formats.foldl (BestFormat.step caps usage producers consumers descriptorFlags req)
      (.mk 0 0 0 .invalid .invalid)).Both P :=
    List.foldlRecOn formats _ hinit fun _ hb f hf => hb.step (h f hf)
  rw [getBestFormat]
  split_ifs
  · exact hinvalid
  · exact hb.1
  · exact hb.2
  · exact hinvalid

theorem InternalFormat.TiledIfDouble.ite_invalid (h : a.TiledIfDouble) (c : Prop) [Decidable c] :
    InternalFormat.TiledIfDouble (if c then .invalid else a) := by
  split
  · exact .of_isAfbc rfl
  · exact h

/-- **An ordinary request** is given a second body under tiled headers only. -/
theorem selectBestFormat_doubleBody (caps : Capabilities) (reqFormat : BitVec 32)
    (descriptorFlags : DescriptorFlags) (usage : Usage) :
    (selectBestFormat caps reqFormat descriptorFlags usage).TiledIfDouble := by
  rw [selectBestFormat]
  dsimp only
  split
  · exact .of_isAfbc rfl
  rename_i f hf
  have hbest := getBestFormat_of_forall (P := InternalFormat.TiledIfDouble) caps usage
    (if (getProducers usage).empty then (getProducers usage).add Ip.cpu else getProducers usage)
    (getConsumers usage) descriptorFlags f (.of_isAfbc rfl)
    fun _ hg _ => tiledIfDouble_of_getSupportedFormat hg
  generalize getBestFormat caps f usage _ _ descriptorFlags = a at hbest ⊢
  refine ((((((InternalFormat.TiledIfDouble.ite_invalid ?_ _).ite_invalid _).ite_invalid
    _).ite_invalid _).ite_invalid _).ite_invalid _).ite_invalid _
  split
  · refine InternalFormat.TiledIfDouble.ite_invalid (.of_isAfbc ?_) _
    exact getModifier_of_hasModifiers (hasModifiers_fromAndroid (by decide)) _
  · exact hbest

/-! ### Forced formats -/

/-- The formats of the table have no bits among the modifiers. -/
theorem getInternalFormat_and_extMask (b : PixelFormat) :
    getInternalFormat b &&& Modifiers.extMask = 0#32 := by
  unfold getInternalFormat
  extract_lets internalFormat
  split_ifs with h
  · obtain ⟨f, hf⟩ := Option.isSome_iff_exists.mp h
    have hm : Modifiers.fmtMask &&& Modifiers.extMask = 0#32 := by decide
    rw [← id_of_getFormatInfo hf, ← and_fmtMask_of_mem_formats f (mem_formats_of_getFormatInfo hf),
      BitVec.and_assoc, hm, BitVec.and_zero]
  · rfl

/-- **A forced format keeps the modifiers of its request.** -/
theorem modifiers_selectForcedFormat {reqFormat : BitVec 32}
    (h : selectForcedFormat reqFormat ≠ .invalid) :
    (selectForcedFormat reqFormat).modifiers = reqFormat &&& Modifiers.extMask := by
  have hs : ~~~Modifiers.sentinel &&& Modifiers.extMask = Modifiers.extMask := by decide
  unfold selectForcedFormat at h ⊢
  dsimp only at h ⊢
  split at h
  · exact absurd rfl h
  split_ifs at h ⊢ with h₁ h₂
  · exact absurd rfl h
  · simp only [InternalFormat.fromPrivate, InternalFormat.ofValue, BitVec.and_assoc, hs,
      BitVec.and_or_distrib_right, getInternalFormat_and_extMask, BitVec.zero_or, BitVec.and_self]
  · exact absurd rfl h

/-- One bit of them. -/
theorem getModifier_selectForcedFormat {reqFormat : BitVec 32}
    (h : selectForcedFormat reqFormat ≠ .invalid) {flag : Modifiers}
    (hflag : Modifiers.extMask &&& flag = flag := by decide) :
    (selectForcedFormat reqFormat).getModifier flag = (reqFormat &&& flag != 0#32) := by
  rw [InternalFormat.getModifier, modifiers_selectForcedFormat h, BitVec.and_assoc, hflag]

end

end Gralloc
