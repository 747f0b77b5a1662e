import Gralloc.Hidl.Agreement
import Gralloc.Hidl.Callbacks

/-!
# Whether a buffer will do

A process that received a buffer may ask the mapper whether it will do for a descriptor of its own,
and a stride (`Gralloc.Hidl.validateBufferSize`). The mapper looks at the handle, in which what was
requested is kept as `int`s. What it accepts are the descriptors that stay within the request
(`Gralloc.Hidl.Within`): the same pixels in the same format, and no usage that was not asked for;
of the usages of the vendor, and of protection, none may be missing either
(`Gralloc.Hidl.Records.validateBufferSize_iff`).
-/

namespace Gralloc

open CInt Mapper

namespace Hidl

/-! ### Descriptors for a buffer -/

/-- The usages that a descriptor must have exactly as the buffer has them. -/
def mustMatchMask : Usage := Usage.privateMask ||| Usage.protectedContent

/-- **Whether a buffer will do for a descriptor**; `hnd` is a handle that was imported. -/
def validateBufferSize (hnd : Option PrivateHandle) (info : BufferDescriptorInfo)
    (inStride : BitVec 32) : Error :=
  if validateDescriptorInfo info ≠ true then .badValue
  else
    match hnd with
    | none => .badBuffer
    | some hnd =>
      let descriptorUsage := info.usage &&& ~~~Usage.externalDisp
      let bufferUsage := hnd.producerUsage ||| hnd.consumerUsage
      if BitVec.ofInt 32 hnd.width ≠ info.width then .badValue
      else if BitVec.ofInt 32 hnd.height ≠ info.height then .badValue
      else if BitVec.ofInt 32 hnd.layerCount ≠ info.layerCount then .badValue
      else if bufferUsage &&& descriptorUsage ≠ descriptorUsage then .badValue
      else if bufferUsage &&& mustMatchMask ≠ descriptorUsage &&& mustMatchMask then .badValue
      else if inStride ≠ 0#32 ∧ BitVec.ofInt 32 hnd.stride ≠ inStride then .badValue
      else if hnd.reqFormat ≠ info.format.toInt then .badValue
      else .none

/-- **A descriptor stays within a request**: it asks for the same pixels, and for no other usage,
but for an external display; the usages of the vendor, and protection, are the same. -/
structure Within (info info' : BufferDescriptorInfo) : Prop where
  width : info'.width = info.width
  height : info'.height = info.height
  layerCount : info'.layerCount = info.layerCount
  format : info'.format = info.format
  usage : ∀ n, n ≠ 13 → info'.usage.getLsbD n = true → info.usage.getLsbD n = true
  same : ∀ n, n = 14 ∨ 28 ≤ n ∧ n < 32 ∨ 48 ≤ n →
    info'.usage.getLsbD n = info.usage.getLsbD n

theorem Within.refl (info : BufferDescriptorInfo) : Within info info :=
  ⟨rfl, rfl, rfl, rfl, fun _ _ h => h, fun _ _ => rfl⟩

section

variable {w : ℕ} {x y m : BitVec w}

/-- A mask covers a word that has no bit outside of it. -/
theorem and_eq_right_iff : x &&& y = y ↔ ∀ n, y.getLsbD n = true → x.getLsbD n = true := by
  constructor
  · intro h n hn
    rw [← h, BitVec.getLsbD_and, Bool.and_eq_true] at hn
    exact hn.1
  · intro h
    ext n hn
    have hbit := h n
    simp only [BitVec.getLsbD_eq_getElem hn] at hbit
    cases hy : y[n] with
    | false => simp [hy]
    | true => simp [hbit hy, hy]

/-- Words are the same under a mask if its bits are. -/
theorem and_eq_and_iff : x &&& m = y &&& m ↔ ∀ n, m.getLsbD n = true →
    x.getLsbD n = y.getLsbD n := by
  constructor
  · intro h n hn
    have hbit := congrArg (fun z => z.getLsbD n) h
    simpa only [BitVec.getLsbD_and, hn, Bool.and_true] using hbit
  · intro h
    ext n hn
    have hbit := h n
    simp only [BitVec.getLsbD_eq_getElem hn] at hbit
    cases hm : m[n] with
    | false => simp [hm]
    | true => simp [hbit hm, hm]

end

theorem getLsbD_externalDisp (n : ℕ) : Usage.externalDisp.getLsbD n = decide (n = 13) := by
  rw [Usage.externalDisp, ← BitVec.twoPow_eq, BitVec.getLsbD_twoPow]
  by_cases h : n = 13 <;> simp [h, eq_comm]

theorem getLsbD_mustMatchMask {n : ℕ} (hn : n < 64) :
    mustMatchMask.getLsbD n = decide (n = 14 ∨ 28 ≤ n ∧ n < 32 ∨ 48 ≤ n) := by
  have h : ∀ n : Fin 64, mustMatchMask.getLsbD n =
      decide ((n : ℕ) = 14 ∨ 28 ≤ (n : ℕ) ∧ (n : ℕ) < 32 ∨ 48 ≤ (n : ℕ)) := by decide
  exact h ⟨n, hn⟩

section

variable {p : Platform} {node : ℕ → Option DecoderPara} {flags : DescriptorFlags}
  {info info' : BufferDescriptorInfo} {r : BufferDescriptor} {hnd : MetadataHandle}
  {inStride : BitVec 32}

/-- **The usages of a descriptor** that are accepted. -/
theorem usage_iff (u v : Usage) :
    (u &&& (v &&& ~~~Usage.externalDisp) = v &&& ~~~Usage.externalDisp ∧
      u &&& mustMatchMask = v &&& ~~~Usage.externalDisp &&& mustMatchMask) ↔
      (∀ n, n ≠ 13 → v.getLsbD n = true → u.getLsbD n = true) ∧
        ∀ n, n = 14 ∨ 28 ≤ n ∧ n < 32 ∨ 48 ≤ n → v.getLsbD n = u.getLsbD n := by
  have hbit (n : ℕ) : (v &&& ~~~Usage.externalDisp).getLsbD n =
      (v.getLsbD n && decide (n ≠ 13)) := by
    rw [BitVec.getLsbD_and, BitVec.getLsbD_not, getLsbD_externalDisp]
    by_cases hn : n < 64
    · simp [hn]
    · rw [BitVec.getLsbD_of_ge v n (not_lt.mp hn), Bool.false_and, Bool.false_and]
  rw [and_eq_right_iff, and_eq_and_iff]
  simp only [hbit, Bool.and_eq_true, decide_eq_true_eq]
  refine and_congr ⟨fun h n hne hv => h n ⟨hv, hne⟩, fun h n hv => h n hv.2 hv.1⟩ ?_
  constructor
  · intro h n hn
    by_cases hlt : n < 64
    · have hne : n ≠ 13 := by omega
      have hsame := h n ((getLsbD_mustMatchMask hlt).trans (decide_eq_true hn))
      rw [decide_eq_true hne, Bool.and_true] at hsame
      exact hsame.symm
    · rw [BitVec.getLsbD_of_ge v n (not_lt.mp hlt), BitVec.getLsbD_of_ge u n (not_lt.mp hlt)]
  · intro h n hn
    have hlt : n < 64 := by
      by_contra hge
      rw [BitVec.getLsbD_of_ge _ n (not_lt.mp hge)] at hn
      cases hn
    rw [getLsbD_mustMatchMask hlt] at hn
    have hmask := of_decide_eq_true hn
    have hne : n ≠ 13 := by omega
    rw [decide_eq_true hne, Bool.and_true, h n hmask]

/-! The handle of a request has what was requested, as `int`s. -/

theorem ofInt_toInt_toNat (w : BitVec 32) : BitVec.ofInt 32 (toInt w.toNat) = w :=
  (congrArg _ (BitVec.toInt_eq_toNat_bmod w).symm).trans BitVec.ofInt_toInt

/-- What a handle is compared with. -/
structure Records (info : BufferDescriptorInfo) (ph : PrivateHandle) : Prop where
  width : BitVec.ofInt 32 ph.width = info.width
  height : BitVec.ofInt 32 ph.height = info.height
  layerCount : BitVec.ofInt 32 ph.layerCount = info.layerCount
  reqFormat : ph.reqFormat = info.format.toInt
  usage : ph.producerUsage ||| ph.consumerUsage = info.usage

theorem DerivedImport.records (h : DerivedImport p node flags info r hnd) :
    Records info hnd.toPrivateHandle := by
  obtain ⟨hw, hh, hl, hformat, hproducer, hconsumer⟩ := request_of_derive h.derive
  have hph : hnd.toPrivateHandle =
      { partialHandle r with size := toInt (r.final p.displays).size } := by
    rw [h.eq_importOf]
    rfl
  rw [hph]
  refine ⟨?_, ?_, ?_, ?_, ?_⟩
  · rw [partialHandle_width, hw, ofInt_toInt_toNat]
  · rw [partialHandle_height, hh, ofInt_toInt_toNat]
  · rw [partialHandle_layerCount, hl, ofInt_toInt_toNat]
  · rw [partialHandle_reqFormat, hformat, toInt_toNat_congr (truncate_signExtend info.format),
      BitVec.toNat_setWidth_of_le (by decide)]
    exact (BitVec.toInt_eq_toNat_bmod info.format).symm
  · show r.producerUsage ||| r.consumerUsage = info.usage
    rw [hproducer, hconsumer, BitVec.or_self]

/-- **What is accepted for a buffer**: the descriptors that stay within its request, with its own
stride if one is given. -/
theorem Records.validateBufferSize_iff {ph : PrivateHandle} (h : Records info ph)
    (hvalid : validateDescriptorInfo info = true) :
    validateBufferSize (some ph) info' inStride = .none ↔
      Within info info' ∧ (inStride = 0#32 ∨ inStride = BitVec.ofInt 32 ph.stride) := by
  unfold validateBufferSize
  simp only [h.width, h.height, h.layerCount, h.usage, h.reqFormat]
  constructor
  · intro hnone
    split_ifs at hnone with h₀ h₁ h₂ h₃ h₄ h₅ h₆ h₇
    obtain ⟨husage, hsame⟩ := (usage_iff _ _).mp ⟨not_not.mp h₄, not_not.mp h₅⟩
    refine ⟨⟨(not_not.mp h₁).symm, (not_not.mp h₂).symm, (not_not.mp h₃).symm,
      (BitVec.eq_of_toInt_eq (not_not.mp h₇)).symm, husage, hsame⟩, ?_⟩
    by_cases hzero : inStride = 0#32
    · exact Or.inl hzero
    · exact Or.inr (not_not.mp fun hne => h₆ ⟨hzero, Ne.symm hne⟩)
  · rintro ⟨hin, hstride⟩
    have hvalid' : validateDescriptorInfo info' = true := by
      rw [← hvalid]
      simp only [validateDescriptorInfo, hin.width, hin.height, hin.layerCount, hin.format]
    obtain ⟨husage, hsame⟩ := (usage_iff _ _).mpr ⟨hin.usage, hin.same⟩
    have hstride' : ¬(inStride ≠ 0#32 ∧ BitVec.ofInt 32 ph.stride ≠ inStride) := by
      rintro ⟨hzero, hne⟩
      exact hstride.elim hzero fun heq => hne heq.symm
    rw [if_neg (not_not.mpr hvalid'), if_neg (not_not.mpr hin.width.symm),
      if_neg (not_not.mpr hin.height.symm), if_neg (not_not.mpr hin.layerCount.symm),
      if_neg (not_not.mpr husage), if_neg (not_not.mpr hsame), if_neg hstride',
      if_neg (not_not.mpr (congrArg BitVec.toInt hin.format.symm))]

end

end Hidl

end Gralloc
