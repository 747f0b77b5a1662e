import Gralloc.Format.Compatible

/-!
# The type of a format's data

Two functions say which type the components of a base format have. Formats that are selected take
it from the entry of the table (`Gralloc.calcFormatDataType`), formats that are forced from the
bits of the request (`Gralloc.InternalFormat.fromPrivate`). A client that reads the type of a
buffer's data should not see which of the two was asked.

It sees it of one format. The entry of `DEPTH_32F` is of floats, and a request that spells it out
is not (`Gralloc.dataType_selectForcedFormat_iff`).
-/

namespace Gralloc

/-! ### Bases of forced formats -/

/-- A base that stands for `DEPTH_32F` is that. -/
theorem getInternalFormat_eq_depth32f_iff {b : PixelFormat} :
    getInternalFormat b = .depth32f ↔ b = .depth32f := by
  constructor
  · intro h
    have hentries : halToInternalFormat.all (fun e => e.2 != .depth32f || e.1 == .depth32f) =
        true := by decide
    unfold getInternalFormat at h
    extract_lets internalFormat at h
    have hinternal : internalFormat = .depth32f := by
      split_ifs at h
      · exact h
      · exact absurd h (by decide)
    simp only [internalFormat] at hinternal
    split at hinternal
    · rename_i e he
      have hkey : e.1 = b := by simpa using List.find?_some he
      have hentry := List.all_eq_true.mp hentries e (List.mem_of_find?_eq_some he)
      rw [hinternal, bne_self_eq_false, Bool.false_or, beq_iff_eq] at hentry
      rw [← hkey]
      exact hentry
    · exact hinternal
  · rintro rfl
    decide

/-- What is accepted of a private request: the base it stands for, with its modifiers. -/
theorem selectForcedFormat_of_isUndefined {reqFormat : BitVec 32}
    (h : (selectForcedFormat reqFormat).isUndefined = false) :
    ∃ f, getFormatInfo (getInternalFormat (InternalFormat.fromPrivate reqFormat).getBase) = some f ∧
      selectForcedFormat reqFormat =
        .fromPrivate (f.id ||| (InternalFormat.fromPrivate reqFormat).modifiers) := by
  unfold selectForcedFormat at h ⊢
  dsimp only at h ⊢
  split at h
  · exact absurd h (by decide)
  rename_i f hf
  rcases of_ite_invalid h with ⟨h₁, h⟩
  split_ifs at h with hmodifiers
  · refine ⟨f, hf, ?_⟩
    rw [h₁, if_pos hmodifiers, id_of_getFormatInfo hf]
  · exact absurd h (by decide)

/-- The base of a code with other modifiers. -/
theorem getBase_fromPrivate_or {b : PixelFormat} (hb : b &&& Modifiers.fmtMask = b) {m : Modifiers}
    (hm : m &&& Modifiers.fmtMask = 0#32) : (InternalFormat.fromPrivate (b ||| m)).getBase = b := by
  have hs : ~~~Modifiers.sentinel &&& Modifiers.fmtMask = Modifiers.fmtMask := by decide
  simp only [InternalFormat.getBase, InternalFormat.fromPrivate, InternalFormat.ofValue,
    BitVec.and_assoc, hs, BitVec.and_or_distrib_right, hb, hm, BitVec.or_zero]

theorem modifiers_fromPrivate_and_fmtMask (v : BitVec 32) :
    (InternalFormat.fromPrivate v).modifiers &&& Modifiers.fmtMask = 0#32 := by
  have hm : Modifiers.extMask &&& Modifiers.fmtMask = 0#32 := by decide
  rw [InternalFormat.fromPrivate, InternalFormat.ofValue, BitVec.and_assoc, hm, BitVec.and_zero]

/-! ### The two functions -/

/-- **The bits and the table agree** on every entry but one. -/
theorem dataType_fromPrivate_iff {f : FormatInfo} {m : Modifiers}
    (hf : f.id &&& Modifiers.fmtMask = f.id) (hm : m &&& Modifiers.fmtMask = 0#32) :
    (InternalFormat.fromPrivate (f.id ||| m)).dataType = calcFormatDataType f ↔
      f.id ≠ .depth32f := by
  have hbase : (f.id ||| m) &&& Modifiers.fmtMask = f.id := by
    rw [BitVec.and_or_distrib_right, hf, hm, BitVec.or_zero]
  simp only [InternalFormat.fromPrivate, InternalFormat.ofValue, hbase, calcFormatDataType]
  by_cases hdepth : f.id = .depth32f
  · rw [hdepth]
    decide
  · have hne : (f.id == PixelFormat.depth32f) = false := beq_eq_false_iff_ne.mpr hdepth
    rw [hne]
    exact iff_of_true rfl hdepth

/-- What is selected has the type of its entry, also where the product forces a format. -/
theorem dataType_selectBestFormat {caps : Capabilities} {reqFormat : BitVec 32}
    {descriptorFlags : DescriptorFlags} {usage : Usage}
    (h : (selectBestFormat caps reqFormat descriptorFlags usage).isUndefined = false) :
    ∃ f, (selectBestFormat caps reqFormat descriptorFlags usage).getBaseInfo = some f ∧
      (selectBestFormat caps reqFormat descriptorFlags usage).dataType = calcFormatDataType f := by
  rcases selectBestFormat_of_isUndefined h with ⟨req, s, hreq, hs, ⟨-, hfound⟩ | ⟨-, hforced, -⟩⟩
  · rw [hfound] at h ⊢
    have hmem : s.req ∈ formats := by
      rw [hs]
      exact mem_formats_of_getFormatInfo hreq
    rcases FormatSearch.exists_candidate_found hmem h with ⟨f, hf, hc⟩
    rcases FormatSearch.candidate_eq_some_iff.mp hc with ⟨-, hsupported, -⟩
    exact ⟨f, getBaseInfo_of_getBase hf (getBase_of_getSupportedFormat hf hsupported),
      (sameBase_of_getSupportedFormat hf hsupported).2⟩
  · rw [hforced]
    exact ⟨_, rfl, by decide⟩

/-- **Forced formats have the type of their entry** exactly if that is not `DEPTH_32F`. Only then
does a selected format of the same base have the same type. -/
theorem dataType_selectForcedFormat_iff {reqFormat : BitVec 32}
    (h : (selectForcedFormat reqFormat).isUndefined = false) :
    ((∃ f, (selectForcedFormat reqFormat).getBaseInfo = some f ∧
        (selectForcedFormat reqFormat).dataType = calcFormatDataType f) ↔
      (InternalFormat.fromPrivate reqFormat).getBase ≠ .depth32f) ∧
    ∀ caps reqFormat' descriptorFlags usage,
      (selectBestFormat caps reqFormat' descriptorFlags usage).isUndefined = false →
      (selectBestFormat caps reqFormat' descriptorFlags usage).getBase =
        (selectForcedFormat reqFormat).getBase →
      ((selectForcedFormat reqFormat).dataType =
          (selectBestFormat caps reqFormat' descriptorFlags usage).dataType ↔
        (InternalFormat.fromPrivate reqFormat).getBase ≠ .depth32f) := by
  rcases selectForcedFormat_of_isUndefined h with ⟨f, hf, heq⟩
  have hmem := mem_formats_of_getFormatInfo hf
  have hid := id_of_getFormatInfo hf
  have hmask := and_fmtMask_of_mem_formats f hmem
  have hmodifiers := modifiers_fromPrivate_and_fmtMask reqFormat
  have hbase : (selectForcedFormat reqFormat).getBase = f.id := by
    rw [heq, getBase_fromPrivate_or hmask hmodifiers]
  have hinfo : (selectForcedFormat reqFormat).getBaseInfo = some f :=
    getBaseInfo_of_getBase hmem hbase
  have htype : (selectForcedFormat reqFormat).dataType = calcFormatDataType f ↔
      (InternalFormat.fromPrivate reqFormat).getBase ≠ .depth32f := by
    rw [heq, dataType_fromPrivate_iff hmask hmodifiers, hid, ne_eq,
      getInternalFormat_eq_depth32f_iff]
  refine ⟨?_, ?_⟩
  · rw [← htype, hinfo]
    constructor
    · rintro ⟨g, hg, hdata⟩
      rw [← Option.some.inj hg] at hdata
      exact hdata
    · intro hdata
      exact ⟨f, rfl, hdata⟩
  · intro caps reqFormat' descriptorFlags usage hbest hsame
    rcases dataType_selectBestFormat hbest with ⟨g, hg, hdata⟩
    rw [getBaseInfo_of_getBase hmem (hsame.trans hbase)] at hg
    rw [hdata, ← Option.some.inj hg, htype]

/-- A forced `RGBA_FP16` in AFBC. -/
theorem dataType_selectForcedFormat_iff_rgba16161616 :
    ∃ f, (selectForcedFormat 0x18016#32).getBaseInfo = some f ∧
      (selectForcedFormat 0x18016#32).dataType = calcFormatDataType f :=
  (dataType_selectForcedFormat_iff (by decide)).1.mpr (by decide)

/-- **A forced `DEPTH_32F`** is of normalised integers, and a selected one of floats. -/
theorem not_dataType_selectForcedFormat_depth32f :
    (selectForcedFormat 0x8033#32).isUndefined = false ∧
      formatIsPrivate 0x8033#32 = true ∧
      (selectForcedFormat 0x8033#32).dataType = .unorm ∧
      (selectForcedFormat 0x8033#32).getBaseInfo.map calcFormatDataType = some .sfloat ∧
      selectBestFormat { Capabilities.gpuOnly with gpu := [(.formatDepthStencil, .rw)] }
        Hal.depth32f 0#32 Usage.hwRender = ⟨.sfloat, .depth32f, 0#32⟩ := by
  decide +kernel

end Gralloc
