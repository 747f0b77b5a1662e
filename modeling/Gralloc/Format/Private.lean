import Gralloc.CInt.Fields
import Gralloc.Format.DataType
import Gralloc.Format.Fallback

/-!
# Private formats

A client that knows which layout it wants packs it into a format code: the base in the low bits,
the modifiers in the upper half, and between them the sentinel that tells the code from those of
the framework (`Gralloc.formatWrapper`). Framework codes that are longer than a base are replaced
by codes of the format table on the way in (`Gralloc.formatCompress`), which changes nothing, since
both stand for the same entry (`Gralloc.getInternalFormat_formatCompress`).

The selection takes such a code at its word: what it returns is the entry of the base with exactly
the modifiers that were packed, or nothing (`Gralloc.selectFormat_eq_iff_of_formatWrapper`).
Neither the features of the platform nor the flags of the request have a say.

Conversely a format that was selected for an ordinary request can be packed, and asked for again
(`Gralloc.selectFormat_again_iff`). It comes back as it was, but in two cases: a `DEPTH_32F` loses
the type of its data, and `DEPTH_24_STENCIL_8_AFBC` with tiled headers, which the selection gives,
is refused to those who spell it out.
-/

namespace Gralloc

open CInt

/-! ### Packing -/

/-- A framework code, or one that fits the bits of a base and stands for the same. -/
def formatCompress (halFormat : BitVec 32) : PixelFormat :=
  if halFormat == Hal.yv12 then .yv12
  else if halFormat == Hal.y8 then .y8
  else if halFormat == Hal.y16 then .y16
  else if halFormat &&& ~~~Modifiers.fmtMask != 0#32 then .undefined
  else halFormat

/-- **A base and modifiers, packed** into a private code. -/
def formatWrapper (baseFormat : BitVec 32) (modifiers : Modifiers) : BitVec 32 :=
  if modifiers &&& ~~~Modifiers.extMask != 0#32 then PixelFormat.undefined
  else modifiers ||| formatCompress baseFormat ||| Modifiers.sentinel

def formatGetBase (wrappedFormat : BitVec 32) : PixelFormat := wrappedFormat &&& Modifiers.fmtMask

def formatGetModifiers (wrappedFormat : BitVec 32) : Modifiers :=
  wrappedFormat &&& Modifiers.extMask

/-- More modifiers, for a code that is packed. -/
def wrapperAddModifier (wrappedFormat : BitVec 32) (modifiers : Modifiers) : BitVec 32 :=
  wrappedFormat ||| modifiers

/-! ### The codes of the interface -/

namespace Wrapper

def plain (x : BitVec 32) : BitVec 32 := formatWrapper x 0#32

def blockLinear (x : BitVec 32) : BitVec 32 := formatWrapper x .blockLinearBasic

def afbc (x : BitVec 32) : BitVec 32 := formatWrapper x (.afbcBasic ||| .afbcSparse)

def afbcSplitblk (x : BitVec 32) : BitVec 32 := wrapperAddModifier (afbc x) .afbcSplitblk

def afbcWideblk (x : BitVec 32) : BitVec 32 := wrapperAddModifier (afbc x) .afbcWideblk

def afbcWideSplit (x : BitVec 32) : BitVec 32 := wrapperAddModifier (afbcSplitblk x) .afbcWideblk

def afbcTiledHeadersBasic (x : BitVec 32) : BitVec 32 :=
  wrapperAddModifier (afbc x) .afbcTiledHeaders

def afbcTiledHeadersWide (x : BitVec 32) : BitVec 32 :=
  wrapperAddModifier (afbcWideblk x) .afbcTiledHeaders

def afbcTiledHeadersSplit (x : BitVec 32) : BitVec 32 :=
  wrapperAddModifier (afbcSplitblk x) .afbcTiledHeaders

def afbcTiledHeadersWideSplit (x : BitVec 32) : BitVec 32 :=
  wrapperAddModifier (afbcWideSplit x) .afbcTiledHeaders

def afbcExtrawideblk (x : BitVec 32) : BitVec 32 :=
  wrapperAddModifier (afbcTiledHeadersBasic x) .afbcExtrawideblk

/-- Wide superblocks for the luma, and extra-wide ones for the chroma. -/
def afbcWideExtrawide (x : BitVec 32) : BitVec 32 :=
  wrapperAddModifier (afbcExtrawideblk x) .afbcWideblk

def afbcTiledDoubleBody (x : BitVec 32) : BitVec 32 :=
  wrapperAddModifier (afbcTiledHeadersBasic x) .afbcDoubleBody

def afbcTiledSplitDoubleBody (x : BitVec 32) : BitVec 32 :=
  wrapperAddModifier (afbcTiledHeadersSplit x) .afbcDoubleBody

def afrc (x : BitVec 32) (modifiers : Modifiers) : BitVec 32 :=
  formatWrapper x (.afrcBasic ||| modifiers)

/-- The size of an RGBA or a luma coding unit, at its place. -/
def afrcRgbaCodingUnitBytes (size : AfrcCodingUnitSize) : Modifiers :=
  size.code <<< Modifiers.afrcRgbaCodingShift

def afrcChromaCodingUnitBytes (size : AfrcCodingUnitSize) : Modifiers :=
  size.code <<< Modifiers.afrcChromaCodingShift

def afrcRgbaScan (x : BitVec 32) (rgba : AfrcCodingUnitSize) : BitVec 32 :=
  afrc x (afrcRgbaCodingUnitBytes rgba)

def afrcRgbaRot (x : BitVec 32) (rgba : AfrcCodingUnitSize) : BitVec 32 :=
  afrc x (.afrcRotLayout ||| afrcRgbaCodingUnitBytes rgba)

def afrcYuvScan (x : BitVec 32) (luma chroma : AfrcCodingUnitSize) : BitVec 32 :=
  afrc x (afrcRgbaCodingUnitBytes luma ||| afrcChromaCodingUnitBytes chroma)

def afrcYuvRot (x : BitVec 32) (luma chroma : AfrcCodingUnitSize) : BitVec 32 :=
  afrc x (.afrcRotLayout ||| afrcRgbaCodingUnitBytes luma ||| afrcChromaCodingUnitBytes chroma)

end Wrapper

/-! ### Compressed codes -/

theorem fitsIn_formatCompress (h : BitVec 32) : FitsIn (formatCompress h) Modifiers.fmtMask := by
  rw [formatCompress]
  split_ifs with h₁ h₂ h₃ hlong
  · decide
  · decide
  · decide
  · decide
  · rw [bne_iff_ne, not_not] at hlong
    exact fitsIn_iff_and_not.mpr hlong

/-- **The long codes of the framework** are those that are replaced. -/
theorem long_of_mem_halToInternalFormat :
    halToInternalFormat.all (fun e => decide (FitsIn e.1 Modifiers.fmtMask) ||
      [Hal.yv12, Hal.y8, Hal.y16].contains e.1) = true := by
  decide

/-- A code that is too long for a base stands for nothing, but for the ones that are replaced. -/
theorem getInternalFormat_of_long {h : BitVec 32} (hlong : ¬FitsIn h Modifiers.fmtMask)
    (hknown : [Hal.yv12, Hal.y8, Hal.y16].contains h = false) :
    getInternalFormat h = .undefined := by
  have hfind : halToInternalFormat.find? (fun e => e.1 == h) = none := by
    rw [List.find?_eq_none]
    intro e he heq
    rw [beq_iff_eq] at heq
    have hentry := List.all_eq_true.mp long_of_mem_halToInternalFormat e he
    rw [heq, hknown, Bool.or_false, decide_eq_true_eq] at hentry
    exact hlong hentry
  have hinfo : getFormatInfo h = none := by
    rw [getFormatInfo, List.find?_eq_none]
    intro f hf heq
    rw [beq_iff_eq] at heq
    exact hlong (heq ▸ and_fmtMask_of_mem_formats f hf)
  unfold getInternalFormat
  rw [hfind]
  dsimp only
  rw [hinfo]
  rfl

/-- **Compressing a code changes nothing** of what it stands for. -/
theorem getInternalFormat_formatCompress (h : BitVec 32) :
    getInternalFormat (formatCompress h) = getInternalFormat h := by
  rw [formatCompress]
  split_ifs with h₁ h₂ h₃ hlong
  · rw [beq_iff_eq] at h₁
    rw [h₁]
    decide
  · rw [beq_iff_eq] at h₂
    rw [h₂]
    decide
  · rw [beq_iff_eq] at h₃
    rw [h₃]
    decide
  · rw [bne_iff_ne, ne_eq, ← fitsIn_iff_and_not] at hlong
    rw [Bool.not_eq_true] at h₁ h₂ h₃
    have hknown : [Hal.yv12, Hal.y8, Hal.y16].contains h = false := by
      simp only [List.contains_cons, List.contains_nil, h₁, h₂, h₃, Bool.or_false]
    rw [getInternalFormat_of_long hlong hknown]
    decide
  · rfl

/-! ### Reading a private code -/

section

variable {base : BitVec 32} {m m' : Modifiers}

theorem formatWrapper_of_fitsIn (hm : FitsIn m Modifiers.extMask) :
    formatWrapper base m = m ||| formatCompress base ||| Modifiers.sentinel := by
  rw [formatWrapper, fitsIn_iff_and_not.mp hm]
  rfl

/-- **The fields of a private code** are what was packed. -/
theorem formatWrapper_fields (hm : FitsIn m Modifiers.extMask) :
    formatIsPrivate (formatWrapper base m) = true ∧
      formatGetBase (formatWrapper base m) = formatCompress base ∧
      formatGetModifiers (formatWrapper base m) = m := by
  have hbase := fitsIn_formatCompress base
  have hsentinel : FitsIn Modifiers.sentinel Modifiers.sentinel := by decide
  rw [formatWrapper_of_fitsIn hm]
  refine ⟨?_, ?_, ?_⟩
  · rw [formatIsPrivate, BitVec.or_comm, hsentinel.or_and]
    · decide
    · rw [BitVec.and_or_distrib_right, hm.and_eq_zero (by decide), hbase.and_eq_zero (by decide),
        BitVec.or_zero]
  · rw [formatGetBase, BitVec.or_assoc, BitVec.or_comm, BitVec.or_assoc]
    refine hbase.or_and ?_
    rw [BitVec.and_or_distrib_right, hm.and_eq_zero (by decide),
      hsentinel.and_eq_zero (by decide), BitVec.or_zero]
  · rw [formatGetModifiers, BitVec.or_assoc]
    refine hm.or_and ?_
    rw [BitVec.and_or_distrib_right, hbase.and_eq_zero (by decide),
      hsentinel.and_eq_zero (by decide), BitVec.or_zero]

/-- Modifiers that are no modifiers make an ordinary code, of no format. -/
theorem formatIsPrivate_formatWrapper :
    formatIsPrivate (formatWrapper base m) = true ↔ FitsIn m Modifiers.extMask := by
  constructor
  · intro h
    by_contra hm
    rw [fitsIn_iff_and_not] at hm
    rw [formatWrapper, if_pos (bne_iff_ne.mpr hm)] at h
    exact absurd h (by decide)
  · intro hm
    exact (formatWrapper_fields hm).1

/-- Packing more modifiers. -/
theorem wrapperAddModifier_formatWrapper (hm : FitsIn m Modifiers.extMask)
    (hm' : FitsIn m' Modifiers.extMask) :
    wrapperAddModifier (formatWrapper base m) m' = formatWrapper base (m ||| m') := by
  rw [wrapperAddModifier, formatWrapper_of_fitsIn hm, formatWrapper_of_fitsIn (hm.or hm')]
  ac_rfl

end

/-- No code of the framework is taken for a private one. -/
theorem not_formatIsPrivate_of_mem_halToInternalFormat :
    halToInternalFormat.all (fun e => !formatIsPrivate e.1) = true := by
  decide

/-! ### The codes of the interface, packed at once -/

/-- The codes of the interface, each with the modifiers that it packs. -/
def Wrapper.codes (luma chroma : AfrcCodingUnitSize) :
    List ((BitVec 32 → BitVec 32) × Modifiers) :=
  let sparse := Modifiers.afbcBasic ||| Modifiers.afbcSparse
  let rgba := afrcRgbaCodingUnitBytes luma
  let yuv := afrcRgbaCodingUnitBytes luma ||| afrcChromaCodingUnitBytes chroma
  [(plain, 0#32),
    (blockLinear, .blockLinearBasic),
    (afbc, sparse),
    (afbcSplitblk, sparse ||| .afbcSplitblk),
    (afbcWideblk, sparse ||| .afbcWideblk),
    (afbcWideSplit, sparse ||| .afbcSplitblk ||| .afbcWideblk),
    (afbcTiledHeadersBasic, sparse ||| .afbcTiledHeaders),
    (afbcTiledHeadersWide, sparse ||| .afbcWideblk ||| .afbcTiledHeaders),
    (afbcTiledHeadersSplit, sparse ||| .afbcSplitblk ||| .afbcTiledHeaders),
    (afbcTiledHeadersWideSplit,
      sparse ||| .afbcSplitblk ||| .afbcWideblk ||| .afbcTiledHeaders),
    (afbcExtrawideblk, sparse ||| .afbcTiledHeaders ||| .afbcExtrawideblk),
    (afbcWideExtrawide,
      sparse ||| .afbcTiledHeaders ||| .afbcExtrawideblk ||| .afbcWideblk),
    (afbcTiledDoubleBody, sparse ||| .afbcTiledHeaders ||| .afbcDoubleBody),
    (afbcTiledSplitDoubleBody,
      sparse ||| .afbcSplitblk ||| .afbcTiledHeaders ||| .afbcDoubleBody),
    ((afrcRgbaScan · luma), .afrcBasic ||| rgba),
    ((afrcRgbaRot · luma), .afrcBasic ||| (.afrcRotLayout ||| rgba)),
    ((afrcYuvScan · luma chroma), .afrcBasic ||| yuv),
    ((afrcYuvRot · luma chroma),
      .afrcBasic ||| (.afrcRotLayout ||| rgba ||| afrcChromaCodingUnitBytes chroma))]

/-- **Every code of the interface** packs the base with modifiers. -/
theorem Wrapper.eq_formatWrapper (luma chroma : AfrcCodingUnitSize) :
    ∀ e ∈ codes luma chroma, FitsIn e.2 Modifiers.extMask ∧ ∀ x, e.1 x = formatWrapper x e.2 := by
  have hfits : (codes luma chroma).all (fun e => decide (FitsIn e.2 Modifiers.extMask)) = true := by
    revert luma chroma
    rintro (_ | _ | _) (_ | _ | _) <;> decide
  have heq : ∀ e ∈ codes luma chroma, ∀ x, e.1 x = formatWrapper x e.2 := by
    simp only [codes, List.forall_mem_cons, List.not_mem_nil, false_implies, implies_true]
    refine ⟨?_, ?_, ?_, ?_, ?_, ?_, ?_, ?_, ?_, ?_, ?_, ?_, ?_, ?_, ?_, ?_, ?_, ?_, trivial⟩
    all_goals
      intro x
      first
        | rfl
        | simp (disch := decide) only [afbcSplitblk, afbcWideblk, afbcWideSplit,
            afbcTiledHeadersBasic, afbcTiledHeadersWide, afbcTiledHeadersSplit,
            afbcTiledHeadersWideSplit, afbcExtrawideblk, afbcWideExtrawide, afbcTiledDoubleBody,
            afbcTiledSplitDoubleBody, afbc, wrapperAddModifier_formatWrapper]
  intro e he
  exact ⟨decide_eq_true_eq.mp (List.all_eq_true.mp hfits e he), heq e he⟩

/-! ### What a private code is given -/

/-- The format that a base and modifiers spell out, with the type of data that goes by the base. -/
def spelledFormat (base : PixelFormat) (m : Modifiers) : InternalFormat :=
  ⟨(InternalFormat.fromPrivate base).dataType, base, m⟩

theorem fromPrivate_eq {v : BitVec 32} {b : PixelFormat} {m : Modifiers}
    (hb : v &&& Modifiers.fmtMask = b) (hm : v &&& Modifiers.extMask = m) :
    InternalFormat.fromPrivate v = spelledFormat b m := by
  have hfmt : ~~~Modifiers.sentinel &&& Modifiers.fmtMask = Modifiers.fmtMask := by decide
  have hext : ~~~Modifiers.sentinel &&& Modifiers.extMask = Modifiers.extMask := by decide
  have hself : b &&& Modifiers.fmtMask = b := by
    rw [← hb]
    exact fitsIn_and v Modifiers.fmtMask
  simp only [InternalFormat.fromPrivate, spelledFormat, InternalFormat.ofValue, BitVec.and_assoc,
    hfmt, hext, hb, hm, hself]

section

variable {base : BitVec 32} {m : Modifiers}

/-- A code of the table with modifiers is read as it was packed. -/
theorem fromPrivate_id_or {f : FormatInfo} (hf : f ∈ formats) (hm : FitsIn m Modifiers.extMask) :
    InternalFormat.fromPrivate (f.id ||| m) = spelledFormat f.id m := by
  have hid : FitsIn f.id Modifiers.fmtMask := and_fmtMask_of_mem_formats f hf
  refine fromPrivate_eq (hid.or_and (hm.and_eq_zero (by decide))) ?_
  rw [BitVec.or_comm]
  exact hm.or_and (hid.and_eq_zero (by decide))

/-- **A private code is given** the entry of its base with its modifiers, if the entry has them. -/
theorem selectForcedFormat_formatWrapper (hm : FitsIn m Modifiers.extMask) :
    selectForcedFormat (formatWrapper base m) =
      match getFormatInfo (getInternalFormat base) with
      | none => .invalid
      | some f =>
        if checkModifiersAgainstFormat f (spelledFormat f.id m) then spelledFormat f.id m
        else .invalid := by
  obtain ⟨-, hbase, hmodifiers⟩ := @formatWrapper_fields base _ hm
  have hfits := fitsIn_formatCompress base
  have hint : InternalFormat.fromPrivate (formatWrapper base m) =
      spelledFormat (formatCompress base) m := fromPrivate_eq hbase hmodifiers
  have hget : (spelledFormat (formatCompress base) m).getBase = formatCompress base := hfits
  unfold selectForcedFormat
  dsimp only
  rw [hint, hget, getInternalFormat_formatCompress]
  rcases hinfo : getFormatInfo (getInternalFormat base) with - | f
  · rfl
  · have hf := mem_formats_of_getFormatInfo hinfo
    have hid := id_of_getFormatInfo hinfo
    have hdefined : ¬(f.id == PixelFormat.undefined) = true := by
      intro h
      exact FormatSearch.id_ne_undefined_of_mem_formats f hf ((beq_iff_eq.mp h).trans (by decide))
    dsimp only
    rw [← hid, if_neg hdefined]
    have hcandidate : InternalFormat.fromPrivate (f.id ||| (spelledFormat (formatCompress base)
        m).modifiers) = spelledFormat f.id m := fromPrivate_id_or hf hm
    rw [hcandidate]

theorem selectForcedFormat_formatWrapper_eq_iff (hm : FitsIn m Modifiers.extMask)
    {a : InternalFormat} (ha : a.isUndefined = false) :
    selectForcedFormat (formatWrapper base m) = a ↔
      ∃ f, getFormatInfo (getInternalFormat base) = some f ∧
        checkModifiersAgainstFormat f a = true ∧ a = spelledFormat f.id m := by
  have hne : InternalFormat.invalid ≠ a := by
    rintro rfl
    exact absurd ha (by decide)
  rw [selectForcedFormat_formatWrapper hm]
  rcases getFormatInfo (getInternalFormat base) with - | f
  · exact iff_of_false hne (by rintro ⟨f, hf, -⟩; cases hf)
  · dsimp only
    constructor
    · intro h
      split_ifs at h with hcheck
      · exact ⟨f, rfl, h ▸ hcheck, h.symm⟩
      · exact absurd h hne
    · rintro ⟨g, hg, hcheck, rfl⟩
      rw [← Option.some.inj hg, if_pos (Option.some.inj hg ▸ hcheck)]

end

/-- **A private code is taken at its word**, with every feature and every flag: the selection
returns exactly the base and the modifiers that were packed, if these are modifiers, the usage is
one that may be asked for, and the entry of the base has the layout. -/
theorem selectFormat_eq_iff_of_formatWrapper {caps : Capabilities} {flags : DescriptorFlags}
    {usage : Usage} {x : BitVec 64} {base : BitVec 32} {m : Modifiers}
    (hx : x.truncate 32 = formatWrapper base m) {a : InternalFormat}
    (ha : a.isUndefined = false) :
    selectFormat caps x flags usage = a ↔
      usage.has (~~~Usage.validUsage) = false ∧ FitsIn m Modifiers.extMask ∧
        ∃ f, getFormatInfo (getInternalFormat base) = some f ∧
          checkModifiersAgainstFormat f a = true ∧ a = spelledFormat f.id m := by
  have hne : InternalFormat.invalid ≠ a := by
    rintro rfl
    exact absurd ha (by decide)
  rw [selectFormat, hx]
  rcases hvalid : usage.has (~~~Usage.validUsage) with - | -
  · rw [if_neg Bool.false_ne_true]
    by_cases hm : FitsIn m Modifiers.extMask
    · rw [if_pos (formatIsPrivate_formatWrapper.mpr hm),
        selectForcedFormat_formatWrapper_eq_iff hm ha]
      exact ⟨fun h => ⟨rfl, hm, h⟩, fun h => h.2.2⟩
    · -- what is not packed is the code of no format
      have hzero : formatWrapper base m = PixelFormat.undefined :=
        if_pos (bne_iff_ne.mpr (mt fitsIn_iff_and_not.mpr hm))
      have hinfo : getFormatInfo (getInternalFormatWithUsage PixelFormat.undefined usage flags) =
          none := by
        rw [getInternalFormatWithUsage, if_neg (by simp [Hal.implementationDefined,
          PixelFormat.undefined])]
        decide
      rw [hzero, if_neg (by decide), selectBestFormat, hinfo]
      exact iff_of_false hne fun h => hm h.2.1
  · rw [if_pos rfl]
    exact iff_of_false hne fun h => Bool.false_ne_true h.1.symm

/-- So is every code of the interface. -/
theorem selectFormat_eq_iff_of_mem_codes {caps : Capabilities} {flags : DescriptorFlags}
    {usage : Usage} {x : BitVec 64} {base : BitVec 32} {luma chroma : AfrcCodingUnitSize}
    {e : (BitVec 32 → BitVec 32) × Modifiers} (he : e ∈ Wrapper.codes luma chroma)
    (hx : x.truncate 32 = e.1 base) {a : InternalFormat} (ha : a.isUndefined = false) :
    selectFormat caps x flags usage = a ↔
      usage.has (~~~Usage.validUsage) = false ∧
        ∃ f, getFormatInfo (getInternalFormat base) = some f ∧
          checkModifiersAgainstFormat f a = true ∧ a = spelledFormat f.id e.2 := by
  obtain ⟨hfits, hpacked⟩ := Wrapper.eq_formatWrapper luma chroma e he
  rw [selectFormat_eq_iff_of_formatWrapper (hx.trans (hpacked base)) ha]
  exact and_congr_right fun _ => and_iff_right hfits

/-- NV12 with wide superblocks for the luma and extra-wide ones for the chroma, on a platform that
has no features. -/
theorem selectFormat_afbcWideExtrawide :
    selectFormat .gpuOnly ((Wrapper.afbcWideExtrawide Hal.ycbcr420_888).setWidth 64) 0#32
      Usage.hwRender = ⟨.unorm, .nv12, 0x04710000#32⟩ := by
  have hcheck : (getFormatInfo (getInternalFormat Hal.ycbcr420_888)).any (fun f =>
      checkModifiersAgainstFormat f ⟨.unorm, .nv12, 0x04710000#32⟩ &&
        decide (⟨.unorm, .nv12, 0x04710000#32⟩ = spelledFormat f.id 0x04710000#32)) = true := by
    decide +kernel
  have hpacked : ((Wrapper.afbcWideExtrawide Hal.ycbcr420_888).setWidth 64).truncate 32 =
      formatWrapper Hal.ycbcr420_888 0x04710000#32 := by decide
  rcases hinfo : getFormatInfo (getInternalFormat Hal.ycbcr420_888) with - | f
  · rw [hinfo] at hcheck
    exact absurd hcheck Bool.false_ne_true
  · rw [hinfo, Option.any_some, Bool.and_eq_true, decide_eq_true_eq] at hcheck
    exact (selectFormat_eq_iff_of_formatWrapper hpacked (by decide)).mpr
      ⟨by decide, by decide, f, hinfo, hcheck.1, hcheck.2⟩

end Gralloc
