import Gralloc.Format.Internal

/-!
# Allocation types

Before a buffer is sized, its internal format is read as an *allocation type*: which
compression scheme is in use, and the geometry of that scheme. For AFBC this is the shape
of a superblock and the options of headers and body; for AFRC the size of a coding unit,
the clump of pixels it encodes in each plane and the tile of coding units that is paged
as a whole (`Gralloc.getAllocType`).

Not every combination of modifiers has an allocation type, and not every type suits every
format (`Gralloc.validateFormat`). What a type that passed both guarantees about its own
geometry is `Gralloc.AllocType.WellFormed`: the clumps and tiles come from a short list,
front-buffer safety and extra-wide superblocks imply tiled headers.
-/

namespace Gralloc

/-- The compression scheme. -/
inductive AllocBaseType where
  | uncompressed
  /-- Superblocks of 16 × 16. -/
  | afbc
  /-- Superblocks of 32 × 8. -/
  | afbcWideblk
  /-- Superblocks of 64 × 4. -/
  | afbcExtrawideblk
  | afrc
  | blockLinear
  deriving DecidableEq, Repr

/-- The geometry of AFRC. -/
structure AfrcType where
  rgbaLumaCodingUnitBytes : ℕ
  rgbaLumaPlaneAlignment : ℕ
  chromaCodingUnitBytes : ℕ
  chromaPlaneAlignment : ℕ
  /-- Clump dimensions of each plane, in pixels. -/
  clumpWidth : Planes ℕ
  clumpHeight : Planes ℕ
  /-- Paging tile dimensions, in coding units. -/
  pagingTileWidth : ℕ
  pagingTileHeight : ℕ
  deriving DecidableEq, Repr

/-- The geometry of a buffer that is not AFRC. -/
def AfrcType.none : AfrcType := ⟨0, 0, 0, 0, ⟨0, 0, 0⟩, ⟨0, 0, 0⟩, 0, 0⟩

/-- The allocation type. -/
structure AllocType where
  primaryType : AllocBaseType
  /-- AFBC chroma planes use extra-wide superblocks. -/
  isMultiPlane : Bool
  /-- AFBC headers are tiled. -/
  isTiled : Bool
  /-- The AFBC header stride is padded to 64 bytes. -/
  isPadded : Bool
  /-- There is a second AFBC body. -/
  isFrontbufferSafe : Bool
  afrc : AfrcType
  deriving DecidableEq, Repr

namespace AllocType

def isAfbc (t : AllocType) : Bool :=
  match t.primaryType with
  | .afbc | .afbcWideblk | .afbcExtrawideblk => true
  | _ => false

def isAfrc (t : AllocType) : Bool := t.primaryType == .afrc

def isBlockLinear (t : AllocType) : Bool := t.primaryType == .blockLinear

/-- None of the three schemes: the planes are plain rows. -/
def isLinear (t : AllocType) : Bool := !t.isAfbc && !t.isAfrc && !t.isBlockLinear

/-- The bytes of a coding unit of a plane. -/
def codingUnitBytes (t : AllocType) (plane : ℕ) : ℕ :=
  if plane = 0 then t.afrc.rgbaLumaCodingUnitBytes else t.afrc.chromaCodingUnitBytes

/-- The alignment of the start of a plane. -/
def planeAlignment (t : AllocType) (plane : ℕ) : ℕ :=
  if plane = 0 then t.afrc.rgbaLumaPlaneAlignment else t.afrc.chromaPlaneAlignment

end AllocType

/-- The width and height of a block, in pixels. -/
structure Rect where
  width : ℕ
  height : ℕ
  deriving DecidableEq, Repr

/-- The superblock of a scheme. -/
def getAfbcSbSizeOfBase : AllocBaseType → Rect
  | .afbc => ⟨16, 16⟩
  | .afbcWideblk => ⟨32, 8⟩
  | .afbcExtrawideblk => ⟨64, 4⟩
  | _ => ⟨0, 0⟩

/-- The superblock of a plane. -/
def getAfbcSbSize (t : AllocType) (f : FormatInfo) (plane : ℕ) : Rect :=
  if 0 < plane ∧ t.isAfbc ∧ t.isMultiPlane ∧ f.isYuv then getAfbcSbSizeOfBase .afbcExtrawideblk
  else getAfbcSbSizeOfBase t.primaryType

/-- The alignment a coding unit size imposes on its plane, `0` for no such size. -/
def afrcPlaneAlignmentRequirement (codingUnitSize : ℕ) : ℕ :=
  match codingUnitSize with
  | 16 => 1024
  | 24 => 512
  | 32 => 2048
  | _ => 0

/-- The pixels encoded by one coding unit, from the number of components. -/
def afrcClump (tileWidth tileHeight : ℕ) (ncmp : ℕ) : Option (ℕ × ℕ) :=
  match ncmp with
  | 1 => some (tileWidth, tileHeight)
  | 2 => some (8, 4)
  | 3 | 4 => some (4, 4)
  | _ => none

/-- The clumps of the first planes. -/
def afrcClumps (f : FormatInfo) (tileWidth tileHeight : ℕ) : ℕ → Option (Planes ℕ × Planes ℕ)
  | 0 => some (⟨0, 0, 0⟩, ⟨0, 0, 0⟩)
  | n + 1 => do
    let cs ← afrcClumps f tileWidth tileHeight n
    let c ← afrcClump tileWidth tileHeight (f.ncmp.get n)
    some (cs.1.set n c.1, cs.2.set n c.2)

/-- The superblock shape the modifiers ask for in the first plane. -/
def afbcPrimaryType (format : InternalFormat) : AllocBaseType :=
  if format.getAfbc32x8 then .afbcWideblk
  else if format.getAfbc64x4 then .afbcExtrawideblk
  else .afbc

/-- The planes are separate AFBC buffers. A YUV format falls back to a single one unless
its headers are tiled and its chroma superblocks extra-wide. -/
def afbcIsMultiPlane (f : FormatInfo) (format : InternalFormat) : Bool :=
  if format.getAfbcTiledHeaders then
    -- a warning of the source, not an error: validation rejects what is left
    if f.npln > 1 && !format.getAfbc64x4 && f.isYuv then false else decide (f.npln > 1)
  else if f.isYuv && f.npln > 1 then false
  else decide (f.npln > 1)

/-- The allocation type of an AFBC format. -/
def getAfbcAllocType (f : FormatInfo) (format : InternalFormat) (usage : Usage) :
    Option AllocType :=
  if format.getAfbc64x4 && !format.getAfbcTiledHeaders then none
  else if f.npln == 1 && format.getAfbc32x8 && format.getAfbc64x4 then none
  else some
    { primaryType := afbcPrimaryType format
      isMultiPlane := afbcIsMultiPlane f format
      isTiled := format.getAfbcTiledHeaders
      isPadded := usage.has Usage.afbcPadding
      isFrontbufferSafe := format.getAfbcTiledHeaders && format.getAfbcDoubleBody
      afrc := .none }

/-- The paging tile of an AFRC format, in coding units. -/
def afrcPagingTile (format : InternalFormat) : Rect :=
  if format.getAfrcRotLayout then ⟨8, 8⟩ else ⟨16, 4⟩

/-- The allocation type of an AFRC format. -/
def getAfrcAllocType (f : FormatInfo) (format : InternalFormat) : Option AllocType :=
  let tile := afrcPagingTile format
  let luma := InternalFormat.toBytes format.getAfrcRgbaCodingSize
  let chroma := InternalFormat.toBytes format.getAfrcChromaCodingSize
  if afrcPlaneAlignmentRequirement luma = 0 then none
  else if afrcPlaneAlignmentRequirement chroma = 0 then none
  else (afrcClumps f tile.width tile.height f.npln).map fun cs =>
    { primaryType := .afrc
      isMultiPlane := decide (f.npln > 1)
      isTiled := false
      isPadded := false
      isFrontbufferSafe := false
      afrc :=
        { rgbaLumaCodingUnitBytes := luma
          rgbaLumaPlaneAlignment := afrcPlaneAlignmentRequirement luma
          chromaCodingUnitBytes := chroma
          chromaPlaneAlignment := afrcPlaneAlignmentRequirement chroma
          clumpWidth := cs.1
          clumpHeight := cs.2
          pagingTileWidth := tile.width
          pagingTileHeight := tile.height } }

/-- The allocation type of a format that is not compressed. -/
def getUncompressedAllocType (f : FormatInfo) (format : InternalFormat) : AllocType where
  primaryType := if format.isBlockLinear then .blockLinear else .uncompressed
  isMultiPlane := decide (f.npln > 1)
  isTiled := false
  isPadded := false
  isFrontbufferSafe := false
  afrc := .none

/-- The allocation type of a format under a usage. -/
def getAllocType (format : InternalFormat) (usage : Usage) : Option AllocType :=
  format.getBaseInfo.bind fun f =>
    if format.isAfbc then getAfbcAllocType f format usage
    else if format.isAfrc then getAfrcAllocType f format
    else some (getUncompressedAllocType f format)

/-- The type suits the format, and a blob has one row. -/
def validateFormat (f : FormatInfo) (t : AllocType) (height : BitVec 32) : Bool :=
  let supported :=
    if t.isAfbc then
      f.afbc && !((f.npln == 1 && t.isMultiPlane) || (f.npln > 1 && !t.isMultiPlane)) &&
        !(f.npln == 1 && t.primaryType == .afbcExtrawideblk)
    else if t.isAfrc then f.afrc
    else if t.isBlockLinear then f.blockLinear
    else f.linear
  supported && !(f.id == .blob && height != 1#32)

/-! ### What an allocation type guarantees -/

/-- **The geometry of an allocation type** of a format. -/
structure AllocType.WellFormed (f : FormatInfo) (t : AllocType) : Prop where
  /-- Paging tiles hold 64 coding units. -/
  pagingTile : t.isAfrc = true →
    (t.afrc.pagingTileWidth = 8 ∧ t.afrc.pagingTileHeight = 8) ∨
      (t.afrc.pagingTileWidth = 16 ∧ t.afrc.pagingTileHeight = 4)
  /-- Coding units have 16, 24 or 32 bytes, and align their plane accordingly. -/
  codingUnit : t.isAfrc = true → ∀ plane,
    (t.codingUnitBytes plane = 16 ∧ t.planeAlignment plane = 1024) ∨
      (t.codingUnitBytes plane = 24 ∧ t.planeAlignment plane = 512) ∨
      (t.codingUnitBytes plane = 32 ∧ t.planeAlignment plane = 2048)
  clump : t.isAfrc = true → ∀ i < f.npln,
    afrcClump t.afrc.pagingTileWidth t.afrc.pagingTileHeight (f.ncmp.get i) =
      some (t.afrc.clumpWidth.get i, t.afrc.clumpHeight.get i)
  tiled_of_frontbufferSafe : t.isFrontbufferSafe = true → t.isAfbc = true ∧ t.isTiled = true

theorem afrcPlaneAlignmentRequirement_ne_zero {n : ℕ}
    (h : afrcPlaneAlignmentRequirement n ≠ 0) :
    (n = 16 ∧ afrcPlaneAlignmentRequirement n = 1024) ∨
      (n = 24 ∧ afrcPlaneAlignmentRequirement n = 512) ∨
      (n = 32 ∧ afrcPlaneAlignmentRequirement n = 2048) := by
  unfold afrcPlaneAlignmentRequirement at h ⊢
  split at h <;> simp_all

/-- Each clump of `afrcClumps` is that of its plane. -/
theorem afrcClumps_get {f : FormatInfo} {w h : ℕ} {n : ℕ} {cs : Planes ℕ × Planes ℕ}
    (hn : n ≤ 3) (hcs : afrcClumps f w h n = some cs) :
    ∀ i < n, afrcClump w h (f.ncmp.get i) = some (cs.1.get i, cs.2.get i) := by
  induction n generalizing cs with
  | zero => exact fun i hi => absurd hi (Nat.not_lt_zero i)
  | succ n ih =>
    simp only [afrcClumps, Option.bind_eq_bind, Option.bind_eq_some_iff] at hcs
    obtain ⟨cs', hcs', c, hc, hcs⟩ := hcs
    cases hcs
    intro i hi
    rcases Nat.lt_succ_iff_lt_or_eq.mp hi with hi | rfl
    · rw [Planes.get_set_of_ne _ _ (by omega) (by omega) (by omega),
        Planes.get_set_of_ne _ _ (by omega) (by omega) (by omega)]
      exact ih (by omega) hcs' i hi
    · rw [Planes.get_set_self, Planes.get_set_self]
      exact hc

section

variable {f : FormatInfo} {format : InternalFormat} {usage : Usage} {t : AllocType}

theorem isAfbc_of_afbcPrimaryType (h : t.primaryType = afbcPrimaryType format) :
    t.isAfbc = true := by
  rw [AllocType.isAfbc, h, afbcPrimaryType]
  split_ifs <;> rfl

/-- An AFBC type takes its options from the modifiers. -/
theorem getAfbcAllocType_eq_some (h : getAfbcAllocType f format usage = some t) :
    t.primaryType = afbcPrimaryType format ∧ t.isTiled = format.getAfbcTiledHeaders ∧
      t.isFrontbufferSafe = (format.getAfbcTiledHeaders && format.getAfbcDoubleBody) := by
  unfold getAfbcAllocType at h
  split_ifs at h
  cases h
  exact ⟨rfl, rfl, rfl⟩

theorem afrcPagingTile_cases (format : InternalFormat) :
    afrcPagingTile format = ⟨8, 8⟩ ∨ afrcPagingTile format = ⟨16, 4⟩ := by
  unfold afrcPagingTile
  split_ifs
  · exact Or.inl rfl
  · exact Or.inr rfl

/-- An AFRC type is well formed. -/
theorem getAfrcAllocType_wellFormed (hn : f.npln ≤ 3) (h : getAfrcAllocType f format = some t) :
    t.primaryType = .afrc ∧ t.WellFormed f := by
  simp only [getAfrcAllocType] at h
  split_ifs at h with h₁ h₂
  obtain ⟨cs, hcs, rfl⟩ := Option.map_eq_some_iff.mp h
  refine ⟨rfl, ?_, ?_, fun _ => afrcClumps_get hn hcs, fun hf => nomatch hf⟩
  · rcases afrcPagingTile_cases format with ht | ht
    · exact fun _ => Or.inl ⟨congrArg Rect.width ht, congrArg Rect.height ht⟩
    · exact fun _ => Or.inr ⟨congrArg Rect.width ht, congrArg Rect.height ht⟩
  · intro _ plane
    by_cases hp : plane = 0
    · simp only [AllocType.codingUnitBytes, AllocType.planeAlignment, hp, if_true]
      exact afrcPlaneAlignmentRequirement_ne_zero h₁
    · simp only [AllocType.codingUnitBytes, AllocType.planeAlignment, hp, if_false]
      exact afrcPlaneAlignmentRequirement_ne_zero h₂

/-- **An allocation type is well formed** for the format it was derived from. -/
theorem getAllocType_wellFormed (hf : format.getBaseInfo = some f) (hn : f.npln ≤ 3)
    (h : getAllocType format usage = some t) : t.WellFormed f := by
  simp only [getAllocType, hf, Option.bind_some] at h
  split_ifs at h
  · obtain ⟨hp, ht, hs⟩ := getAfbcAllocType_eq_some h
    have ha := isAfbc_of_afbcPrimaryType hp
    have hna : ¬t.isAfrc = true := by
      rw [AllocType.isAfrc, hp, afbcPrimaryType]
      split_ifs <;> exact Bool.false_ne_true
    refine ⟨fun hr => absurd hr hna, fun hr => absurd hr hna, fun hr => absurd hr hna, ?_⟩
    intro hsafe
    rw [hs, Bool.and_eq_true] at hsafe
    exact ⟨ha, ht.trans hsafe.1⟩
  · exact (getAfrcAllocType_wellFormed hn h).2
  · cases h
    have hna : ¬(getUncompressedAllocType f format).isAfrc = true := by
      simp only [AllocType.isAfrc, getUncompressedAllocType]
      split_ifs <;> exact Bool.false_ne_true
    exact ⟨fun hr => absurd hr hna, fun hr => absurd hr hna, fun hr => absurd hr hna,
      fun hs => nomatch hs⟩

end

/-- An allocation type is AFBC when its format is. -/
theorem isAfbc_of_getAllocType {format : InternalFormat} {usage : Usage} {t : AllocType}
    (h : getAllocType format usage = some t) : t.isAfbc = format.isAfbc := by
  obtain ⟨f, -, h⟩ := Option.bind_eq_some_iff.mp h
  split_ifs at h with ha hr
  · rw [isAfbc_of_afbcPrimaryType (getAfbcAllocType_eq_some h).1, ha]
  · simp only [getAfrcAllocType] at h
    split_ifs at h
    obtain ⟨-, -, rfl⟩ := Option.map_eq_some_iff.mp h
    simpa [AllocType.isAfbc] using ha
  · cases h
    simp only [AllocType.isAfbc, getUncompressedAllocType, Bool.not_eq_true] at ha ⊢
    split_ifs <;> exact ha.symm

/-! ### What a validated type guarantees -/

section

variable {f : FormatInfo} {t : AllocType} {height : BitVec 32}

/-- The schemes exclude each other. -/
theorem AllocType.not_isAfbc_of_isAfrc (h : t.isAfrc = true) : t.isAfbc ≠ true := by
  simp only [AllocType.isAfrc, beq_iff_eq] at h
  simp [AllocType.isAfbc, h]

theorem AllocType.not_isAfbc_of_isBlockLinear (h : t.isBlockLinear = true) : t.isAfbc ≠ true := by
  simp only [AllocType.isBlockLinear, beq_iff_eq] at h
  simp [AllocType.isAfbc, h]

theorem AllocType.not_isAfrc_of_isBlockLinear (h : t.isBlockLinear = true) : t.isAfrc ≠ true := by
  simp only [AllocType.isBlockLinear, beq_iff_eq] at h
  simp [AllocType.isAfrc, h]

theorem AllocType.isLinear_iff :
    t.isLinear = true ↔ t.isAfbc ≠ true ∧ t.isAfrc ≠ true ∧ t.isBlockLinear ≠ true := by
  simp [AllocType.isLinear, and_assoc]

/-- **A validated type** is one its format has. -/
theorem supported_of_validateFormat (h : validateFormat f t height = true) :
    (t.isAfbc = true → f.afbc = true) ∧ (t.isAfrc = true → f.afrc = true) ∧
      (t.isBlockLinear = true → f.blockLinear = true) ∧ (t.isLinear = true → f.linear = true) := by
  simp only [validateFormat, Bool.and_eq_true] at h
  refine ⟨fun ha => ?_, fun hr => ?_, fun hb => ?_, fun hl => ?_⟩
  · simp only [ha, if_true, Bool.and_eq_true] at h
    exact h.1.1.1
  · simpa [AllocType.not_isAfbc_of_isAfrc hr, hr] using h.1
  · simpa [AllocType.not_isAfbc_of_isBlockLinear hb, AllocType.not_isAfrc_of_isBlockLinear hb,
      hb] using h.1
  · obtain ⟨ha, hr, hb⟩ := AllocType.isLinear_iff.mp hl
    simpa [ha, hr, hb] using h.1

end

end Gralloc
