import Gralloc.Format.DoubleBody
import Gralloc.Mapper.Planes

/-!
# What a DRM driver is told

Consumers outside of the allocator never see an internal format. They are told a FourCC
code (`Gralloc.drmFourccFromHandle`) and a 64-bit modifier (`Gralloc.drmModifierFromHandle`)
that names the layout: for AFBC the shape of the superblocks in the low nibble, and a flag
for each option.

The allocator lays a buffer out by its allocation type, the modifier is made from the
format, and nothing but the two functions' agreement makes a consumer read what was laid
out. They agree on the superblocks of every buffer that can be allocated
(`Gralloc.Choice.blockShape_eq`): the one case in which they would not, wide blocks in two planes
that are not YUV, belongs to a format whose sizing fails. They differ in the second body,
which the layout has under tiled headers only. The selection never asks for two bodies
without them (`Gralloc.selectBestFormat_doubleBody`), so that only a forced format can
(`Gralloc.modifierDescribes_iff`).
-/

namespace Gralloc

open CInt

/-! ### FourCC codes -/

/-- Four characters, the first one in the low byte. -/
def fourccCode (a b c d : Char) : BitVec 32 :=
  BitVec.ofNat 32 a.toNat ||| BitVec.ofNat 32 b.toNat <<< 8 ||| BitVec.ofNat 32 c.toNat <<< 16 |||
    BitVec.ofNat 32 d.toNat <<< 24

def drmFormatInvalid : BitVec 32 := 0#32

/-- The FourCC code of each base format. -/
def drmFourccs : List (PixelFormat × BitVec 32) := [
  (.raw16, fourccCode 'R' '1' '6' ' '),
  (.rgba8888, fourccCode 'A' 'B' '2' '4'),
  (.bgra8888, fourccCode 'A' 'R' '2' '4'),
  (.rgb565, fourccCode 'R' 'G' '1' '6'),
  (.rgbx8888, fourccCode 'X' 'B' '2' '4'),
  (.rgb888, fourccCode 'B' 'G' '2' '4'),
  (.rgba1010102, fourccCode 'A' 'B' '3' '0'),
  (.rgba16161616, fourccCode 'A' 'B' '4' 'H'),
  (.rgba10101010, fourccCode 'A' 'B' '1' '0'),
  (.yv12, fourccCode 'Y' 'V' '1' '2'),
  (.yu12, fourccCode 'Y' 'U' '1' '2'),
  (.nv12, fourccCode 'N' 'V' '1' '2'),
  (.nv15, fourccCode 'N' 'V' '1' '5'),
  (.nv16, fourccCode 'N' 'V' '1' '6'),
  (.nv21, fourccCode 'N' 'V' '2' '1'),
  (.y0l2, fourccCode 'Y' '0' 'L' '2'),
  (.y210, fourccCode 'Y' '2' '1' '0'),
  (.p010, fourccCode 'P' '0' '1' '0'),
  (.p210, fourccCode 'P' '2' '1' '0'),
  (.y410, fourccCode 'Y' '4' '1' '0'),
  (.yuv444, fourccCode 'Y' 'U' '2' '4'),
  (.q410, fourccCode 'Q' '4' '1' '0'),
  (.q401, fourccCode 'Q' '4' '0' '1'),
  (.yuv422_8bit, fourccCode 'Y' 'U' 'Y' 'V'),
  (.yuv420_8bitI, fourccCode 'Y' 'U' '0' '8'),
  (.yuv420_10bitI, fourccCode 'Y' 'U' '1' '0'),
  (.r8, fourccCode 'R' '8' ' ' ' '),
  (Hal.ycbcrP010, fourccCode 'P' '0' '1' '0'),
  (.rg16, fourccCode 'G' 'R' '3' '2'),
  (.depth16, fourccCode 'R' 'G' '8' '8'),
  (.depth24Stencil8Afbc, fourccCode 'R' '8' 'A' '8'),
  (.depth32f, fourccCode 'R' 'A' '2' '4')]

/-- The FourCC code of a handle. -/
def drmFourccFromHandle (hnd : PrivateHandle) : BitVec 32 :=
  let base := hnd.allocFormat.getBase
  -- two formats name other component orders when they are compressed
  if hnd.allocFormat.isAfrc && base == .y8 then fourccCode 'R' '8' ' ' ' '
  else match drmFourccs.find? fun e => e.1 == base with
    | none => drmFormatInvalid
    | some e =>
      if hnd.allocFormat.isAfbc && base == .rgb565 then fourccCode 'B' 'G' '1' '6' else e.2

/-! ### Modifiers -/

/-- A 64-bit modifier. -/
abbrev DrmModifier : Type := BitVec 64

namespace DrmModifier

def vendorArm : ℕ := 0x08

/-- A vendor's code and value. -/
def fourccModCode (vendor : ℕ) (val : DrmModifier) : DrmModifier :=
  BitVec.ofNat 64 vendor <<< 56 ||| val &&& 0x00ffffffffffffff#64

def arm (type : ℕ) (val : DrmModifier) : DrmModifier :=
  fourccModCode vendorArm (BitVec.ofNat 64 type <<< 52 ||| val &&& 0x000fffffffffffff#64)

def armAfbc (val : DrmModifier) : DrmModifier := fourccModCode vendorArm val
def armAfrc (val : DrmModifier) : DrmModifier := arm 0x02 val

/-- Tiles of 16 × 16 pixels, of no vendor. -/
def generic16x16Tile : DrmModifier := 0x04#64 <<< 56 ||| 2#64

def blockSize16x16 : DrmModifier := 1#64
def blockSize32x8 : DrmModifier := 2#64
def blockSize64x4 : DrmModifier := 3#64
def blockSize32x8_64x4 : DrmModifier := 4#64
def blockSizeMask : DrmModifier := 0xf#64

def ytr : DrmModifier := 1#64 <<< 4
def split : DrmModifier := 1#64 <<< 5
def sparse : DrmModifier := 1#64 <<< 6
def tiled : DrmModifier := 1#64 <<< 8
def sc : DrmModifier := 1#64 <<< 9
def db : DrmModifier := 1#64 <<< 10
def bch : DrmModifier := 1#64 <<< 11
def usm : DrmModifier := 1#64 <<< 12

def layoutScan : DrmModifier := 1#64 <<< 8
def cuSize16 : DrmModifier := 1#64
def cuSize24 : DrmModifier := 2#64
def cuSize32 : DrmModifier := 3#64
def cuSizeP0 (size : DrmModifier) : DrmModifier := size
def cuSizeP12 (size : DrmModifier) : DrmModifier := size <<< 4

def has (modifier flag : DrmModifier) : Bool := modifier &&& flag != 0#64

/-- The modifier with a flag added, under a condition. -/
def orIf (modifier : DrmModifier) (c : Bool) (flag : DrmModifier) : DrmModifier :=
  if c then modifier ||| flag else modifier

end DrmModifier

open DrmModifier

/-- The code of an AFRC coding unit size. -/
def afrcCuSize (size : ℕ) : DrmModifier :=
  match size with
  | 2 => cuSize32
  | 1 => cuSize24
  | 0 => cuSize16
  | _ => 0#64

def getAfrcModifierTags (hnd : PrivateHandle) : DrmModifier :=
  let format := hnd.allocFormat
  if !format.isAfrc then 0#64
  else match format.getBaseInfo with
    | none => 0#64
    | some f =>
      let modifier := orIf 0#64 (!format.getAfrcRotLayout) layoutScan
      -- luma and RGBA sizes are the same bits
      let modifier := modifier ||| cuSizeP0 (afrcCuSize format.getAfrcRgbaCodingSize)
      armAfrc (orIf modifier (f.isYuv && hnd.isMultiPlane)
        (cuSizeP12 (afrcCuSize format.getAfrcChromaCodingSize)))

/-- The block-size modifier of an AFBC format. -/
def afbcBlockSize (format : InternalFormat) (isMultiPlane : Bool) : DrmModifier :=
  if format.getAfbc32x8 then (if isMultiPlane then blockSize32x8_64x4 else blockSize32x8)
  else if format.getAfbc64x4 then blockSize64x4
  else blockSize16x16

def getAfbcModifierTags (hnd : PrivateHandle) : DrmModifier :=
  let format := hnd.allocFormat
  if !format.isAfbc then 0#64
  else
    -- solid colour blocks come with tiled headers
    let solid := format.getAfbcTiledHeaders &&
      format.getBaseInfo.any fun f => !f.isYuv && f.bppAfbc.p0 ≤ 64
    let modifier := 0#64
      |> (orIf · format.getAfbcBlockSplit split)
      |> (orIf · format.getAfbcTiledHeaders tiled)
      |> (orIf · solid sc)
      |> (orIf · format.getAfbcDoubleBody db)
      |> (orIf · format.getAfbcBch bch)
      |> (orIf · format.getAfbcYuvTransform ytr)
      |> (orIf · format.getAfbcSparse sparse)
      |> (orIf · format.getAfbcUsm usm)
    armAfbc (modifier ||| afbcBlockSize format hnd.isMultiPlane)

/-- **The DRM modifier of a handle.** -/
def drmModifierFromHandle (hnd : PrivateHandle) : DrmModifier :=
  if hnd.allocFormat.isAfbc then getAfbcModifierTags hnd
  else if hnd.allocFormat.isAfrc then getAfrcModifierTags hnd
  else if hnd.allocFormat.isBlockLinear then generic16x16Tile
  else 0#64

/-! ### Reading a modifier -/

/-- The superblock that an AFBC modifier names for a plane. -/
def DrmModifier.blockShape (modifier : DrmModifier) (plane : ℕ) : Option Rect :=
  let size := modifier &&& blockSizeMask
  if size == blockSize16x16 then some ⟨16, 16⟩
  else if size == blockSize32x8 then some ⟨32, 8⟩
  else if size == blockSize64x4 then some ⟨64, 4⟩
  else if size == blockSize32x8_64x4 then some (if plane = 0 then ⟨32, 8⟩ else ⟨64, 4⟩)
  else none

section

variable {m flag mask : DrmModifier}

theorem or_and_of_disjoint {n : DrmModifier} (h : n &&& mask = 0#64) :
    (m ||| n) &&& mask = m &&& mask := by
  rw [BitVec.and_or_distrib_right, h, BitVec.or_zero]

/-- Other bits are not changed by a flag. -/
theorem orIf_and (h : flag &&& mask = 0#64) (c : Bool) : orIf m c flag &&& mask = m &&& mask := by
  rw [orIf]
  split
  · exact or_and_of_disjoint h
  · rfl

/-- Flags that are added each under its condition. -/
def orFlags (m : DrmModifier) (flags : List (Bool × DrmModifier)) : DrmModifier :=
  flags.foldl (fun m e => orIf m e.1 e.2) m

/-- Other bits are not changed by the flags. -/
theorem orFlags_and {flags : List (Bool × DrmModifier)} (h : ∀ e ∈ flags, e.2 &&& mask = 0#64) :
    orFlags m flags &&& mask = m &&& mask := by
  induction flags generalizing m with
  | nil => rfl
  | cons e flags ih =>
    exact (ih fun e' he' => h e' (List.mem_cons_of_mem e he')).trans
      (orIf_and (h e List.mem_cons_self) e.1)

/-- **A flag is added under its condition**, if no two of the flags have bits in common. -/
theorem orFlags_and_of_mem {flags : List (Bool × DrmModifier)}
    (hd : (flags.map Prod.snd).Pairwise fun flag flag' => flag &&& flag' = 0#64)
    {c : Bool} (he : (c, flag) ∈ flags) (hm : m &&& flag = 0#64) :
    orFlags m flags &&& flag = if c then flag else 0#64 := by
  induction flags generalizing m with
  | nil => exact absurd he List.not_mem_nil
  | cons e flags ih =>
    obtain ⟨hfirst, hrest⟩ := List.pairwise_cons.mp hd
    rcases List.mem_cons.mp he with rfl | he'
    · -- the flags behind it do not have its bits
      have hbehind : ∀ e ∈ flags, e.2 &&& flag = 0#64 := fun e he => by
        rw [BitVec.and_comm]
        exact hfirst e.2 (List.mem_map_of_mem he)
      refine (orFlags_and hbehind).trans ?_
      cases c with
      | false => exact hm
      | true =>
        show (m ||| flag) &&& flag = flag
        rw [BitVec.and_or_distrib_right, hm, BitVec.zero_or, BitVec.and_self]
    · have hbefore : e.2 &&& flag = 0#64 := hfirst flag (List.mem_map_of_mem he')
      exact ih hrest he' ((orIf_and hbefore e.1).trans hm)

/-- The vendor's code lies above the value. -/
theorem armAfbc_and (h : mask &&& 0x00ffffffffffffff#64 = mask) :
    armAfbc m &&& mask = m &&& mask := by
  have hv : mask &&& BitVec.ofNat 64 vendorArm <<< 56 = 0#64 := by
    have hz : 0x00ffffffffffffff#64 &&& BitVec.ofNat 64 vendorArm <<< 56 = 0#64 := by decide
    rw [← h, BitVec.and_assoc, hz, BitVec.and_zero]
  rw [armAfbc, fourccModCode, BitVec.and_or_distrib_right, BitVec.and_comm _ mask, hv,
    BitVec.zero_or, BitVec.and_assoc, BitVec.and_comm _ mask, h]

/-- The block size occupies the low nibble. -/
theorem afbcBlockSize_and (format : InternalFormat) (isMultiPlane : Bool) :
    afbcBlockSize format isMultiPlane &&& blockSizeMask = afbcBlockSize format isMultiPlane := by
  unfold afbcBlockSize
  split_ifs <;> decide

theorem afbcBlockSize_and_of_disjoint (h : blockSizeMask &&& mask = 0#64) (format : InternalFormat)
    (isMultiPlane : Bool) : afbcBlockSize format isMultiPlane &&& mask = 0#64 := by
  rw [← afbcBlockSize_and, BitVec.and_assoc, h, BitVec.and_zero]

end

/-- The flags of an AFBC modifier, with their conditions. -/
def afbcFlags (format : InternalFormat) : List (Bool × DrmModifier) := [
  (format.getAfbcBlockSplit, split),
  (format.getAfbcTiledHeaders, tiled),
  (format.getAfbcTiledHeaders && format.getBaseInfo.any fun f => !f.isYuv && f.bppAfbc.p0 ≤ 64, sc),
  (format.getAfbcDoubleBody, db),
  (format.getAfbcBch, bch),
  (format.getAfbcYuvTransform, ytr),
  (format.getAfbcSparse, sparse),
  (format.getAfbcUsm, usm)]

/-- A mask that none of the flags has a bit of. -/
theorem afbcFlags_and {mask : DrmModifier} (h : [split, tiled, sc, db, bch, ytr, sparse, usm].Forall
    fun flag => flag &&& mask = 0#64) (format : InternalFormat) :
    ∀ e ∈ afbcFlags format, e.2 &&& mask = 0#64 := by
  intro e he
  exact List.forall_iff_forall_mem.mp h e.2 (List.mem_map_of_mem (f := Prod.snd) he)

theorem afbcFlags_pairwise (format : InternalFormat) :
    ((afbcFlags format).map Prod.snd).Pairwise fun flag flag' => flag &&& flag' = 0#64 := by
  show List.Pairwise _ [split, tiled, sc, db, bch, ytr, sparse, usm]
  decide

section

variable {hnd : PrivateHandle} (ha : hnd.allocFormat.isAfbc = true)
include ha

/-- A modifier is made of the flags and the block size. -/
theorem getAfbcModifierTags_eq : getAfbcModifierTags hnd = armAfbc
    (orFlags 0#64 (afbcFlags hnd.allocFormat) |||
      afbcBlockSize hnd.allocFormat hnd.isMultiPlane) := by
  simp only [getAfbcModifierTags, ha, Bool.not_true, Bool.false_eq_true, if_false]
  rfl

/-- **The flags of an AFBC modifier** are the options of the format. -/
theorem has_of_mem_afbcFlags {flag : DrmModifier} {c : Bool}
    (h : (c, flag) ∈ afbcFlags hnd.allocFormat)
    (hflag : flag ≠ 0#64 ∧ blockSizeMask &&& flag = 0#64 ∧
      flag &&& 0x00ffffffffffffff#64 = flag := by decide) :
    (drmModifierFromHandle hnd).has flag = c := by
  have hbits : drmModifierFromHandle hnd &&& flag = if c then flag else 0#64 := by
    rw [drmModifierFromHandle, if_pos ha, getAfbcModifierTags_eq ha, armAfbc_and hflag.2.2,
      or_and_of_disjoint (afbcBlockSize_and_of_disjoint hflag.2.1 _ _)]
    exact orFlags_and_of_mem (afbcFlags_pairwise _) h BitVec.zero_and
  rw [DrmModifier.has, hbits]
  cases c with
  | true => exact bne_iff_ne.mpr hflag.1
  | false => rfl

theorem has_tiled :
    (drmModifierFromHandle hnd).has tiled = hnd.allocFormat.getAfbcTiledHeaders :=
  has_of_mem_afbcFlags ha (by simp [afbcFlags])

theorem has_db : (drmModifierFromHandle hnd).has db = hnd.allocFormat.getAfbcDoubleBody :=
  has_of_mem_afbcFlags ha (by simp [afbcFlags])

theorem has_split : (drmModifierFromHandle hnd).has split = hnd.allocFormat.getAfbcBlockSplit :=
  has_of_mem_afbcFlags ha (by simp [afbcFlags])

theorem has_ytr : (drmModifierFromHandle hnd).has ytr = hnd.allocFormat.getAfbcYuvTransform :=
  has_of_mem_afbcFlags ha (by simp [afbcFlags])

theorem and_blockSizeMask : drmModifierFromHandle hnd &&& blockSizeMask =
    afbcBlockSize hnd.allocFormat hnd.isMultiPlane := by
  rw [drmModifierFromHandle, if_pos ha, getAfbcModifierTags_eq ha, armAfbc_and (by decide),
    BitVec.or_comm, or_and_of_disjoint, afbcBlockSize_and]
  -- no flag is in the nibble
  exact (orFlags_and (afbcFlags_and (by decide) _)).trans BitVec.zero_and

end

/-! ### Superblocks -/

section

variable {usage : Usage} {height : BitVec 32} (c : Choice usage height)

/-- The planes of a YUV format are separate AFBC buffers for extra-wide superblocks only. -/
theorem Choice.getAfbc64x4_of_isYuv (ha : c.allocType.isAfbc = true) (hn : 1 < c.info.npln)
    (hy : c.info.isYuv = true) : c.format.getAfbc64x4 = true := by
  have hm := c.isMultiPlane_of_isAfbc ha
  rw [(c.allocType_of_isAfbc ha).1] at hm
  cases ht : c.format.getAfbcTiledHeaders with
  | true => simpa [afbcIsMultiPlane, ht, hn, hy] using hm
  | false => simp [afbcIsMultiPlane, ht, hn, hy] at hm

/-- **The named superblock is the one laid out**, but for wide blocks in several planes
that are not YUV: the modifier gives these extra-wide blocks from the second plane on. -/
theorem Choice.blockShape_eq (ha : c.allocType.isAfbc = true)
    (hy : 1 < c.info.npln → c.info.isYuv = true) {m : DrmModifier}
    (hm : m &&& blockSizeMask = afbcBlockSize c.format (decide (1 < c.info.npln))) {i : ℕ}
    (hi : i < c.info.npln) :
    m.blockShape i = some (getAfbcSbSize c.allocType c.info i) := by
  have hmulti := c.isMultiPlane_of_isAfbc ha
  have hp : c.allocType.primaryType = afbcPrimaryType c.format :=
    congrArg AllocType.primaryType (c.allocType_of_isAfbc ha).1
  simp only [DrmModifier.blockShape, hm, afbcBlockSize, getAfbcSbSize, hmulti, hp, afbcPrimaryType,
    ha, decide_eq_true_eq]
  by_cases hn : 1 < c.info.npln
  · -- several planes: extra-wide blocks, but for the first plane
    have hyuv := hy hn
    have h64 := c.getAfbc64x4_of_isYuv ha hn hyuv
    simp only [hn, hyuv, h64, if_true, and_true]
    rcases Nat.eq_zero_or_pos i with rfl | hi₀
    · cases c.format.getAfbc32x8 <;> rfl
    · simp only [hi₀, hi₀.ne', if_true, if_false]
      cases c.format.getAfbc32x8 <;> rfl
  · have hi₀ : i = 0 := by omega
    simp only [hn, hi₀, lt_irrefl, false_and, if_false]
    cases c.format.getAfbc32x8 <;> cases c.format.getAfbc64x4 <;> rfl

end

/-! ### Handles -/

section

variable {displays : Displays} {heap : ℕ → Bool} {caps : Capabilities}
  {node : ℕ → Option DecoderPara} {d d' : BufferDescriptor} {hnd : PrivateHandle}

/-- A derivation that returns has divided by the bits per pixel. -/
theorem bpp_ne_zero_of_success {c : Choice d.usage d.height} (hc : choose caps d = some c)
    (hd : deriveFormatAndSize wrapping caps node d = .ok (.success, d')) :
    c.info.bpp.p0 ≠ 0 := by
  intro hbpp
  obtain ⟨c', hc', wh, -, s, hs, -⟩ := deriveFormatAndSize_eq_success.mp hd
  cases hc.symm.trans hc'
  obtain ⟨planeInfo, -, hplane⟩ := sizePlane_zero_of_bpp_eq_zero c.allocType d.usage
    c.info_wellFormed hbpp wh.1 wh.2
    ⟨d.planeInfo.set 0 { d.planeInfo.get 0 with offset := 0 }, 0, 0⟩
  obtain ⟨e, he⟩ : ∃ e, sizePlane wrapping c.info c.allocType d.usage (pixelStride wrapping c.info)
      wh.1 wh.2 0 ⟨d.planeInfo.set 0 { d.planeInfo.get 0 with offset := 0 }, 0, 0⟩ = .error e := by
    rw [hplane]
    cases byteStride wrapping c.info c.allocType d.usage 0 planeInfo with
    | error e => exact ⟨e, rfl⟩
    | ok _ => exact ⟨.divByZero, rfl⟩
  exact nomatch hs.symm.trans (sizePlanes_eq_error he c.info_wellFormed.npln_pos)

/-- AFBC formats of several planes are YUV, or have no bits per pixel. -/
theorem isYuv_of_afbc : ∀ f ∈ formats, f.afbc = true → 1 < f.npln → f.bpp.p0 ≠ 0 →
    f.isYuv = true := by
  decide

/-- A handle describes a derived request, field by field. -/
theorem choose_of_bufferAllocate
    (ha : bufferAllocate wrapping displays heap caps node d = .ok (some hnd)) :
    ∃ c d', choose caps d = some c ∧
      deriveFormatAndSize wrapping caps node d = .ok (.success, d') ∧
      hnd.allocFormat = c.format ∧ hnd.isMultiPlane = decide (1 < c.info.npln) := by
  obtain ⟨d', size, hd, hm⟩ := derived_of_bufferAllocate ha
  obtain ⟨c, hc, -⟩ := deriveFormatAndSize_eq_success.mp hd
  obtain ⟨f, hf, rfl⟩ := Option.map_eq_some_iff.mp hm
  have hformat := allocFormat_of_success hc hd
  have hinfo : f = c.info := by
    have hbase : c.format.getBaseInfo = some f := by rw [← hformat]; exact hf
    exact Option.some.inj (hbase.symm.trans c.info_eq)
  exact ⟨c, d', hc, hd, hformat, by rw [hinfo]⟩

/-- **The modifier of a handle describes the layout** of an AFBC buffer: the superblock of
each plane, the tiled headers and the second body are those that the planes were sized
with. -/
structure ModifierDescribes (usage : Usage) (hnd : PrivateHandle) : Prop where
  describes : ∃ f t, hnd.allocFormat.getBaseInfo = some f ∧
    getAllocType hnd.allocFormat usage = some t ∧
    (∀ i < f.npln, (drmModifierFromHandle hnd).blockShape i = some (getAfbcSbSize t f i)) ∧
    (drmModifierFromHandle hnd).has tiled = t.isTiled ∧
    (drmModifierFromHandle hnd).has db = t.isFrontbufferSafe

/-- On the format: the modifier describes the layout exactly when a second body comes with
tiled headers. -/
theorem modifierDescribes_iff_doubleBody
    (ha : bufferAllocate wrapping displays heap caps node d = .ok (some hnd))
    (hafbc : hnd.allocFormat.isAfbc = true) :
    ModifierDescribes d.usage hnd ↔
      (hnd.allocFormat.getAfbcDoubleBody = true → hnd.allocFormat.getAfbcTiledHeaders = true) := by
  obtain ⟨c, d', hc, hd, hformat, hmulti⟩ := choose_of_bufferAllocate ha
  have hca : c.allocType.isAfbc = true := c.isAfbc_eq.trans (hformat ▸ hafbc)
  have htype := (c.allocType_of_isAfbc hca).1
  have hsafe : c.allocType.isFrontbufferSafe =
      (hnd.allocFormat.getAfbcTiledHeaders && hnd.allocFormat.getAfbcDoubleBody) := by
    rw [htype, hformat]
  have htl : c.allocType.isTiled = hnd.allocFormat.getAfbcTiledHeaders := by rw [htype, hformat]
  constructor
  · rintro ⟨f, t, -, ht, -, -, hdb⟩ hdouble
    rw [hformat] at ht
    cases ht.symm.trans c.allocType_eq
    rw [has_db hafbc, hsafe, hdouble, Bool.and_true] at hdb
    exact hdb.symm
  · intro hcond
    have hyuv (hn : 1 < c.info.npln) : c.info.isYuv = true :=
      isYuv_of_afbc _ c.info_mem ((supported_of_validateFormat c.valid).1 hca) hn
        (bpp_ne_zero_of_success hc hd)
    have hmask := and_blockSizeMask hafbc
    rw [hformat, hmulti] at hmask
    refine ⟨c.info, c.allocType, hformat ▸ c.info_eq, hformat ▸ c.allocType_eq,
      fun i hi => c.blockShape_eq hca hyuv hmask hi, (has_tiled hafbc).trans htl.symm, ?_⟩
    rw [has_db hafbc, hsafe]
    cases hdouble : hnd.allocFormat.getAfbcDoubleBody with
    | true => rw [hcond hdouble, Bool.and_true]
    | false => rw [Bool.and_false]

/-- The request forces an AFBC format with a second body and without tiled headers. -/
def ForcesDoubleBody (halFormat : BitVec 64) : Prop :=
  formatIsPrivate (halFormat.truncate 32) = true ∧
    halFormat.truncate 32 &&& Modifiers.afbcDoubleBody ≠ 0#32 ∧
    halFormat.truncate 32 &&& Modifiers.afbcTiledHeaders = 0#32

instance (halFormat : BitVec 64) : Decidable (ForcesDoubleBody halFormat) :=
  inferInstanceAs (Decidable (_ ∧ _))

/-- Only a forced format has a second body without tiled headers. -/
theorem doubleBody_selectFormat {halFormat : BitVec 64} {flags : DescriptorFlags} {usage : Usage}
    (hafbc : (selectFormat caps halFormat flags usage).isAfbc = true) :
    ((selectFormat caps halFormat flags usage).getAfbcDoubleBody = true →
        (selectFormat caps halFormat flags usage).getAfbcTiledHeaders = true) ↔
      ¬ForcesDoubleBody halFormat := by
  rw [selectFormat] at hafbc ⊢
  split_ifs at hafbc ⊢ with hinvalid hpriv
  · exact absurd hafbc (by decide)
  · -- a private request is taken at its word
    have hne : selectForcedFormat (halFormat.truncate 32) ≠ .invalid := fun h => by
      rw [h] at hafbc
      exact absurd hafbc (by decide)
    rw [InternalFormat.getAfbcDoubleBody, InternalFormat.getAfbcTiledHeaders,
      getModifier_selectForcedFormat hne, getModifier_selectForcedFormat hne]
    simp only [ForcesDoubleBody, hpriv, true_and, bne_iff_ne, ne_eq, not_and]
  · refine iff_of_true (selectBestFormat_doubleBody caps _ _ _ hafbc) fun h => hpriv h.1

/-- **The DRM modifier of an allocated AFBC buffer describes its layout** exactly when the
request does not force a second body without tiled headers. -/
theorem modifierDescribes_iff
    (ha : bufferAllocate wrapping displays heap caps node d = .ok (some hnd))
    (hafbc : hnd.allocFormat.isAfbc = true) :
    ModifierDescribes d.usage hnd ↔ ¬ForcesDoubleBody d.halFormat := by
  rw [modifierDescribes_iff_doubleBody ha hafbc]
  obtain ⟨c, -, hc, -, hformat, -⟩ := choose_of_bufferAllocate ha
  rw [hformat, format_of_choose hc] at hafbc ⊢
  exact doubleBody_selectFormat hafbc

end

/-! ### A second body under linear headers -/

/-- One superblock of AFBC RGBA_8888 with the double-body modifier alone, for the GPU. -/
def backBody : BufferDescriptor := .request 16#32 16#32 0x300#64 0x818001#64 1#32

/-- Its handle: one header of 1024 and one body of 1024 bytes. -/
def backBodyHandle : PrivateHandle where
  size := 2048
  consumerUsage := 0x300#64
  producerUsage := 0x300#64
  reqFormat := 0x818001
  allocFormat := ⟨.unorm, 1#32, 0x810000#32⟩
  width := 16
  height := 16
  layerCount := 1
  planeInfo := PlaneLayout.zero.set 0 ⟨0, 64, 16, 16⟩
  stride := 16
  isMultiPlane := false

theorem bufferAllocate_backBody :
    bufferAllocate wrapping fullHd (fun _ => true) .gpuOnly noDecoder backBody =
      .ok (some backBodyHandle) := by
  decide +kernel

/-- The equivalence, at the second body. -/
theorem modifierDescribes_iff_backBody :
    ModifierDescribes backBody.usage backBodyHandle ↔ ¬ForcesDoubleBody backBody.halFormat :=
  modifierDescribes_iff bufferAllocate_backBody (by decide)

/-- **A consumer is told of a second body** that was not laid out. -/
theorem not_modifierDescribes_backBody :
    bufferAllocate wrapping fullHd (fun _ => true) .gpuOnly noDecoder backBody =
        .ok (some backBodyHandle) ∧
      backBodyHandle.allocFormat.isAfbc = true ∧
      ¬ModifierDescribes backBody.usage backBodyHandle := by
  refine ⟨bufferAllocate_backBody, by decide, ?_⟩
  rintro ⟨f, t, -, ht, -, -, hdb⟩
  have htype : (getAllocType backBodyHandle.allocFormat backBody.usage).map
      AllocType.isFrontbufferSafe = some false := by decide
  rw [ht, Option.map_some] at htype
  rw [Option.some.inj htype] at hdb
  exact absurd hdb (by decide)

end Gralloc
