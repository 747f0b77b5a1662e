import Gralloc.Alloc.Type
import Gralloc.Format.Capabilities

/-!
# Format selection

From the format a client requests, the usage it declares and the capabilities of the
platform, `Gralloc.selectFormat` chooses the internal format to allocate. A private
request is taken at its word, checked only against the format table
(`Gralloc.selectForcedFormat`). An ordinary one goes through the whole table: every
compatible base format is given the best layout its producers and consumers support
(`Gralloc.getSupportedFormat`, in the order AFRC, AFBC, block linear, linear), the
candidates are graded, and the best one wins – unless the CPU takes part, in which case
only the requested base may (`Gralloc.getBestFormat`).

The sizing of a buffer does not depend on how its format was chosen: it looks the base up
and derives the allocation type anew. This file is therefore a transcription, and the
results about it belong to the selection itself.
-/

namespace Gralloc

/-! ### Descriptor flags -/

/-- Flags an allocator service attaches to its descriptors. -/
abbrev DescriptorFlags : Type := BitVec 32

namespace DescriptorFlags

def gpuDataBufferWithAnyFormat : DescriptorFlags := 1#32
def useAidlFrontbufferUsage : DescriptorFlags := 1#32 <<< 1
def supportsR8 : DescriptorFlags := 1#32 <<< 2
def hwcFbDisableAfbc : DescriptorFlags := 1#32 <<< 3
def hwcForceBgra8888 : DescriptorFlags := 1#32 <<< 4
def supportsR16Rg16 : DescriptorFlags := 1#32 <<< 5
def hwImpCamUsage : DescriptorFlags := 1#32 <<< 6

def has (flags f : DescriptorFlags) : Bool := flags &&& f != 0#32

end DescriptorFlags

section Supported

variable (caps : Capabilities)

/-! ### What the producers and consumers support -/

/-- The support of every producer and consumer, according to the support table. -/
def ipSupportsBaseFormat (producers consumers : Ip) (f : FormatIpSupport) : SupportFlags :=
  let restrict (ips ip : Ip) (g support : SupportFlags) : SupportFlags :=
    if ips.contains ip then support &&& g else support
  BitVec.allOnes 8
    |> restrict producers Ip.cpu f.cpuWr
    |> restrict producers Ip.gpu f.gpuWr
    |> restrict producers Ip.dpu f.dpuWr
    |> restrict producers Ip.dpuAeu f.dpuAeuWr
    |> restrict producers Ip.cam f.camWr
    |> restrict producers Ip.vpu f.vpuWr
    |> restrict consumers Ip.cpu f.cpuRd
    |> restrict consumers Ip.gpu f.gpuRd
    |> restrict consumers Ip.dpu f.dpuRd
    |> restrict consumers Ip.vpu f.vpuRd

/-- Data buffers are not compressed. -/
def usageSupportsBaseFormat (usage : Usage) (flags : SupportFlags) : SupportFlags :=
  if usage.has Usage.gpuDataBuffer then flags &&& SupportFlags.fLin else flags

def isSubsampledYuv (format : InternalFormat) : Bool :=
  match format.getBaseInfo with
  | some f => f.isYuv && (f.hsub > 1 || f.vsub > 1)
  | none => false

def isAfbcMultiplaneSupported (producers consumers : Ip) : Bool :=
  ipSupportFeature caps producers consumers .afbcTiledHeaders &&
    ipSupportFeature caps producers consumers .afbc64x4

/-- AFBC is left out of the support when the features it needs are missing. -/
def restrictAfbc (f : FormatInfo) (usage : Usage) (producers consumers : Ip)
    (flags : SupportFlags) : SupportFlags :=
  let support := ipSupportFeature caps producers consumers
  if flags.has .fAfbc &&
      ((!f.afbc || !support .afbc16x16) || (f.isYuv && !support .afbcYuv) ||
        (usage.isFrontbuffer && !support .afbcDoubleBody) ||
        (f.id == .y210 && !support .afbcFormatY210))
  then flags.without .fAfbc else flags

/-- AFRC is left out when neither of its layouts is supported. -/
def restrictAfrc (f : FormatInfo) (producers consumers : Ip) (flags : SupportFlags) :
    SupportFlags :=
  let support := ipSupportFeature caps producers consumers
  if flags.has .fAfrc && (!f.afrc || (!support .afrcRotLayout && !support .afrcScanLayout))
  then flags.without .fAfrc else flags

/-- Block linear is left out for other than YUV formats, and without its feature. -/
def restrictBlYuv (f : FormatInfo) (producers consumers : Ip) (flags : SupportFlags) :
    SupportFlags :=
  let support := ipSupportFeature caps producers consumers
  if flags.has .fBlYuv &&
      (!(f.blockLinear && f.isYuv) || (f.bps == 8 && !support .yuvBl8) ||
        (f.bps == 10 && !support .yuvBl10))
  then flags.without .fBlYuv else flags

/-- Some base formats need a feature of their own. -/
def restrictBase (f : FormatInfo) (producers consumers : Ip) (flags : SupportFlags) :
    SupportFlags :=
  let support := ipSupportFeature caps producers consumers
  if flags == .fNone then flags
  else if f.id == .rgba1010102 && !support .formatR10G10B10A2 then .fNone
  else if f.id == .rgba16161616 then
    if !support .formatR16G16B16A16Float then .fNone
    else if !support .afbcFormatR16G16B16A16Float then .fLin
    else flags
  else if f.id == .rgba10101010 && !support .formatR10G10B10A10 then .fNone
  else if (f.id == .raw16 || f.id == .rg16) && !support .formatRgb16 then .fNone
  else if isDepthStencilFormat f && !support .formatDepthStencil then .fNone
  else flags

/-- The layouts of a base format that all the producers and consumers support. -/
def isFormatSupported (f : FormatInfo) (ip : FormatIpSupport) (usage : Usage)
    (producers consumers : Ip) : SupportFlags :=
  usageSupportsBaseFormat usage (ipSupportsBaseFormat producers consumers ip)
    |> restrictAfbc caps f usage producers consumers
    |> restrictAfrc caps f producers consumers
    |> restrictBlYuv caps f producers consumers
    |> restrictBase caps f producers consumers

/-! ### Modifiers -/

/-- Wide and extra-wide blocks are dropped for a double body, and split blocks follow wide
ones where the format is sub-sampled or not. -/
def resolveAfbcBlocks (format : InternalFormat) (producers consumers : Ip) : InternalFormat :=
  let base := format.getBase
  -- two bodies are only specified for superblocks of 16 × 16
  let format :=
    if format.getAfbcDoubleBody
    then (format.setModifier .afbcWideblk false).setModifier .afbcExtrawideblk false
    else format
  -- wide blocks are split exactly when the format is not sub-sampled, but for RGB_565
  let format :=
    if format.getAfbc32x8 && format.getAfbcBlockSplit && isSubsampledYuv format
    then format.setModifier .afbcSplitblk false else format
  let format :=
    if format.getAfbc32x8 && !format.getAfbcBlockSplit && !isSubsampledYuv format &&
        base != .rgb565
    then
      if ipSupportFeature caps producers consumers .afbcBlockSplit
      then format.setModifier .afbcSplitblk true
      else format.setModifier .afbcWideblk false
    else format
  if base == .rgb565 then format.setModifier .afbcSplitblk false else format

/-- The format made to conform to the AFBC specification and to the features supported. -/
def validateAfbcFormat (format : InternalFormat) (producers consumers : Ip) : InternalFormat :=
  let support := ipSupportFeature caps producers consumers
  let format := resolveAfbcBlocks caps format producers consumers
  -- without the feature of AFBC itself no modifier is left for the checks below
  let format := if format.isAfbc && !support .afbc16x16 then format.clearModifiers else format
  let format :=
    if format.getAfbcBlockSplit && !support .afbcBlockSplit
    then format.setModifier .afbcSplitblk false else format
  let format :=
    if format.getAfbc32x8 && !support .afbc32x8
    then format.setModifier .afbcWideblk false else format
  let format :=
    if format.getAfbcTiledHeaders && !support .afbcTiledHeaders
    then format.setModifier .afbcTiledHeaders false else format
  -- the consumers' support of dense bodies is not asked for
  if !format.getAfbcSparse &&
      (!ipSupportFeature caps producers Ip.none .afbcWriteNonSparse || producers.empty)
  then format.setModifier .afbcSparse true else format

/-- The luma coding size a usage asks for. -/
def afrcLumaCodingSize (usage : Usage) : Option AfrcCodingUnitSize :=
  let u := usage &&& Usage.afrcLumaMask
  if u == Usage.afrcLuma16 then some .bytes16
  else if u == Usage.afrcLuma24 then some .bytes24
  else if u == Usage.afrcLuma32 then some .bytes32
  else none

/-- The chroma coding size a usage asks for. -/
def afrcChromaCodingSize (usage : Usage) : Option AfrcCodingUnitSize :=
  let u := usage &&& Usage.afrcChromaMask
  if u == Usage.afrcChroma16 then some .bytes16
  else if u == Usage.afrcChroma24 then some .bytes24
  else if u == Usage.afrcChroma32 then some .bytes32
  else none

/-- The AFRC format of a base, or the base without modifiers. -/
def getAfrcFormat (f : FormatInfo) (usage : Usage) (producers consumers : Ip) :
    InternalFormat :=
  let base := InternalFormat.fromAndroid f.id (calcFormatDataType f)
  let support := ipSupportFeature caps producers consumers
  let layout :=
    if support .afrcRotLayout then
      some ((base.setModifier .afrcBasic true).setModifier .afrcRotLayout true)
    else if support .afrcScanLayout then some (base.setModifier .afrcBasic true)
    else none
  match layout, afrcLumaCodingSize usage with
  -- a format that is asked for a chroma size and has no chroma is not compressed
  | some format, some luma =>
    let format := format.setAfrcLumaCodingSize luma
    if f.isYuv then
      match afrcChromaCodingSize usage with
      | some chroma => format.setAfrcChromaCodingSize chroma
      | none => base
    else if usage.has Usage.afrcChromaMask then base
    else format
  | _, _ => base

/-- The split block, for a GPU producer and a display consumer. -/
def enableSplitBlock (f : FormatInfo) (producers consumers : Ip) : Bool :=
  !(f.isYuv && producers.contains Ip.gpu) &&
    !((!f.isRgb || f.bpp.p0 < 24) &&
      (producers.contains Ip.dpuAeu || consumers.contains Ip.dpu))

/-- The AFBC format of a base, or the base without modifiers. -/
def getAfbcFormat (f : FormatInfo) (usage : Usage) (producers consumers : Ip) :
    InternalFormat :=
  let base := InternalFormat.fromAndroid f.id (calcFormatDataType f)
  let support := ipSupportFeature caps producers consumers
  if f.isYuv && !consumers.empty && !ipSupportFeature caps Ip.none consumers .afbcYuv then base
  else if f.isYuv && !ipSupportFeature caps producers Ip.none .afbcYuv then base
  else if producers.contains Ip.vpu && consumers.contains Ip.vpu then base
  else if !support .afbc16x16 then base
  else
    let format := (base.setModifier .afbcBasic true).setModifier .afbcYuvTransform f.yuvTransform
    let format :=
      if producers.empty || !ipSupportFeature caps producers Ip.none .afbcWriteNonSparse
      then format.setModifier .afbcSparse true else format
    let format :=
      if support .afbcTiledHeaders then
        let format := format.setModifier .afbcTiledHeaders true
        -- a front buffer is written while it is read, which takes a body for each
        let format :=
          if usage.isFrontbuffer && support .afbcDoubleBody
          then format.setModifier .afbcDoubleBody true else format
        if f.npln > 1 && isAfbcMultiplaneSupported caps producers consumers && f.isYuv
        then format.setModifier .afbcExtrawideblk true else format
      else format
    let format :=
      if producers.contains Ip.gpu && consumers.contains Ip.dpu && ipPresent caps Ip.dpu then
        let format :=
          if support .afbc32x8 && !f.isYuv then format.setModifier .afbcWideblk true else format
        if support .afbcBlockSplit
        then format.setModifier .afbcSplitblk (enableSplitBlock f producers consumers)
        else format
      else format
    validateAfbcFormat caps format producers consumers

/-- The block-linear format of a base. -/
def getBlFormat (base : InternalFormat) (producers consumers : Ip) : InternalFormat :=
  let support := ipSupportFeature caps producers consumers
  if support .yuvBl8 || support .yuvBl10 then base.setModifier .blockLinearBasic true else base

/-- The best layout of a base format that all the producers and consumers support. -/
def getSupportedFormat (f : FormatInfo) (usage : Usage) (producers consumers : Ip)
    (descriptorFlags : DescriptorFlags) : Option InternalFormat :=
  let base := InternalFormat.fromAndroid f.id (calcFormatDataType f)
  (getFormatIpSupport f.id).bind fun ip =>
    let flags := isFormatSupported caps f ip usage producers consumers
    -- Composition falls back to the GPU when the display cannot read the format.
    let flags :=
      if flags == .fNone && consumers.contains Ip.gpu && consumers.contains Ip.dpu
      then isFormatSupported caps f ip usage producers (consumers.remove Ip.dpu) else flags
    let flags :=
      if descriptorFlags.has .hwcFbDisableAfbc && usage.has Usage.hwFb
      then flags.without (.fAfbc ||| .fAfrc ||| .fBlYuv) else flags
    let afrc := getAfrcFormat caps f usage producers consumers
    let afbc := getAfbcFormat caps f usage producers consumers
    let bl := getBlFormat caps base producers consumers
    -- several planes are only compressed when each gets its own AFBC buffer
    if flags.has .fAfrc && afrc.isAfrc then some afrc
    else if flags.has .fAfbc && !usage.isNoAfbc && afbc.isAfbc &&
        (getAllocType afbc usage).any fun t => f.npln == 1 || t.isMultiPlane then some afbc
    else if flags.has .fBlYuv && bl.isBlockLinear then some bl
    else if flags.has .fLin then some base
    else none

/-! ### Compatible formats and the best of them -/

def comparableComponents (fOld fNew : FormatInfo) : Bool :=
  if fOld.isYuv && fNew.bps == fOld.bps then
    fNew.totalComponents == fOld.totalComponents ||
      (fOld.hasAlpha && fNew.totalComponents == 3 && fNew.isYuv && !fNew.hasAlpha)
  else if fOld.isRgb then
    fNew.totalComponents == fOld.totalComponents &&
      ((fNew.bpp.p0 == fOld.bpp.p0 && fNew.bps == fOld.bps) ||
        (fOld.id == .rgbx8888 && fNew.bpp.p0 == 24) || (fOld.id == .rgb565 && fNew.bpp.p0 == 24))
  else if isDepthStencilFormat fOld && isDepthStencilFormat fNew then
    fOld.totalComponents == fNew.totalComponents && fOld.bps == fNew.bps
  else fNew.id == fOld.id

def isFormatCompatible (fOld fNew : FormatInfo) : Bool :=
  fNew.hsub == fOld.hsub && fNew.vsub == fOld.vsub && fNew.isRgb == fOld.isRgb &&
    fNew.isYuv == fOld.isYuv && comparableComponents fOld fNew

/-- What each modifier adds to the grade of a format. -/
def fmtExtValues : List (Modifiers × ℕ) := [
  (.afbcBasic, 2), (.afbcSplitblk, 1), (.afbcWideblk, 1), (.afbcTiledHeaders, 1),
  (.afbcExtrawideblk, 1), (.afbcDoubleBody, 1), (.afbcBch, 1), (.afbcYuvTransform, 1),
  (.afbcSparse, 1), (.blockLinearBasic, 1), (.afrcBasic, 2 ^ 30)]

/-- The grade of a candidate for a requested base; `0` excludes it. -/
def gradeFormat (format : InternalFormat) (baseInfo req : FormatInfo) : ℕ :=
  let ext :=
    (fmtExtValues.map fun e => if format.modifiers &&& e.1 != 0#32 then e.2 else 0).sum
  if format.isAfrc then
    if req.id == format.getBase || isSameOrComponentsReordered req baseInfo then 2 + ext
    else 1 + ext
  else if req.isRgb && req.bpp.p0 != baseInfo.bpp.p0 then 0
  else 1 + ext

/-- The candidates seen so far. -/
structure BestFormat where
  numSupportedFormats : ℕ
  reqFormatGrade : ℕ
  bestFmtGrade : ℕ
  firstOfBestFormats : InternalFormat
  reqFormat : InternalFormat
  deriving DecidableEq, Repr

/-- One candidate of the table. -/
def BestFormat.step (usage : Usage) (producers consumers : Ip)
    (descriptorFlags : DescriptorFlags) (req : FormatInfo) (b : BestFormat) (f : FormatInfo) :
    BestFormat :=
  if !isFormatCompatible req f then b
  else match getSupportedFormat caps f usage producers consumers descriptorFlags with
    | none => b
    | some format =>
      let grade := gradeFormat format f req
      if grade = 0 then b
      else
        -- of several best formats the first one stays
        let b := { b with numSupportedFormats := b.numSupportedFormats + 1 }
        let b :=
          if b.bestFmtGrade < grade
          then { b with bestFmtGrade := grade, firstOfBestFormats := format } else b
        if format.getBase == req.id
        then { b with reqFormatGrade := grade, reqFormat := format } else b

/-- The best allocation format for a requested base. -/
def getBestFormat (req : FormatInfo) (usage : Usage) (producers consumers : Ip)
    (descriptorFlags : DescriptorFlags) : InternalFormat :=
  let b := formats.foldl (BestFormat.step caps usage producers consumers descriptorFlags req)
    ⟨0, 0, 0, .invalid, .invalid⟩
  if b.numSupportedFormats = 0 then .invalid
  -- the CPU does not convert: under its access only the requested format will do
  else if b.reqFormatGrade ≠ b.bestFmtGrade &&
      (!producers.contains Ip.cpu && !consumers.contains Ip.cpu) then b.firstOfBestFormats
  else if b.reqFormatGrade ≠ 0 then b.reqFormat
  else .invalid

/-! ### Forced and best formats -/

/-- The planes of the format are separate AFBC buffers. -/
def isFormatMultiplaneAfbc (format : InternalFormat) (baseInfo : FormatInfo) : Bool :=
  format.isAfbc &&
    ((baseInfo.isYuv && format.getAfbc64x4 && format.getAfbcTiledHeaders) ||
      (baseInfo.npln > 1 && !(format.getAfbc64x4 || format.getAfbcTiledHeaders)))

/-- The modifiers are possible for the base. -/
def checkModifiersAgainstFormat (f : FormatInfo) (candidate : InternalFormat) : Bool :=
  if candidate.isAfrc && f.afrc then true
  else if !candidate.hasModifiers || (candidate.isBlockLinear && f.blockLinear) then true
  else if candidate.isAfbc then
    let multiplane := isFormatMultiplaneAfbc candidate f
    f.afbc && ((f.npln == 1 && !multiplane) || (f.npln == 2 && multiplane))
  else false

/-- The format of a private request. -/
def selectForcedFormat (reqFormat : BitVec 32) : InternalFormat :=
  let intFormat := InternalFormat.fromPrivate reqFormat
  let internalFormat := getInternalFormat intFormat.getBase
  match getFormatInfo internalFormat with
  | none => .invalid
  | some f =>
    if internalFormat == .undefined then .invalid
    else
      let candidate := InternalFormat.fromPrivate (internalFormat ||| intFormat.modifiers)
      if checkModifiersAgainstFormat f candidate then candidate else .invalid

/-- The internal format of a request, where cameras read implementation-defined data. -/
def getInternalFormatWithUsage (reqFormat : BitVec 32) (usage : Usage)
    (descriptorFlags : DescriptorFlags) : PixelFormat :=
  if descriptorFlags.has .hwImpCamUsage && Hal.implementationDefined == reqFormat &&
      usage.has (Usage.hwCameraWrite ||| Usage.sensorDirectData ||| Usage.hwCameraRead)
  then .rg16
  else getInternalFormat reqFormat

/-- The format of an ordinary request. -/
def selectBestFormat (reqFormat : BitVec 32) (descriptorFlags : DescriptorFlags)
    (usage : Usage) : InternalFormat :=
  let reqBaseFormat := getInternalFormatWithUsage reqFormat usage descriptorFlags
  match getFormatInfo reqBaseFormat with
  | none => .invalid
  | some f =>
    let producers := getProducers usage
    let consumers := getConsumers usage
    -- Without a producer, the CPU is assumed to be one.
    let producers := if producers.empty then producers.add Ip.cpu else producers
    if reqBaseFormat == .undefined then .invalid
    -- every usage bit but the vendor's has to be permitted
    else if (f.permittedUsage ||| usage) &&& ~~~Usage.vendorUsage !=
        f.permittedUsage &&& ~~~Usage.vendorUsage then .invalid
    else if usage.isNoAfbc && f.isYuv then .invalid
    else if !descriptorFlags.has .gpuDataBufferWithAnyFormat &&
        usage.has Usage.gpuDataBuffer && reqBaseFormat != .blob then .invalid
    else if !descriptorFlags.has .useAidlFrontbufferUsage &&
        usage.has Usage.frontbuffer then .invalid
    else if reqBaseFormat == .r8 && !descriptorFlags.has .supportsR8 then .invalid
    else if (reqFormat == Hal.r16Uint || reqFormat == Hal.r16g16Uint) &&
        !descriptorFlags.has .supportsR16Rg16 then .invalid
    else
      let allocFormat := getBestFormat caps f usage producers consumers descriptorFlags
      -- the product may want all of its frame buffers in one format
      if descriptorFlags.has .hwcForceBgra8888 && usage.has Usage.hwFb then
        if allocFormat.getBase != .bgra8888 && usage.hasCpu then .invalid
        else InternalFormat.fromAndroid .bgra8888 .unorm
      else allocFormat

/-- **The internal format to allocate** for a requested format and a usage. -/
def selectFormat (halFormat : BitVec 64) (descriptorFlags : DescriptorFlags) (usage : Usage) :
    InternalFormat :=
  let reqFormat := halFormat.truncate 32
  if usage.has (~~~Usage.validUsage) then .invalid
  else if formatIsPrivate reqFormat then selectForcedFormat reqFormat
  else selectBestFormat caps reqFormat descriptorFlags usage

end Supported

end Gralloc
