import Gralloc.Idl.Allocate

/-!
# Metadata of a buffer that is not there yet

A client may ask what a buffer's metadata would be before it asks for the buffer
(`Gralloc.Hidl.getFromBufferDescriptorInfo`). The mapper derives the request, as the
allocator would, makes a handle of the result that has no memory, and answers from the
handle and the request. Afterwards the same questions are answered from the handle of the
buffer and the metadata that the allocator wrote (`Gralloc.Mapper.get`).

The two derivations are one (`Gralloc.Hidl.isDerived_of_allocate`), and what is read off the
handles is the same but for what the allocator changes in between. It gives frame buffers
another size; it cuts the name off; it keeps numbers in `int`s; and it writes a chroma
siting, which the mapper does not calculate. `Gralloc.Hidl.metadataAgrees_iff` says that
this is all.
-/

namespace Gralloc

open CInt Mapper

/-- The descriptor of a request; `flags` are those of the service. -/
def BufferDescriptorInfo.toDescriptor (info : BufferDescriptorInfo) (flags : DescriptorFlags) :
    BufferDescriptor :=
  { BufferDescriptor.request info.width info.height info.usage
      -- an enumeration over `int`, widened with its sign
      (info.format.signExtend 64) info.layerCount with
    flags := flags }

namespace Hidl

/-! ### Encoders -/

/-- The encoders of the framework: bytes for a type and a value of it. -/
abbrev Gralloc4 : Type := StandardMetadataType → MetadataValue → List (BitVec 8)

/-- The types that the framework has encoders for. -/
def hasEncoder (t : StandardMetadataType) : Bool := t != .invalid && t != .stride

/-- The encoder of a type, the framework's or one of four. -/
def getEncodeFunction (gralloc4 : Gralloc4) : MetadataType → Encoder
  | .standard t, v => if hasEncoder t then .ok (gralloc4 t v) else .error .badValue
  | .arm .planeFds, .int64s fds =>
    .ok (leBytes 8 fds.length ++ fds.flatMap fun n => leBytes 8 n.toNat)
  | .arm .formatDataType, .int64 n => .ok (leBytes 8 n.toNat)
  | .aml t, .int32 n => if t = .invalid then .error .badValue else .ok (leBytes 4 n.toNat)
  | _, _ => .error .badValue

/-- **The metadata of a handle**, for a client. -/
def get (gralloc4 : Gralloc4) (hnd : MetadataHandle) (t : MetadataType) :
    Run (Except MapperError (List (BitVec 8))) :=
  Mapper.get hnd false t (getEncodeFunction gralloc4 t)

/-! ### Before the allocation -/

/-- A handle of a descriptor, without memory. -/
def partialHandle (d : BufferDescriptor) : PrivateHandle where
  size := toInt d.size
  consumerUsage := d.consumerUsage
  producerUsage := d.producerUsage
  reqFormat := toInt d.halFormat.toNat
  allocFormat := d.allocFormat
  width := toInt d.width.toNat
  height := toInt d.height.toNat
  layerCount := toInt d.layerCount.toNat
  planeInfo := d.planeInfo
  stride := d.pixelStride
  isMultiPlane :=
    match d.allocFormat.getBaseInfo with
    | some f => decide (f.npln > 1)
    | none => false

section

variable (d : BufferDescriptor)

@[simp] theorem partialHandle_size : (partialHandle d).size = toInt d.size := by
  rw [partialHandle]

@[simp] theorem partialHandle_width : (partialHandle d).width = toInt d.width.toNat := by
  rw [partialHandle]

@[simp] theorem partialHandle_height : (partialHandle d).height = toInt d.height.toNat := by
  rw [partialHandle]

@[simp] theorem partialHandle_layerCount :
    (partialHandle d).layerCount = toInt d.layerCount.toNat := by
  rw [partialHandle]

@[simp] theorem partialHandle_reqFormat :
    (partialHandle d).reqFormat = toInt d.halFormat.toNat := by
  rw [partialHandle]

/-- The handle of a descriptor whose format exists is the one without memory. -/
theorem makePrivateHandle_eq_map :
    makePrivateHandle d = d.allocFormat.getBaseInfo.map fun _ => partialHandle d := by
  cases hf : d.allocFormat.getBaseInfo with
  | none => rw [makePrivateHandle, hf]; rfl
  | some f =>
    have hplanes : (partialHandle d).isMultiPlane = decide (f.npln > 1) := by
      simp only [partialHandle, hf]
    rw [makePrivateHandle, hf, Option.map_some, Option.map_some, ← hplanes]
    rfl

end

section

variable (info : BufferDescriptorInfo) (hnd : PrivateHandle)

/-- The value of a type, from a request and its handle. -/
def standardFromDescriptor : StandardMetadataType → Run (Except MapperError MetadataValue)
  | .name => .ok (.ok (.string info.name))
  | .width => .ok (.ok (.uint64 (info.width.setWidth 64)))
  | .height => .ok (.ok (.uint64 (info.height.setWidth 64)))
  | .layerCount => .ok (.ok (.uint64 (info.layerCount.setWidth 64)))
  | .pixelFormatRequested => .ok (.ok (.int32 info.format))
  | .usage => .ok (.ok (.uint64 info.usage))
  | .pixelFormatFourcc => .ok (.ok (.uint32 (drmFourccFromHandle hnd)))
  | .pixelFormatModifier => .ok (.ok (.uint64 (drmModifierFromHandle hnd)))
  | .allocationSize => .ok (.ok (.uint64 (BitVec.ofInt 64 hnd.size)))
  | .protectedContent => .ok (.ok (.uint64 (isProtected hnd)))
  | .compression => .ok (.ok (.extendable (compressionOf hnd)))
  | .interlaced => .ok (.ok (.extendable interlacedNone))
  | .chromaSiting =>
    match hnd.allocFormat.getBaseInfo with
    | none => .ok (.error .unsupported)
    | some f => .ok (.ok (.extendable (defaultChromaSiting f)))
  | .planeLayouts => do
    let layouts ← describedPlaneLayouts hnd
    match layouts with
    | .ok ls => .ok (.ok (.layouts ls))
    | .error _ => .ok (.error .unsupported)
  | .dataspace =>
    .ok (.ok (.int32 (getFormatDataspace hnd.allocFormat.getBaseInfo
      (hnd.consumerUsage ||| hnd.producerUsage))))
  | .blendMode => .ok (.ok (.int32 blendModeInvalid))
  | .crop => .ok (.ok (.rects (cropRects hnd none)))
  | .smpte2086 => .ok (.ok (.smpte2086 none))
  | .cta861_3 => .ok (.ok (.cta861_3 none))
  | .smpte2094_40 => .ok (.ok (.blob none))
  | .smpte2094_10 => .ok (.ok (.blob none))
  | .bufferId | .stride | .invalid => .ok (.error .unsupported)

end

/-- **The metadata of a request.** -/
def getFromBufferDescriptorInfo (gralloc4 : Gralloc4) (caps : Capabilities)
    (node : ℕ → Option DecoderPara) (flags : DescriptorFlags) (info : BufferDescriptorInfo)
    (t : MetadataType) : Run (Except MapperError (List (BitVec 8))) := do
  let r ← deriveFormatAndSize wrapping caps node (info.toDescriptor flags)
  match r.1 with
  | .einval => .ok (.error .badValue)
  | .success =>
    let hnd := partialHandle r.2
    match t with
    | .standard t => do
      let v ← standardFromDescriptor info hnd t
      .ok (v.map (gralloc4 t))
    | .arm .formatDataType =>
      .ok (.ok (leBytes 8 (dataTypeInternalToAidl hnd.allocFormat.dataType).toNat))
    | .arm _ | .aml _ | .other => .ok (.error .unsupported)

/-! ### The two derivations -/

section

variable {p : Platform} {node : ℕ → Option DecoderPara} {name : List (BitVec 8)}
  {d : BufferDescriptor} {x y : BitVec 64}

/-- An `int` does not keep more than 32 bits. -/
theorem toInt_toNat_congr (h : x.truncate 32 = y.truncate 32) : toInt x.toNat = toInt y.toNat := by
  have hmod := congrArg BitVec.toNat h
  rw [BitVec.truncate_eq_setWidth, BitVec.truncate_eq_setWidth, BitVec.toNat_setWidth,
    BitVec.toNat_setWidth] at hmod
  exact toInt_congr hmod

theorem truncate_signExtend (w : BitVec 32) :
    (w.signExtend 64).truncate 32 = (w.setWidth 64).truncate 32 := by
  ext i hi
  simp only [BitVec.truncate_eq_setWidth, BitVec.getElem_setWidth, BitVec.getLsbD_setWidth,
    BitVec.getLsbD_signExtend, hi, if_true]

/-- A format is read from 32 bits. -/
theorem selectFormat_congr (h : x.truncate 32 = y.truncate 32) (caps : Capabilities)
    (flags : DescriptorFlags) (usage : Usage) :
    selectFormat caps x flags usage = selectFormat caps y flags usage := by
  simp only [selectFormat, h]

theorem prepared_halFormat (h : x.truncate 32 = d.halFormat.truncate 32) (caps : Capabilities) :
    prepared caps node { d with halFormat := x } =
      { prepared caps node d with halFormat := x } := by
  have hsel := selectFormat_congr h caps d.flags d.usage
  cases hr : decoderReply node d with
  | none =>
    rw [prepared_of_none hr, prepared_of_none (d := { d with halFormat := x }) hr]
    exact congrArg (fun format => { d with
      halFormat := x
      allocFormat := format
      decoderPara := { d.decoderPara with wAlign := 0#32, hAlign := 0#32 } }) hsel
  | some q =>
    rw [prepared_of_some hr, prepared_of_some (d := { d with halFormat := x }) hr]
    exact congrArg (fun format => { d with
      halFormat := x
      allocFormat := format
      decoderPara := q
      decoderParaType := q.paraType }) hsel

/-- **A derivation sees 32 bits of the format.** -/
theorem deriveFormatAndSize_halFormat (node : ℕ → Option DecoderPara)
    (h : x.truncate 32 = d.halFormat.truncate 32) (caps : Capabilities) :
    deriveFormatAndSize wrapping caps node { d with halFormat := x } =
      (deriveFormatAndSize wrapping caps node d).map fun r =>
        (r.1, { r.2 with halFormat := x }) := by
  have hsel := selectFormat_congr h caps d.flags d.usage
  have hchoose : choose caps { d with halFormat := x } = choose caps d :=
    congrArg (fun format => chooseFormat format d.usage d.height) hsel
  cases hc : choose caps d with
  | none =>
    simp only [deriveFormatAndSize, hchoose.trans hc, hc, Except.map]
    exact congrArg (fun format =>
      Except.ok (Status.einval, { d with halFormat := x, allocFormat := format })) hsel
  | some c =>
    rw [deriveFormatAndSize_of_choose hc,
      deriveFormatAndSize_of_choose (d := { d with halFormat := x }) (hchoose.trans hc),
      prepared_halFormat h]
    simp only [map_bind]
    rfl

/-- **Buffers are told apart by 32 bits of the format.** -/
theorem isDerived_halFormat {b : AllocatedBuffer} (h : x.truncate 32 = d.halFormat.truncate 32)
    (hb : IsDerived p node name d b) : IsDerived p node name { d with halFormat := x } b := by
  obtain ⟨r, hr, hhandle, hmeta⟩ := hb
  refine ⟨{ r with halFormat := x }, ?_, ?_, hmeta⟩
  · have hmap := deriveFormatAndSize_halFormat (d := d.fresh) node h p.caps
    rw [hr] at hmap
    exact hmap
  · have hfresh : r.fresh = d.fresh := fresh_of_derive hr
    have hformat : d.halFormat = r.halFormat :=
      (congrArg BufferDescriptor.halFormat hfresh : r.fresh.halFormat = d.fresh.halFormat).symm
    have hreq : toInt x.toNat = toInt r.halFormat.toNat := by rw [← hformat, toInt_toNat_congr h]
    have hsize : (({ r with halFormat := x } : BufferDescriptor).final p.displays).size =
        (r.final p.displays).size := final_size_congr p.displays rfl rfl rfl rfl
    rw [← hhandle, final_eq, final_eq p.displays r, hsize]
    simp only [makePrivateHandle, hreq]

/-- **Every buffer that a client is given is that of its request.** -/
theorem isDerived_of_allocate {info : BufferDescriptorInfo} {flags : DescriptorFlags}
    {para : DecoderPara} {pitches : ℕ} {bytes : List (BitVec 8)} {es : List Attempt}
    {bs : List AllocatedBuffer}
    (hnode : ∀ e ∈ es, decoderReply e.node (info.toDescriptor flags) =
      decoderReply node (info.toDescriptor flags))
    (hbytes : createDescriptor info = .ok bytes)
    (h : allocate p flags (uninitialised para pitches) bytes es = .ok (.ok bs)) :
    ∀ b ∈ bs, IsDerived p node (pushDescriptorString info.name) (info.toDescriptor flags) b := by
  unfold createDescriptor at hbytes
  split_ifs at hbytes
  cases hbytes
  simp only [allocate, decodeBufferDescriptor_encodeBufferDescriptor] at h
  obtain ⟨⟨d', r⟩, hrun, h⟩ := bind_eq_ok.mp h
  have hr : r = .ok bs := by
    cases r with
    | error err => cases err <;> cases h
    | ok bs' => cases h; rfl
  subst hr
  intro b hb
  -- the allocator widens the format with zeros
  refine isDerived_halFormat (truncate_signExtend info.format)
    (isDerived_of_allocateBuffers ?_ ?_ hrun b hb)
  · exact hnode
  · exact fun i hi _ => rfl

end

end Hidl

end Gralloc
