import Gralloc.Mapper.Metadata
import Gralloc.Transition.Reach

/-!
# What a set changes

A client sets metadata by sending bytes, for any type it likes. The mapper looks at the
type first, then has the bytes decoded, then decides (`Gralloc.Mapper.setPayload`). The
decoders belong to the framework and may refuse whatever they like
(`Gralloc.Mapper.Decoders`).

A dozen types lie side by side in one record, and each of them is read by a getter of its
own. What a getter reads is `Gralloc.Mapper.AgreeAt`: two records agree at a type when it
reads the same in both. A set then does one of two things. It is refused, and the record is
as it was (`Gralloc.Mapper.setMetadata_of_ne_ok`); or it is granted, and the record agrees
with the old one everywhere but at its type (`Gralloc.Mapper.agreeAt_afterSet`). So a
whole run keeps every type that nobody may set, and keeps the crop inside the first plane
(`Gralloc.Mapper.framed_runCalls`).
-/

namespace Gralloc

namespace Mapper

open CInt Transition

/-! ### Payloads -/

/-- **The decoders** of the framework, partial functions on bytes. -/
structure Decoders where
  dataspace : List (BitVec 8) → Option Dataspace
  chromaSiting : List (BitVec 8) → Option ExtendableType
  blendMode : List (BitVec 8) → Option BlendMode
  smpte2086 : List (BitVec 8) → Option (Option Smpte2086)
  cta861_3 : List (BitVec 8) → Option (Option Cta861_3)
  smpte2094_40 : List (BitVec 8) → Option (Option (List (BitVec 8)))
  smpte2094_10 : List (BitVec 8) → Option (Option (List (BitVec 8)))
  /-- A rectangle, and the ones behind it. -/
  crop : List (BitVec 8) → Option (ARect × List ARect)
  /-- A number, behind a header that names its type. -/
  decodeInt32 : AmlMetadataType → List (BitVec 8) → Option (BitVec 32)

section

variable (dec : Decoders) (payload : List (BitVec 8))

/-- What the bytes of a payload ask for, under a type. -/
def request : MetadataType → SetRequest
  | .standard .dataspace => (dec.dataspace payload).elim .unsupported .dataspace
  | .standard .chromaSiting => (dec.chromaSiting payload).elim .unsupported .chromaSiting
  | .standard .blendMode => (dec.blendMode payload).elim .unsupported .blendMode
  | .standard .smpte2086 => (dec.smpte2086 payload).elim .unsupported .smpte2086
  | .standard .cta861_3 => (dec.cta861_3 payload).elim .unsupported .cta861_3
  | .standard .smpte2094_40 => (dec.smpte2094_40 payload).elim .unsupported .smpte2094_40
  | .standard .smpte2094_10 => (dec.smpte2094_10 payload).elim .unsupported .smpte2094_10
  | .standard .crop => (dec.crop payload).elim .unsupported fun rs => .crop rs.1
  -- these cannot be changed after the allocation
  | .standard .bufferId | .standard .name | .standard .width | .standard .height
  | .standard .layerCount | .standard .pixelFormatRequested | .standard .usage => .fixed
  | .standard _ => .unsupported
  | .aml .amOmxTunnel => (dec.decodeInt32 .amOmxTunnel payload).elim .unsupported .amOmxTunnel
  | .aml .amOmxFlag => (dec.decodeInt32 .amOmxFlag payload).elim .unsupported .amOmxFlag
  | .aml .amOmxVideoType =>
    (dec.decodeInt32 .amOmxVideoType payload).elim .unsupported .amOmxVideoType
  | .aml .amOmxBufferSequence =>
    (dec.decodeInt32 .amOmxBufferSequence payload).elim .unsupported .amOmxBufferSequence
  | .aml .invalid | .arm _ | .other => .unsupported

end

/-- A call of a client: a type, and bytes for it. -/
structure SetCall where
  type : MetadataType
  payload : List (BitVec 8)

/-- **Setting metadata from a payload.** -/
def setPayload (dec : Decoders) (hnd : PrivateHandle) (m : SharedMetadata) (c : SetCall) :
    Except MapperError Unit × SharedMetadata :=
  setMetadata hnd m (request dec c.payload c.type)

/-- The record after a call. -/
def afterSet (dec : Decoders) (hnd : PrivateHandle) (m : SharedMetadata) (c : SetCall) :
    SharedMetadata :=
  (setPayload dec hnd m c).2

/-! ### Refused calls -/

section

variable {hnd : PrivateHandle} {m m' : SharedMetadata}

theorem orUnsupported_of_ne_ok {o : Option SharedMetadata}
    (h : (orUnsupported m o).1 ≠ .ok ()) : (orUnsupported m o).2 = m := by
  cases o with
  | none => rfl
  | some m' => exact absurd rfl h

/-- **A set that is refused** changes nothing. -/
theorem setMetadata_of_ne_ok {req : SetRequest} (h : (setMetadata hnd m req).1 ≠ .ok ()) :
    (setMetadata hnd m req).2 = m := by
  cases req with
  | dataspace d =>
    rw [setMetadata] at h ⊢
    split_ifs at h ⊢ with h₁ h₂
    · rfl
    · exact absurd rfl h
    · rfl
  | chromaSiting c =>
    rw [setMetadata] at h ⊢
    split_ifs at h ⊢ with h₁
    · exact absurd rfl h
    · rfl
  | smpte2094_40 v | smpte2094_10 v | crop r => exact orUnsupported_of_ne_ok h
  | blendMode _ | smpte2086 _ | cta861_3 _ | amOmxTunnel _ | amOmxFlag _ | amOmxVideoType _
  | amOmxBufferSequence _ => exact absurd rfl h
  | fixed | unsupported => rfl

end

/-! ### The fields of the record -/

/-- The fields of the record, named as their types. -/
inductive MetadataField where
  | blendMode
  | crop
  | cta861_3
  | dataspace
  | chromaSiting
  | smpte2086
  | smpte2094_40
  | smpte2094_10
  | name
  | amOmxTunnel
  | amOmxFlag
  | amOmxVideoType
  | amOmxBufferSequence
  deriving DecidableEq, Repr

namespace MetadataField

/-- The type whose getter reads a field. -/
def type : MetadataField → MetadataType
  | .blendMode => .standard .blendMode
  | .crop => .standard .crop
  | .cta861_3 => .standard .cta861_3
  | .dataspace => .standard .dataspace
  | .chromaSiting => .standard .chromaSiting
  | .smpte2086 => .standard .smpte2086
  | .smpte2094_40 => .standard .smpte2094_40
  | .smpte2094_10 => .standard .smpte2094_10
  | .name => .standard .name
  | .amOmxTunnel => .aml .amOmxTunnel
  | .amOmxFlag => .aml .amOmxFlag
  | .amOmxVideoType => .aml .amOmxVideoType
  | .amOmxBufferSequence => .aml .amOmxBufferSequence

/-- Two records are the same in a field. -/
def Same (m m' : SharedMetadata) : MetadataField → Prop
  | .blendMode => m.blendMode = m'.blendMode
  | .crop => m.crop = m'.crop
  | .cta861_3 => m.cta861_3 = m'.cta861_3
  | .dataspace => m.dataspace = m'.dataspace
  | .chromaSiting => m.chromaSiting = m'.chromaSiting
  | .smpte2086 => m.smpte2086 = m'.smpte2086
  | .smpte2094_40 => m.smpte2094_40 = m'.smpte2094_40
  | .smpte2094_10 => m.smpte2094_10 = m'.smpte2094_10
  | .name => m.name = m'.name
  | .amOmxTunnel => m.amOmxTunnel = m'.amOmxTunnel
  | .amOmxFlag => m.amOmxFlag = m'.amOmxFlag
  | .amOmxVideoType => m.amOmxVideoType = m'.amOmxVideoType
  | .amOmxBufferSequence => m.amOmxBufferSequence = m'.amOmxBufferSequence

variable {m m' m'' : SharedMetadata}

theorem Same.refl (f : MetadataField) (m : SharedMetadata) : f.Same m m := by
  cases f <;> rfl

theorem Same.trans {f : MetadataField} (h : f.Same m m') (h' : f.Same m' m'') :
    f.Same m m'' := by
  cases f <;> exact Eq.trans h h'

end MetadataField

/-- The field that a request is for, if there is one. -/
def SetRequest.field : SetRequest → Option MetadataField
  | .dataspace _ => some .dataspace
  | .chromaSiting _ => some .chromaSiting
  | .blendMode _ => some .blendMode
  | .smpte2086 _ => some .smpte2086
  | .cta861_3 _ => some .cta861_3
  | .smpte2094_40 _ => some .smpte2094_40
  | .smpte2094_10 _ => some .smpte2094_10
  | .crop _ => some .crop
  | .amOmxTunnel _ => some .amOmxTunnel
  | .amOmxFlag _ => some .amOmxFlag
  | .amOmxVideoType _ => some .amOmxVideoType
  | .amOmxBufferSequence _ => some .amOmxBufferSequence
  | .fixed | .unsupported => none

/-- **Two records agree at a type**: its getter reads the same in both. -/
def AgreeAt (t : MetadataType) (m m' : SharedMetadata) : Prop :=
  ∀ f : MetadataField, f.type = t → f.Same m m'

section

variable {hnd : PrivateHandle} {m : SharedMetadata}

/-- **A request changes its field** and no other one. -/
theorem same_setMetadata {req : SetRequest} {f : MetadataField} (h : req.field ≠ some f) :
    f.Same m (setMetadata hnd m req).2 := by
  cases req with
  | dataspace d =>
    rw [setMetadata]
    split_ifs
    · exact .refl f m
    · cases f <;> first | rfl | exact absurd rfl h
    · exact .refl f m
  | chromaSiting c =>
    rw [setMetadata]
    split_ifs
    · cases f <;> first | rfl | exact absurd rfl h
    · exact .refl f m
  | smpte2086 s =>
    cases s <;> cases f <;> first | rfl | exact absurd rfl h
  | cta861_3 c =>
    cases c <;> cases f <;> first | rfl | exact absurd rfl h
  | smpte2094_40 v =>
    rw [setMetadata, SharedMetadata.setSmpte2094_40]
    cases m.smpte2094_40.store v with
    | none => exact .refl f m
    | some w => cases f <;> first | rfl | exact absurd rfl h
  | smpte2094_10 v =>
    rw [setMetadata, SharedMetadata.setSmpte2094_10]
    cases m.smpte2094_10.store v with
    | none => exact .refl f m
    | some w => cases f <;> first | rfl | exact absurd rfl h
  | crop r =>
    rw [setMetadata, SharedMetadata.setCropRect]
    split_ifs
    · cases f <;> first | rfl | exact absurd rfl h
    · exact .refl f m
  | blendMode _ | amOmxTunnel _ | amOmxFlag _ | amOmxVideoType _ | amOmxBufferSequence _ =>
    cases f <;> first | rfl | exact absurd rfl h
  | fixed | unsupported => exact .refl f m

/-- A payload asks for the field of its type, if it asks for one. -/
theorem type_of_field_request {dec : Decoders} {payload : List (BitVec 8)} {t : MetadataType}
    {f : MetadataField} (h : (request dec payload t).field = some f) : f.type = t := by
  have helim {α : Type} {o : Option α} {g : α → SetRequest} {f' : MetadataField}
      (hg : ∀ a, (g a).field = some f') (ho : (o.elim SetRequest.unsupported g).field = some f) :
      f = f' := by
    cases o with
    | none => cases ho
    | some a => exact Option.some_inj.mp (ho.symm.trans (hg a))
  rcases t with t | t | t | _
  · cases t <;> first | cases h | rw [helim (fun _ => rfl) h]; rfl
  · cases h
  · cases t <;> first | cases h | rw [helim (fun _ => rfl) h]; rfl
  · cases h

/-- **A call leaves the other types alone.** -/
theorem agreeAt_afterSet (dec : Decoders) {c : SetCall} {t : MetadataType} (h : t ≠ c.type) :
    AgreeAt t m (afterSet dec hnd m c) := by
  rintro f rfl
  refine same_setMetadata fun hf => h ?_
  exact type_of_field_request hf

/-- **The types that nobody may set** stay as they are. -/
theorem agreeAt_afterSet_of_not_isMutable (dec : Decoders) (c : SetCall) {t : MetadataType}
    (h : isMutable t = false) : AgreeAt t m (afterSet dec hnd m c) := by
  rintro f rfl
  refine same_setMetadata fun hf => ?_
  have hset : ∀ req : SetRequest, req.field = some f → isMutable f.type = true := by
    rintro (_ | _ | _ | _ | _ | _ | _ | _ | _ | _ | _ | _ | _ | _) hreq <;> cases hreq <;> rfl
  rw [hset _ hf] at h
  cases h

end

/-! ### What is reported -/

/-- An imported handle, with the metadata that it maps. -/
def MetadataHandle.withAttr (hnd : MetadataHandle) (m : SharedMetadata) : MetadataHandle :=
  { hnd with attr := some m }

/-- **Records that agree at a type** are reported alike. -/
theorem getMetadata_congr {hnd : MetadataHandle} {m m' : SharedMetadata} {t : MetadataType}
    (h : AgreeAt t m m') (stablec : Bool) :
    getMetadata (hnd.withAttr m) stablec t = getMetadata (hnd.withAttr m') stablec t := by
  have hok {α : Type} (k : α → MetadataValue) {a b : α} (hab : a = b) :
      (.ok (.ok (k a)) : Run (Except MapperError MetadataValue)) = .ok (.ok (k b)) := by rw [hab]
  rcases t with t | t | t | _
  · cases t with
    | name =>
      have hget : m.getName = m'.getName :=
        congrArg (fun w : AlignedInlineVector _ _ => w.contents.take w.size) (h .name rfl)
      exact hok .string hget
    | dataspace =>
      have hget : m.getDataspace = m'.getDataspace :=
        congrArg AlignedOptional.toOption (h .dataspace rfl)
      exact hok (fun o : Option Dataspace => .int32 (o.getD dataspaceUnknown)) hget
    | blendMode =>
      have hget : m.getBlendMode = m'.getBlendMode :=
        congrArg AlignedOptional.toOption (h .blendMode rfl)
      exact hok (fun o : Option BlendMode => .int32 (o.getD blendModeInvalid)) hget
    | crop =>
      have hget : m.getCropRect = m'.getCropRect :=
        congrArg AlignedOptional.toOption (h .crop rfl)
      exact hok (fun o => .rects (cropRects hnd.toPrivateHandle o)) hget
    | smpte2086 => exact hok (.smpte2086 ∘ AlignedOptional.toOption) (h .smpte2086 rfl)
    | cta861_3 => exact hok (.cta861_3 ∘ AlignedOptional.toOption) (h .cta861_3 rfl)
    | smpte2094_40 => exact hok (.blob ∘ AlignedInlineVector.get) (h .smpte2094_40 rfl)
    | smpte2094_10 => exact hok (.blob ∘ AlignedInlineVector.get) (h .smpte2094_10 rfl)
    | chromaSiting =>
      have hget : m.getChromaSiting = m'.getChromaSiting := by
        have hf : m.chromaSiting = m'.chromaSiting := h .chromaSiting rfl
        rw [SharedMetadata.getChromaSiting, hf, SharedMetadata.getChromaSiting]
      simp only [getMetadata, getStandardMetadata, MetadataHandle.withAttr]
      cases hnd.allocFormat.getBaseInfo with
      | none => rfl
      | some f =>
        exact hok (fun o : Option ExtendableType => .extendable (o.getD (defaultChromaSiting f)))
          hget
    | _ => rfl
  · cases t <;> rfl
  · cases t with
    | amOmxTunnel => exact hok .int32 (h .amOmxTunnel rfl)
    | amOmxFlag => exact hok .int32 (h .amOmxFlag rfl)
    | amOmxVideoType => exact hok .int32 (h .amOmxVideoType rfl)
    | amOmxBufferSequence => exact hok .int32 (h .amOmxBufferSequence rfl)
    | invalid => rfl
  · rfl

/-! ### The crop -/

/-- **A crop lies inside the first plane**, and is as large as the buffer. -/
structure CropFits (hnd : PrivateHandle) (r : ARect) : Prop where
  left_nonneg : 0 ≤ r.left.toInt
  top_nonneg : 0 ≤ r.top.toInt
  left_le_right : r.left.toInt ≤ r.right.toInt
  top_le_bottom : r.top.toInt ≤ r.bottom.toInt
  right_le : r.right.toInt ≤ hnd.planeInfo.p0.allocWidth
  bottom_le : r.bottom.toInt ≤ hnd.planeInfo.p0.allocHeight
  width_eq : r.right.toInt - r.left.toInt = hnd.width
  height_eq : r.bottom.toInt - r.top.toInt = hnd.height

/-- The stored crop, unless there is none, fits. -/
def CropInside (hnd : PrivateHandle) (m : SharedMetadata) : Prop :=
  ∀ r, m.getCropRect = some r → CropFits hnd r

section

variable {hnd : PrivateHandle} {m : SharedMetadata}

theorem cropFits_of_cropIsValid {r : ARect} (h : SharedMetadata.cropIsValid hnd r) :
    CropFits hnd r := by
  simp only [SharedMetadata.cropIsValid, Bool.and_eq_true, decide_eq_true_eq] at h
  obtain ⟨⟨⟨⟨⟨⟨⟨htop, hleft⟩, hlr⟩, hr⟩, htb⟩, hb⟩, hw⟩, hh⟩ := h
  -- the bounds are compared as unsigned words, which a number is that is not negative
  have hword {w : BitVec 32} {n : ℕ} (hw : w.toNat ≤ n) : w.toInt ≤ n := by
    rw [BitVec.toInt_eq_toNat_cond]
    split_ifs <;> omega
  exact ⟨hleft, htop, hlr, htb, hword hr, hword hb, hw, hh⟩

/-- **Every call keeps the crop inside.** -/
theorem cropInside_afterSet (dec : Decoders) (h : CropInside hnd m) (c : SetCall) :
    CropInside hnd (afterSet dec hnd m c) := by
  rw [afterSet, setPayload]
  generalize hreq : request dec c.payload c.type = req
  by_cases hcrop : req.field = some .crop
  · cases req <;> cases hcrop
    rename_i r
    rw [setMetadata, SharedMetadata.setCropRect]
    split_ifs with hvalid
    · rintro r' hr'
      obtain rfl : r = r' := Option.some_inj.mp hr'
      exact cropFits_of_cropIsValid hvalid
    · exact h
  · -- the other calls leave the crop as it was
    have hsame : m.crop = (setMetadata hnd m req).2.crop := same_setMetadata (f := .crop) hcrop
    rintro r hr
    exact h r (by rw [SharedMetadata.getCropRect, hsame]; exact hr)

end

/-! ### Runs -/

/-- **What a state of a run is**: a call that is refused changes nothing; one that is granted
changes what is reported for its own type only; the types that nobody may set are reported as
they were at the start; and the crop is inside. -/
structure Framed (dec : Decoders) (hnd : MetadataHandle) (m₀ m : SharedMetadata) : Prop where
  refused : ∀ c, (setPayload dec hnd.toPrivateHandle m c).1 ≠ .ok () →
    (setPayload dec hnd.toPrivateHandle m c).2 = m
  granted : ∀ c stablec t,
    (setPayload dec hnd.toPrivateHandle m c).1 = .ok () → t ≠ c.type →
    getMetadata (hnd.withAttr (setPayload dec hnd.toPrivateHandle m c).2) stablec t =
      getMetadata (hnd.withAttr m) stablec t
  fixed : ∀ stablec t, isMutable t = false →
    getMetadata (hnd.withAttr m) stablec t = getMetadata (hnd.withAttr m₀) stablec t
  crop : CropInside hnd.toPrivateHandle m

section

variable (dec : Decoders) (hnd : MetadataHandle)

/-- The record after a sequence of calls. -/
def runCalls (m : SharedMetadata) (calls : List SetCall) : SharedMetadata :=
  calls.foldl (afterSet dec hnd.toPrivateHandle) m

theorem agreeAt_runCalls_of_not_isMutable (m : SharedMetadata) (calls : List SetCall)
    {t : MetadataType} (h : isMutable t = false) : AgreeAt t m (runCalls dec hnd m calls) := by
  refine invariant_foldl (fun f _ => .refl f m) (fun m' c hm' => ?_) calls
  exact fun f hf => (hm' f hf).trans (agreeAt_afterSet_of_not_isMutable dec c h f hf)

/-- A new buffer has no crop. -/
theorem cropInside_init (hnd : PrivateHandle) (name : List (BitVec 8)) (dataspace : Dataspace)
    (chromaSiting : ExtendableType) : CropInside hnd (.init name dataspace chromaSiting) := by
  rintro r hr
  cases hr

/-- **Every run of sets** on the metadata of a new buffer is framed, whatever the payloads
are and whatever the decoders make of them. -/
theorem framed_runCalls (name : List (BitVec 8)) (dataspace : Dataspace)
    (chromaSiting : ExtendableType) (calls : List SetCall) :
    Framed dec hnd (.init name dataspace chromaSiting)
      (runCalls dec hnd (.init name dataspace chromaSiting) calls) where
  refused _ hc := setMetadata_of_ne_ok hc
  granted _ stablec _ _ ht := (getMetadata_congr (agreeAt_afterSet dec ht) stablec).symm
  fixed stablec _ ht :=
    (getMetadata_congr (agreeAt_runCalls_of_not_isMutable dec hnd _ calls ht) stablec).symm
  crop :=
    invariant_foldl (cropInside_init _ name dataspace chromaSiting)
      (fun _ c hm => cropInside_afterSet dec hm c) calls

end

end Mapper

end Gralloc
