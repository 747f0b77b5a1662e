import Gralloc.Alloc.Layout
import Gralloc.CInt.Bytes
import Gralloc.Mapper.Payload

/-!
# The crop

The crop of a buffer is set from the bytes of a list of rectangles, of which the first one
counts. Whether that list has a first one is not asked (`Gralloc.Mapper.setCrop`), although
a client may well send the bytes of the empty list. Everything behind that is exact: the
rectangle is stored when it lies inside the first plane and is as large as the buffer, in
integers that have no bound (`Gralloc.Mapper.cropIsValid_iff`), and it is refused otherwise.

Where no crop is stored, the buffer itself is reported, from the origin to its width and
height. To set what is reported is therefore to ask whether the buffer fits in its first
plane (`Gralloc.Mapper.BufferFits`), as it does in every layout that is computed without
overflow (`Gralloc.Mapper.bufferFits_of_bounds`). The two conditions together are exact
(`Gralloc.Mapper.cropSound_iff`).
-/

namespace Gralloc

namespace Mapper

open CInt Transition

/-! ### Lists of rectangles -/

/-- **The coding of a list of rectangles**, which is the framework's. -/
structure CropCodec where
  encode : List ARect → List (BitVec 8)
  decode : List (BitVec 8) → Option (List ARect)
  decode_encode : ∀ crops, crops.length < 2 ^ 63 → decode (encode crops) = some crops

/-- A rectangle and the ones behind it, if there is one. -/
def firstRect : List ARect → Option (ARect × List ARect)
  | [] => none
  | crop :: crops => some (crop, crops)

/-- The decoders of the framework, with one for crops that refuses the empty list. -/
def CropCodec.decoders (codec : CropCodec) (dec : Decoders) : Decoders :=
  { dec with crop := fun payload => (codec.decode payload).bind firstRect }

section

variable (codec : CropCodec) (dec : Decoders) (hnd : PrivateHandle)

/-- **Setting the crop from a payload**; no result, where a rectangle is read that is not in
the list. -/
def setCrop (m : SharedMetadata) (payload : List (BitVec 8)) :
    Option (Except MapperError Unit × SharedMetadata) :=
  match codec.decode payload with
  | none => some (.error .unsupported, m)
  | some crops => crops[0]?.map fun crop => orUnsupported m (m.setCropRect hnd crop)

/-- A call of a client. -/
def setBytes (m : SharedMetadata) (c : SetCall) :
    Option (Except MapperError Unit × SharedMetadata) :=
  if c.type = .standard .crop then setCrop codec hnd m c.payload
  else some (setPayload dec hnd m c)

/-- The record after a sequence of calls. -/
def runBytes (m : SharedMetadata) : List SetCall → Option SharedMetadata
  | [] => some m
  | c :: cs =>
    match setBytes codec dec hnd m c with
    | none => none
    | some (_, m) => runBytes m cs

end

section

variable {codec : CropCodec} {dec : Decoders} {hnd : PrivateHandle} {m m' : SharedMetadata}

theorem setCrop_of_eq_cons {payload : List (BitVec 8)} {crop : ARect} {crops : List ARect}
    (h : codec.decode payload = some (crop :: crops)) :
    setCrop codec hnd m payload = some (setMetadata hnd m (.crop crop)) := by
  rw [setCrop, h]
  rfl

/-- A rectangle is read that is not there, exactly if there is none. -/
theorem setCrop_eq_none_iff {payload : List (BitVec 8)} :
    setCrop codec hnd m payload = none ↔ codec.decode payload = some [] := by
  rw [setCrop]
  rcases codec.decode payload with _ | _ | ⟨crop, crops⟩ <;> simp

/-- **A call that has a result** has the one it has with decoders that see no empty list. -/
theorem setBytes_eq_some {c : SetCall} {s : Except MapperError Unit × SharedMetadata}
    (h : setBytes codec dec hnd m c = some s) : setPayload (codec.decoders dec) hnd m c = s := by
  obtain ⟨t, payload⟩ := c
  by_cases ht : t = .standard .crop
  · subst ht
    rw [setBytes, if_pos rfl, setCrop] at h
    change setMetadata hnd m (((codec.decode payload).bind firstRect).elim .unsupported _) = s
    rcases hdec : codec.decode payload with _ | _ | ⟨crop, crops⟩ <;> rw [hdec] at h <;> cases h <;>
      rfl
  · rw [setBytes, if_neg ht] at h
    rw [← Option.some_inj.mp h, setPayload, setPayload]
    congr 1
    rcases t with t | t | t | _
    · cases t <;> first | rfl | exact absurd rfl ht
    · rfl
    · cases t <;> rfl
    · rfl

/-- **Every run keeps the crop inside.** -/
theorem cropInside_runBytes {calls : List SetCall} (hm : CropInside hnd m)
    (h : runBytes codec dec hnd m calls = some m') : CropInside hnd m' := by
  induction calls generalizing m with
  | nil =>
    cases h
    exact hm
  | cons c cs ih =>
    rw [runBytes] at h
    rcases hs : setBytes codec dec hnd m c with _ | ⟨r, m₁⟩
    · rw [hs] at h
      cases h
    · rw [hs] at h
      have hstep := cropInside_afterSet (codec.decoders dec) hm c
      rw [afterSet, setBytes_eq_some hs] at hstep
      exact ih hstep h

end

/-! ### What fits -/

section

variable {hnd : PrivateHandle}

/-- **The test of a crop is exact**: no sum wraps, and no sign is lost. -/
theorem cropIsValid_iff {r : ARect} : SharedMetadata.cropIsValid hnd r = true ↔ CropFits hnd r := by
  refine ⟨cropFits_of_cropIsValid, ?_⟩
  rintro ⟨hleft, htop, hlr, htb, hr, hb, hw, hh⟩
  -- a number that is not negative is the same word without a sign
  have hword {w : BitVec 32} {n : ℕ} (hw₀ : 0 ≤ w.toInt) (hwn : w.toInt ≤ n) : w.toNat ≤ n := by
    rw [BitVec.toInt_eq_toNat_cond] at hw₀ hwn
    split_ifs at hw₀ hwn <;> omega
  simp only [SharedMetadata.cropIsValid, Bool.and_eq_true, decide_eq_true_eq]
  exact ⟨⟨⟨⟨⟨⟨⟨htop, hleft⟩, hlr⟩, hword (hleft.trans hlr) hr⟩, htb⟩,
    hword (htop.trans htb) hb⟩, hw⟩, hh⟩

instance (hnd : PrivateHandle) (r : ARect) : Decidable (CropFits hnd r) :=
  decidable_of_iff _ cropIsValid_iff

/-- **The buffer fits in its first plane.** -/
structure BufferFits (hnd : PrivateHandle) : Prop where
  width_nonneg : 0 ≤ hnd.width
  height_nonneg : 0 ≤ hnd.height
  width_le : hnd.width ≤ hnd.planeInfo.p0.allocWidth
  height_le : hnd.height ≤ hnd.planeInfo.p0.allocHeight

/-- The crop that is reported where none is stored: the buffer. -/
def bufferCrop (hnd : PrivateHandle) : ARect :=
  ⟨0#32, 0#32, BitVec.ofInt 32 hnd.width, BitVec.ofInt 32 hnd.height⟩

theorem cropFits_bufferCrop_iff (hw : hnd.width < 2 ^ 31) (hh : hnd.height < 2 ^ 31) :
    CropFits hnd (bufferCrop hnd) ↔ BufferFits hnd := by
  have hzero : (0#32).toInt = 0 := rfl
  constructor
  · rintro ⟨-, -, hlr, htb, hr, hb, hwidth, hheight⟩
    simp only [bufferCrop, hzero, sub_zero] at hlr htb hr hb hwidth hheight
    exact ⟨hwidth ▸ hlr, hheight ▸ htb, hwidth ▸ hr, hheight ▸ hb⟩
  · rintro ⟨hw₀, hh₀, hwidth, hheight⟩
    have hint {x : ℤ} (h₀ : 0 ≤ x) (hx : x < 2 ^ 31) : (BitVec.ofInt 32 x).toInt = x := by
      rw [BitVec.toInt_ofInt]
      exact Int.bmod_eq_of_le_mul_two (by omega) (by omega)
    constructor <;> simp only [bufferCrop, hzero, hint hw₀ hw, hint hh₀ hh] <;> omega

section

variable {displays : Displays} {heap : ℕ → Bool} {caps : Capabilities}
  {node : ℕ → Option DecoderPara} {d : BufferDescriptor}

/-- A handle has the extent that was asked for, and the planes that were derived. -/
theorem extent_of_bufferAllocate
    (ha : bufferAllocate wrapping displays heap caps node d = .ok (some hnd)) :
    hnd.width = toInt d.width.toNat ∧ hnd.height = toInt d.height.toNat ∧
      ∃ d', deriveFormatAndSize wrapping caps node d = .ok (.success, d') ∧
        hnd.planeInfo = d'.planeInfo := by
  obtain ⟨d', size, hd, hmake⟩ := derived_of_bufferAllocate ha
  have hextent : d'.width = d.width ∧ d'.height = d.height := by
    obtain ⟨_, -, _, -, _, -, _, -, _, -, rfl⟩ := deriveFormatAndSize_eq_success.mp hd
    exact ⟨prepared_width .., prepared_height ..⟩
  obtain ⟨f, -, rfl⟩ := Option.map_eq_some_iff.mp hmake
  refine ⟨?_, ?_, d', hd, rfl⟩
  · simp only [hextent.1]
  · simp only [hextent.2]

/-- The first plane of a layout is at least as large as the buffer. -/
theorem le_planeWidth_zero (caps : Capabilities) (node : ℕ → Option DecoderPara)
    (c : Choice d.usage d.height) :
    d.width.toNat ≤ Exact.planeWidth c (prepared caps node d) 0 ∧
      d.height.toNat ≤ Exact.planeHeight c (prepared caps node d) 0 := by
  have hf := c.info_wellFormed
  obtain ⟨hw, hh⟩ := base_le_plane caps node c 0
  rw [Exact.baseWidth_zero] at hw
  rw [Exact.baseHeight_zero] at hh
  exact ⟨(le_alignUp hf.alignW_pos).trans hw, (le_alignUp hf.alignH_pos).trans hh⟩

/-- **A layout without overflow** has room for the buffer in its first plane. -/
theorem bufferFits_of_bounds {c : Choice d.usage d.height}
    (ha : bufferAllocate wrapping displays heap caps node d = .ok (some hnd))
    (hc : choose caps d = some c) (hB : Exact.Bounds c (prepared caps node d)) :
    BufferFits hnd := by
  obtain ⟨hwidth, hheight, d', hd, hplanes⟩ := extent_of_bufferAllocate ha
  obtain ⟨hdw, hdh⟩ := Exact.le_dims c.format (prepared caps node d)
  rw [prepared_width] at hdw
  rw [prepared_height] at hdh
  rw [toInt_of_lt (hdw.trans_lt hB.width)] at hwidth
  rw [toInt_of_lt (hdh.trans_lt hB.height)] at hheight
  have hplane : hnd.planeInfo.get 0 = Exact.plane c.info c.allocType d.usage
      (Exact.dims c.format (prepared caps node d)).1
      (Exact.dims c.format (prepared caps node d)).2 0 := by
    rw [hplanes, (layer_eq_exact hc hd hB).1]
    exact Exact.layer_get c _ 0 c.info_wellFormed.npln_pos
  obtain ⟨hw, hh⟩ := le_planeWidth_zero caps node c
  constructor
  · rw [hwidth]
    exact Int.natCast_nonneg _
  · rw [hheight]
    exact Int.natCast_nonneg _
  · change hnd.width ≤ (hnd.planeInfo.get 0).allocWidth
    rw [hwidth, hplane]
    exact Int.ofNat_le.mpr hw
  · change hnd.height ≤ (hnd.planeInfo.get 0).allocHeight
    rw [hheight, hplane]
    exact Int.ofNat_le.mpr hh

end

end

/-! ### Setting and reporting -/

section

variable (codec : CropCodec) (hnd : MetadataHandle) (m : SharedMetadata)

/-- **The crop that is reported may be set**, after which nothing is reported otherwise than
before; if it was stored, the record is the same. -/
def ReportSettable : Prop :=
  ∃ crops m',
    (∀ stablec, getMetadata (hnd.withAttr m) stablec (.standard .crop) =
      .ok (.ok (.rects crops))) ∧
    setCrop codec hnd.toPrivateHandle m (codec.encode crops) = some (.ok (), m') ∧
    (∀ stablec t, getMetadata (hnd.withAttr m') stablec t =
      getMetadata (hnd.withAttr m) stablec t) ∧
    (m.getCropRect ≠ none → m' = m)

/-- **Setting a crop is total and safe**, and what is reported may be set. -/
structure CropSound (payload : List (BitVec 8)) : Prop where
  /-- Only rectangles of the list are read. -/
  reads : setCrop codec hnd.toPrivateHandle m payload ≠ none
  /-- A set is granted exactly when there is a first rectangle, and it fits. -/
  granted : ∀ r m', setCrop codec hnd.toPrivateHandle m payload = some (r, m') →
    (r = .ok () ↔ ∃ crop crops, codec.decode payload = some (crop :: crops) ∧
      CropFits hnd.toPrivateHandle crop)
  /-- A set that is not granted leaves the record alone. -/
  refused : ∀ r m', setCrop codec hnd.toPrivateHandle m payload = some (r, m') →
    r ≠ .ok () → m' = m
  reported : ReportSettable codec hnd m

end

section

variable {codec : CropCodec} {hnd : MetadataHandle} {m : SharedMetadata}

/-- The first rectangle that is reported is the stored one, or the buffer. -/
theorem cropRects_eq_cons (hnd : PrivateHandle) (crop : Option ARect) :
    ∃ crops, cropRects hnd crop = crop.getD (bufferCrop hnd) :: crops ∧ crops.length < 3 := by
  obtain ⟨n, hn, hlt⟩ : ∃ n, hnd.getNumPlanes = n + 1 ∧ n < 3 := by
    rcases getNumPlanes_cases hnd with h | h | h
    · exact ⟨0, h, by omega⟩
    · exact ⟨1, h, by omega⟩
    · exact ⟨2, h, by omega⟩
  rw [cropRects, hn, List.range_succ_eq_map, List.map_cons]
  refine ⟨_, rfl, ?_⟩
  rwa [List.length_map, List.length_map, List.length_range]

/-- Setting the list that is reported is to ask for its first rectangle. -/
theorem setCrop_encode_cropRects (codec : CropCodec) (hnd : PrivateHandle) (m : SharedMetadata) :
    setCrop codec hnd m (codec.encode (cropRects hnd m.getCropRect)) =
      some (setMetadata hnd m (.crop (m.getCropRect.getD (bufferCrop hnd)))) := by
  obtain ⟨crops, heq, hlt⟩ := cropRects_eq_cons hnd m.getCropRect
  have hdec : codec.decode (codec.encode (cropRects hnd m.getCropRect)) =
      some (m.getCropRect.getD (bufferCrop hnd) :: crops) := by
    rw [codec.decode_encode _ (by rw [heq, List.length_cons]; omega), heq]
  exact setCrop_of_eq_cons hdec

/-- **What a request for a crop does.** -/
theorem setMetadata_crop (hnd : PrivateHandle) (m : SharedMetadata) (crop : ARect) :
    setMetadata hnd m (.crop crop) =
      if CropFits hnd crop then (.ok (), { m with crop := .ofValue crop })
      else (.error .unsupported, m) := by
  rw [setMetadata, SharedMetadata.setCropRect]
  by_cases hfits : CropFits hnd crop
  · rw [if_pos hfits, if_pos (cropIsValid_iff.mpr hfits)]
    rfl
  · rw [if_neg hfits, if_neg fun h => hfits (cropIsValid_iff.mp h)]
    rfl

/-- Storing the crop that is reported changes no report. -/
theorem getMetadata_reported (hnd : MetadataHandle) (m : SharedMetadata) (stablec : Bool)
    (t : MetadataType) :
    getMetadata (hnd.withAttr { m with
        crop := .ofValue (m.getCropRect.getD (bufferCrop hnd.toPrivateHandle)) }) stablec t =
      getMetadata (hnd.withAttr m) stablec t := by
  by_cases ht : t = .standard .crop
  · subst ht
    -- the default of a default is the default
    rfl
  · refine getMetadata_congr ?_ stablec
    rintro f rfl
    cases f <;> first | rfl | exact absurd rfl ht

/-- A crop that is stored is the one that a set would store. -/
theorem ofValue_getCropRect {r : ARect} (h : m.getCropRect = some r) :
    { m with crop := .ofValue r } = m := by
  obtain ⟨hocc, hitem⟩ := Option.ite_none_right_eq_some.mp h
  obtain rfl := Option.some_inj.mp hitem
  have hvalue : AlignedOptional.ofValue m.crop.item = m.crop := by
    rw [AlignedOptional.ofValue, ← hocc]
  rw [hvalue]

/-- **The crop that is reported may be set** exactly when it fits. -/
theorem reportSettable_iff (codec : CropCodec) (hnd : MetadataHandle) (m : SharedMetadata) :
    ReportSettable codec hnd m ↔
      CropFits hnd.toPrivateHandle (m.getCropRect.getD (bufferCrop hnd.toPrivateHandle)) := by
  have hget (stablec : Bool) : getMetadata (hnd.withAttr m) stablec (.standard .crop) =
      .ok (.ok (.rects (cropRects hnd.toPrivateHandle m.getCropRect))) := rfl
  constructor
  · rintro ⟨crops, m', hcrops, hset, -⟩
    have hrects := (hcrops false).symm.trans (hget false)
    obtain rfl : crops = cropRects hnd.toPrivateHandle m.getCropRect := by
      simpa only [Except.ok.injEq, MetadataValue.rects.injEq] using hrects
    rw [setCrop_encode_cropRects, setMetadata_crop, Option.some_inj] at hset
    by_contra hfits
    rw [if_neg hfits] at hset
    cases hset
  · intro hfits
    refine ⟨_, _, hget, ?_, getMetadata_reported hnd m, fun hsome => ?_⟩
    · rw [setCrop_encode_cropRects, setMetadata_crop, if_pos hfits]
    · obtain ⟨r, hr⟩ := Option.ne_none_iff_exists'.mp hsome
      rw [hr]
      exact ofValue_getCropRect hr

/-- A payload that has a result is not a list, or its first rectangle decides. -/
theorem setCrop_eq_some {hnd : PrivateHandle} {payload : List (BitVec 8)}
    {s : Except MapperError Unit × SharedMetadata} (h : setCrop codec hnd m payload = some s) :
    (codec.decode payload = none ∧ s = (.error .unsupported, m)) ∨
      ∃ crop crops, codec.decode payload = some (crop :: crops) ∧
        s = if CropFits hnd crop then (.ok (), { m with crop := .ofValue crop })
          else (.error .unsupported, m) := by
  rcases hdec : codec.decode payload with _ | _ | ⟨crop, crops⟩
  · rw [setCrop, hdec] at h
    exact Or.inl ⟨rfl, (Option.some_inj.mp h).symm⟩
  · rw [setCrop_eq_none_iff.mpr hdec] at h
    cases h
  · rw [setCrop_of_eq_cons hdec, setMetadata_crop] at h
    exact Or.inr ⟨crop, crops, rfl, (Option.some_inj.mp h).symm⟩

/-- **A set is granted** exactly when there is a first rectangle, and it fits. -/
theorem eq_ok_iff_of_setCrop {hnd : PrivateHandle} {payload : List (BitVec 8)}
    {r : Except MapperError Unit} {m' : SharedMetadata}
    (h : setCrop codec hnd m payload = some (r, m')) :
    (r = .ok () ↔ ∃ crop crops, codec.decode payload = some (crop :: crops) ∧
      CropFits hnd crop) ∧ (r ≠ .ok () → m' = m) := by
  rcases setCrop_eq_some h with ⟨hdec, hs⟩ | ⟨crop, crops, hdec, hs⟩
  · cases hs
    refine ⟨⟨fun hr => ?_, ?_⟩, fun _ => rfl⟩
    · cases hr
    · rintro ⟨_, _, hdec', -⟩
      rw [hdec] at hdec'
      cases hdec'
  · by_cases hfits : CropFits hnd crop
    · rw [if_pos hfits] at hs
      cases hs
      exact ⟨⟨fun _ => ⟨crop, crops, hdec, hfits⟩, fun _ => rfl⟩, fun hr => absurd rfl hr⟩
    · rw [if_neg hfits] at hs
      cases hs
      refine ⟨⟨fun hr => ?_, ?_⟩, fun _ => rfl⟩
      · cases hr
      · rintro ⟨_, _, hdec', hfits'⟩
        rw [hdec] at hdec'
        cases hdec'
        exact absurd hfits' hfits

/-- What is reported fits if the buffer does, or a crop is stored. -/
theorem cropFits_reported_iff (hw : hnd.width < 2 ^ 31) (hh : hnd.height < 2 ^ 31)
    (hm : CropInside hnd.toPrivateHandle m) :
    CropFits hnd.toPrivateHandle (m.getCropRect.getD (bufferCrop hnd.toPrivateHandle)) ↔
      (m.getCropRect = none → BufferFits hnd.toPrivateHandle) := by
  rcases hcrop : m.getCropRect with _ | r
  · rw [Option.getD_none, cropFits_bufferCrop_iff hw hh, imp_iff_right rfl]
  · exact iff_of_true (hm r hcrop) fun h => by cases h

/-- **After every run of sets**, setting the crop is total and safe exactly when the payload
is not the empty list and the buffer fits in its first plane, unless a crop is stored. -/
theorem cropSound_iff {dec : Decoders} {name : List (BitVec 8)} {dataspace : Dataspace}
    {chromaSiting : ExtendableType} {calls : List SetCall} (hw : hnd.width < 2 ^ 31)
    (hh : hnd.height < 2 ^ 31)
    (hm : runBytes codec dec hnd.toPrivateHandle (.init name dataspace chromaSiting) calls =
      some m) (payload : List (BitVec 8)) :
    CropSound codec hnd m payload ↔
      codec.decode payload ≠ some [] ∧
        (m.getCropRect = none → BufferFits hnd.toPrivateHandle) := by
  have hinside := cropInside_runBytes (cropInside_init _ name dataspace chromaSiting) hm
  rw [← cropFits_reported_iff hw hh hinside, ← reportSettable_iff codec]
  constructor
  · rintro ⟨hreads, -, -, hreported⟩
    exact ⟨fun hdec => hreads (setCrop_eq_none_iff.mpr hdec), hreported⟩
  · rintro ⟨hdec, hreported⟩
    exact ⟨fun hnone => hdec (setCrop_eq_none_iff.mp hnone),
      fun r m' h => (eq_ok_iff_of_setCrop h).1, fun r m' h => (eq_ok_iff_of_setCrop h).2,
      hreported⟩

end

/-! ### The empty list -/

/-- What stands before a list of rectangles: the length of the name of the type, the name and
the number of the crop. -/
def cropHeader : List (BitVec 8) :=
  let name := "android.hardware.graphics.common.StandardMetadataType"
  leBytes 8 name.length ++ name.toList.map (fun c => BitVec.ofNat 8 c.toNat) ++ leBytes 8 16

/-- The numbers of a rectangle. -/
def rectWords (r : ARect) : List ℕ := [r.left.toNat, r.top.toNat, r.right.toNat, r.bottom.toNat]

/-- The rectangles of a list of numbers, four by four. -/
def rectsOfWords : List ℕ → List ARect
  | l :: t :: r :: b :: ws =>
    ⟨BitVec.ofNat 32 l, BitVec.ofNat 32 t, BitVec.ofNat 32 r, BitVec.ofNat 32 b⟩ :: rectsOfWords ws
  | _ => []

/-- A number of rectangles, and four numbers for each. -/
def encodeCrops (crops : List ARect) : List (BitVec 8) :=
  cropHeader ++ (leBytes 8 crops.length ++ (crops.flatMap rectWords).flatMap (leBytes 4))

def decodeCrops (bytes : List (BitVec 8)) : Option (List ARect) :=
  let body := bytes.drop cropHeader.length
  let count := ofLeBytes (body.take 8)
  let words := body.drop 8
  if bytes.take cropHeader.length = cropHeader ∧ 8 ≤ body.length ∧ words.length = 16 * count then
    some (rectsOfWords (ofLeWords 4 (4 * count) words))
  else none

theorem rectsOfWords_flatMap (crops : List ARect) :
    rectsOfWords (crops.flatMap rectWords) = crops := by
  induction crops with
  | nil => rfl
  | cons r crops ih =>
    change rectsOfWords (_ :: _ :: _ :: _ :: crops.flatMap rectWords) = _
    rw [rectsOfWords, ih]
    simp only [BitVec.ofNat_toNat, BitVec.setWidth_eq]

theorem length_flatMap_rectWords (crops : List ARect) :
    (crops.flatMap rectWords).length = 4 * crops.length := by
  induction crops with
  | nil => rfl
  | cons r crops ih =>
    rw [List.flatMap_cons, List.length_append, ih, List.length_cons]
    change 4 + _ = _
    omega

theorem lt_of_mem_flatMap_rectWords (crops : List ARect) :
    ∀ x ∈ crops.flatMap rectWords, x < 256 ^ 4 := by
  intro x hx
  obtain ⟨r, -, hx⟩ := List.mem_flatMap.mp hx
  simp only [rectWords, List.mem_cons, List.not_mem_nil, or_false] at hx
  rcases hx with rfl | rfl | rfl | rfl <;> exact BitVec.isLt _

/-- **Reading a list of rectangles after writing it.** -/
theorem decodeCrops_encodeCrops {crops : List ARect} (h : crops.length < 2 ^ 63) :
    decodeCrops (encodeCrops crops) = some crops := by
  have hcount : ofLeBytes (leBytes 8 crops.length) = crops.length :=
    ofLeBytes_leBytes_of_lt (h.trans (by decide))
  have hlen : ((crops.flatMap rectWords).flatMap (leBytes 4)).length = 16 * crops.length := by
    rw [length_flatMap_leBytes, length_flatMap_rectWords, ← Nat.mul_assoc]
  have hwords : ofLeWords 4 (4 * crops.length) ((crops.flatMap rectWords).flatMap (leBytes 4)) =
      crops.flatMap rectWords := by
    have hread := ofLeWords_flatMap (w := 4) (lt_of_mem_flatMap_rectWords crops) []
    rwa [length_flatMap_rectWords, List.append_nil] at hread
  have htake : (leBytes 8 crops.length ++
      (crops.flatMap rectWords).flatMap (leBytes 4)).take 8 = leBytes 8 crops.length :=
    List.take_left' (length_leBytes 8 _)
  have hdrop : (leBytes 8 crops.length ++
      (crops.flatMap rectWords).flatMap (leBytes 4)).drop 8 =
        (crops.flatMap rectWords).flatMap (leBytes 4) :=
    List.drop_left' (length_leBytes 8 _)
  rw [decodeCrops, encodeCrops]
  simp only [List.take_left, List.drop_left, htake, hdrop, hcount, hwords, hlen]
  rw [if_pos ⟨trivial, by rw [List.length_append, length_leBytes]; omega, trivial⟩,
    rectsOfWords_flatMap]

/-- The coding behind a header. -/
def headedCrops : CropCodec where
  encode := encodeCrops
  decode := decodeCrops
  decode_encode _ := decodeCrops_encodeCrops

/-- The decoders of a framework that knows no other type. -/
def noValues : Decoders where
  dataspace _ := none
  chromaSiting _ := none
  blendMode _ := none
  smpte2086 _ := none
  cta861_3 _ := none
  smpte2094_40 _ := none
  smpte2094_10 _ := none
  crop _ := none
  decodeInt32 _ _ := none

/-- The metadata of a new buffer. -/
def newMetadata : SharedMetadata := .init [] 0#32 ⟨standardChromaSiting, 0#64⟩

/-- The planes of YV12, imported. -/
def importedYv12 : MetadataHandle :=
  { yv12Handle with shareFd := 3, backingStoreId := 1#64, attr := some newMetadata }

/-- The extent of the buffer, as a rectangle. -/
def square : ARect := ⟨0#32, 0#32, 16#32, 16#32⟩

/-- The equivalence, after the extent was stored, at the extent again. -/
theorem cropSound_iff_square :
    CropSound headedCrops importedYv12 { newMetadata with crop := .ofValue square }
        (encodeCrops [square]) ↔
      decodeCrops (encodeCrops [square]) ≠ some [] ∧
        (({ newMetadata with crop := .ofValue square } : SharedMetadata).getCropRect = none →
          BufferFits importedYv12.toPrivateHandle) := by
  have hset : setBytes headedCrops noValues importedYv12.toPrivateHandle newMetadata
      ⟨.standard .crop, encodeCrops [square]⟩ =
        some (.ok (), { newMetadata with crop := .ofValue square }) := by
    have hdec : decodeCrops (encodeCrops [square]) = some [square] :=
      decodeCrops_encodeCrops (by decide)
    rw [setBytes, if_pos rfl, setCrop_of_eq_cons hdec, setMetadata_crop, if_pos (by decide)]
  have hrun : runBytes headedCrops noValues importedYv12.toPrivateHandle newMetadata
      [⟨.standard .crop, encodeCrops [square]⟩] =
        some { newMetadata with crop := .ofValue square } := by
    rw [runBytes, hset]
    rfl
  exact cropSound_iff (by decide) (by decide) hrun (encodeCrops [square])

/-- **The empty list is accepted as a payload**, and its first rectangle is read. -/
theorem not_cropSound_empty :
    decodeCrops (encodeCrops []) = some [] ∧
      setCrop headedCrops importedYv12.toPrivateHandle newMetadata (encodeCrops []) = none ∧
      ¬CropSound headedCrops importedYv12 newMetadata (encodeCrops []) := by
  have hdec : decodeCrops (encodeCrops []) = some [] := decodeCrops_encodeCrops (by decide)
  have hnone : setCrop headedCrops importedYv12.toPrivateHandle newMetadata (encodeCrops []) =
      none := setCrop_eq_none_iff.mpr hdec
  exact ⟨hdec, hnone, fun h => h.reads hnone⟩

/-- More than 2³¹ pixels of 32 bits in a row, of which the bytes wrap to 64. -/
def wide : BufferDescriptor := .request 0x80000010#32 16#32 0x33#64 1#64 1#32

/-- The handle that is allocated: its width is negative. -/
def wideHandle : PrivateHandle where
  size := 1024
  consumerUsage := 0x33#64
  producerUsage := 0x33#64
  reqFormat := 1
  allocFormat := ⟨.unorm, 1#32, 0#32⟩
  width := -0x7ffffff0
  height := 16
  layerCount := 1
  planeInfo := ⟨⟨0, 64, 0x80000010, 16⟩, ⟨0, 0, 0, 0⟩, ⟨0, 0, 0, 0⟩⟩
  stride := 16
  isMultiPlane := false

/-- The same handle, imported. -/
def importedWide : MetadataHandle :=
  { wideHandle with shareFd := 3, backingStoreId := 1#64, attr := some newMetadata }

/-- **A layout with overflow** has a buffer that does not fit in its first plane, and is
reported as the crop all the same. -/
theorem not_reportSettable_wide :
    bufferAllocate wrapping fullHd (fun _ => true) .gpuOnly noDecoder wide =
        .ok (some wideHandle) ∧
      ¬BufferFits wideHandle ∧ ¬ReportSettable headedCrops importedWide newMetadata := by
  refine ⟨by decide +kernel, fun h => absurd h.width_nonneg (by decide), fun h => ?_⟩
  have hfits := (reportSettable_iff headedCrops importedWide newMetadata).mp h
  exact absurd hfits.left_le_right (by decide)

end Mapper

end Gralloc
