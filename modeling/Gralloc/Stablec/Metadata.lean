import Gralloc.Mapper.Metadata

/-!
# Metadata without a vector

The newest interface of the mapper is plain C: the caller brings the memory, and an encoder
writes into it and returns how many bytes it needs (`Gralloc.Stablec.StableCodec`). The
common code still hands a vector on to its encoders, so a header is put into it that says
where the memory is, how large it is and what the encoder returned
(`Gralloc.Stablec.MapperData`).

A query brings the caller's memory and returns what the encoder returned
(`Gralloc.Stablec.getMetadata`). A dump brings 512 bytes of its own, right behind the header,
and returns all of them (`Gralloc.Stablec.dumpType`): what the encoder returned is looked at
to see whether it was refused, and then forgotten. So a dump and a query say the same exactly
of what has 512 bytes, or none at all (`Gralloc.Stablec.dumpAgrees_iff`).
-/

namespace Gralloc

namespace Stablec

open CInt Mapper

/-! ### Errors -/

/-- The numbers of the errors, which are returned with a sign. -/
def mapperErrorToStablecError : MapperError → ℤ
  | .badDescriptor => 1
  | .badBuffer => 2
  | .badValue => 3
  | .noResources => 5
  | .unsupported => 7

def stablecErrorToMapperError (e : ℤ) : MapperError :=
  if e = 2 then .badBuffer
  else if e = 3 then .badValue
  else if e = 5 then .noResources
  else .unsupported

theorem mapperErrorToStablecError_pos (e : MapperError) : 0 < mapperErrorToStablecError e := by
  cases e <;> decide

/-! ### Encoders -/

/-- The encoders of the framework: the bytes of a value, which an `int` can count. -/
structure StableCodec where
  encode : StandardMetadataType → MetadataValue → Except MapperError (List (BitVec 8))
  length_lt : ∀ t v bs, encode t v = .ok bs → bs.length < 2 ^ 31

/-- The header: the memory that is to be filled, and what the encoder returned. -/
structure MapperData where
  out : List (BitVec 8)
  result : ℤ
  deriving DecidableEq, Repr

/-- What an encoder returned, as an error or none. -/
def processEncoderResult (data : MapperData) (encoderResult : ℤ) :
    Except MapperError Unit × MapperData :=
  let data := { data with result := encoderResult }
  if encoderResult < 0 then (.error (stablecErrorToMapperError (-encoderResult)), data)
  else if (data.out.length : ℤ) < encoderResult then (.error .noResources, data)
  else (.ok (), data)

section

variable (enc : StableCodec)

/-- **Encoding a value** at the front of the memory. Nobody looks into memory that is too
small. -/
def encodeFnc (t : StandardMetadataType) (v : MetadataValue) (data : MapperData) :
    Except MapperError Unit × MapperData :=
  match enc.encode t v with
  | .error e => processEncoderResult data (-mapperErrorToStablecError e)
  | .ok bs =>
    if bs.length ≤ data.out.length then
      processEncoderResult { data with out := bs ++ data.out.drop bs.length } bs.length
    else processEncoderResult data bs.length

variable (hnd : MetadataHandle)

/-- The value of a type, encoded into memory. -/
def getInto (t : StandardMetadataType) (data : MapperData) :
    Run (Except MapperError Unit × MapperData) := do
  let v ← Mapper.getMetadata hnd true (.standard t)
  .ok (match v with
    | .error e => (.error e, data)
    | .ok v => encodeFnc enc t v data)

/-- What may change is hidden from those who did not import the handle. -/
def Hidden (t : StandardMetadataType) : Prop := hnd.attr.isNone ∧ isMutable (.standard t)

instance (t : StandardMetadataType) : Decidable (Hidden hnd t) :=
  inferInstanceAs (Decidable (_ ∧ _))

/-- **A query**: the number of bytes, or an error, and the memory of the caller. -/
def getMetadata (t : StandardMetadataType) (out : List (BitVec 8)) :
    Run (ℤ × List (BitVec 8)) := do
  let r ← if Hidden hnd t then .ok (.error .badBuffer, ⟨out, 0⟩) else getInto enc hnd t ⟨out, 0⟩
  .ok (match r.1 with
    | .ok () => (r.2.result, r.2.out)
    -- the number of bytes that were missing is an answer, too
    | .error .noResources => (r.2.result, r.2.out)
    | .error e => (-mapperErrorToStablecError e, r.2.out))

/-! ### Dumping a buffer -/

def maxRequiredSize : ℕ := 512

/-- The types of the framework that are described, in their order. -/
def dumpedTypes : List StandardMetadataType := [
  .bufferId, .name, .width, .height, .layerCount, .pixelFormatRequested, .pixelFormatFourcc,
  .pixelFormatModifier, .usage, .allocationSize, .protectedContent, .compression, .interlaced,
  .chromaSiting, .planeLayouts, .dataspace, .blendMode, .smpte2086, .cta861_3, .smpte2094_40,
  .crop, .smpte2094_10, .stride]

/-- The memory of a dump. -/
def dumpData : MapperData := ⟨List.replicate maxRequiredSize 0#8, 0⟩

/-- What is dumped of a type, if anything: all the memory behind the header. -/
def dumpType (t : StandardMetadataType) : Run (Option (List (BitVec 8))) :=
  if Hidden hnd t then .ok none
  else do
    let r ← getInto enc hnd t dumpData
    .ok (match r.1 with
      | .ok () => some r.2.out
      | .error _ => none)

/-- What is dumped of some types. -/
def dumpTypes : List StandardMetadataType →
    Run (List (StandardMetadataType × List (BitVec 8)))
  | [] => .ok []
  | t :: ts => do
    let entry ← dumpType enc hnd t
    let rest ← dumpTypes ts
    .ok (entry.toList.map (fun bytes => (t, bytes)) ++ rest)

/-- **The dump of a buffer**: the calls back, a type and its bytes each. -/
def dumpBuffer : Run (List (StandardMetadataType × List (BitVec 8))) :=
  dumpTypes enc hnd dumpedTypes

end

/-! ### Agreement -/

section

variable (enc : StableCodec) (hnd : MetadataHandle) (t : StandardMetadataType)

/-- **A query returns these bytes** and their number, if the memory is large enough. -/
def Returns (bytes : List (BitVec 8)) : Prop :=
  ∃ n : ℕ, ∀ out : List (BitVec 8), n ≤ out.length → ∃ out',
    getMetadata enc hnd t out = .ok ((bytes.length : ℤ), out') ∧
      out'.take bytes.length = bytes

/-- **A dump and a query agree** on a type: the buffer can be dumped, and what is dumped of the
type is what a query returns. -/
def DumpAgrees : Prop :=
  ∃ entries, dumpBuffer enc hnd = .ok entries ∧
    ∀ bytes, (t, bytes) ∈ entries ↔ Returns enc hnd t bytes

/-- The handle has a value of the type, which encodes to these bytes. -/
def Encodes (bytes : List (BitVec 8)) : Prop :=
  ¬Hidden hnd t ∧ ∃ v, Mapper.getMetadata hnd true (.standard t) = .ok (.ok v) ∧
    enc.encode t v = .ok bytes

/-- The planes of a handle can be looked at: there are layers to divide its size by, or nothing
is known of its format. -/
def PlanesReported : Prop := hnd.layerCount ≠ 0 ∨ hnd.allocFormat.getBaseInfo = none

end

/-! ### Encoding -/

section

variable {enc : StableCodec} {hnd : MetadataHandle} {t : StandardMetadataType}
  {v : MetadataValue} {bs bytes : List (BitVec 8)}

/-- A value that encodes, into memory that is large enough. -/
theorem encodeFnc_of_le (data : MapperData) (h : enc.encode t v = .ok bs)
    (hle : bs.length ≤ data.out.length) :
    encodeFnc enc t v data = (.ok (), ⟨bs ++ data.out.drop bs.length, bs.length⟩) := by
  have hlen : ((bs ++ data.out.drop bs.length).length : ℤ) = data.out.length := by
    rw [List.length_append, List.length_drop]
    omega
  simp only [encodeFnc, h, if_pos hle, processEncoderResult]
  rw [if_neg (by omega), if_neg (by rw [hlen]; omega)]

/-- And into memory that is not. -/
theorem encodeFnc_of_lt (data : MapperData) (h : enc.encode t v = .ok bs)
    (hlt : data.out.length < bs.length) :
    encodeFnc enc t v data = (.error .noResources, ⟨data.out, bs.length⟩) := by
  simp only [encodeFnc, h, if_neg (Nat.not_le.mpr hlt), processEncoderResult]
  rw [if_neg (by omega), if_pos (by omega)]

/-- A value that does not encode. -/
theorem encodeFnc_of_error (data : MapperData) {e : MapperError}
    (h : enc.encode t v = .error e) :
    ∃ err, encodeFnc enc t v data = (.error err, ⟨data.out, -mapperErrorToStablecError e⟩) := by
  have hpos := mapperErrorToStablecError_pos e
  refine ⟨stablecErrorToMapperError (- -mapperErrorToStablecError e), ?_⟩
  simp only [encodeFnc, h, processEncoderResult]
  rw [if_pos (by omega)]

/-- What is in the shared metadata is there, or the handle has not mapped it. -/
theorem fromAttr_cases (hnd : MetadataHandle) (k : SharedMetadata → MetadataValue) :
    (∃ m, fromAttr hnd k = .ok (.ok (k m))) ∨ fromAttr hnd k = .ok (.error .badValue) := by
  unfold fromAttr
  split
  · exact Or.inr rfl
  · exact Or.inl ⟨_, rfl⟩

/-- A handle has no value of a type for one of two reasons. -/
theorem error_of_getMetadata {e : MapperError}
    (h : Mapper.getMetadata hnd true (.standard t) = .ok (.error e)) : e ≠ .noResources := by
  rintro rfl
  have hattr (k : SharedMetadata → MetadataValue) :
      fromAttr hnd k ≠ .ok (.error .noResources) := by
    rcases fromAttr_cases hnd k with ⟨m, hm⟩ | hm <;> rw [hm] <;> rintro ⟨⟩
  cases t with
  | chromaSiting =>
    simp only [Mapper.getMetadata, getStandardMetadata] at h
    split at h <;> cases h
  | planeLayouts =>
    obtain ⟨r, hr, h⟩ := bind_eq_ok.mp h
    obtain ⟨layouts, hlayouts, hr⟩ := bind_eq_ok.mp hr
    cases hr
    cases layouts with
    | ok ls => cases h
    | error err =>
      cases h
      rw [getPlaneLayouts] at hlayouts
      split at hlayouts
      · cases hlayouts
      · obtain ⟨ls, -, hlayouts⟩ := bind_eq_ok.mp hlayouts
        cases hlayouts
  | name | dataspace | blendMode | crop | smpte2086 | cta861_3 | smpte2094_40 | smpte2094_10 =>
    exact hattr _ h
  | _ => cases h

/-- A value that encodes is returned by a query with enough memory. -/
theorem getMetadata_of_encodes (h : Encodes enc hnd t bs) {out : List (BitVec 8)}
    (hle : bs.length ≤ out.length) :
    getMetadata enc hnd t out = .ok ((bs.length : ℤ), bs ++ out.drop bs.length) := by
  obtain ⟨hvis, v, hv, hbs⟩ := h
  rw [getMetadata, if_neg hvis, getInto, hv]
  simp only [ok_bind, encodeFnc_of_le ⟨out, 0⟩ hbs hle]

/-- **Only a value that encodes is returned.** -/
theorem encodes_of_getMetadata {out out' : List (BitVec 8)} {n : ℕ}
    (h : getMetadata enc hnd t out = .ok ((n : ℤ), out')) : ∃ bs, Encodes enc hnd t bs := by
  have hneg (e : MapperError) : (-mapperErrorToStablecError e : ℤ) ≠ n := by
    have := mapperErrorToStablecError_pos e
    omega
  by_cases hvis : Hidden hnd t
  · rw [getMetadata, if_pos hvis] at h
    exact absurd (congrArg Prod.fst (Except.ok.inj h)) (hneg .badBuffer)
  rw [getMetadata, if_neg hvis] at h
  obtain ⟨r, hr, h⟩ := bind_eq_ok.mp h
  obtain ⟨v, hv, hr⟩ := bind_eq_ok.mp hr
  cases v with
  | error e =>
    -- the number of the error is negative
    cases hr
    have hne := error_of_getMetadata hv
    cases e with
    | noResources => exact absurd rfl hne
    | _ => exact absurd (congrArg Prod.fst (Except.ok.inj h)) (hneg _)
  | ok v =>
    cases hbs : enc.encode t v with
    | ok bs => exact ⟨bs, hvis, v, hv, hbs⟩
    | error e =>
      obtain ⟨err, henc⟩ := encodeFnc_of_error ⟨out, 0⟩ hbs
      simp only [henc] at hr
      cases hr
      cases err <;> exact absurd (congrArg Prod.fst (Except.ok.inj h)) (hneg _)

theorem Encodes.unique (h : Encodes enc hnd t bs) (h' : Encodes enc hnd t bytes) : bs = bytes := by
  obtain ⟨-, v, hv, hbs⟩ := h
  obtain ⟨-, w, hw, hbytes⟩ := h'
  cases hv.symm.trans hw
  exact Except.ok.inj (hbs.symm.trans hbytes)

/-- **What queries return** is what a value encodes to. -/
theorem returns_iff : Returns enc hnd t bytes ↔ Encodes enc hnd t bytes := by
  constructor
  · rintro ⟨n, h⟩
    obtain ⟨out', hrun, -⟩ := h (List.replicate n 0#8) List.length_replicate.ge
    obtain ⟨bs, hbs⟩ := encodes_of_getMetadata hrun
    -- once more, with memory for the value
    obtain ⟨out', hrun, htake⟩ := h (List.replicate (n + bs.length) 0#8) (by simp)
    rw [getMetadata_of_encodes hbs (by simp)] at hrun
    obtain ⟨hlen, rfl⟩ := Prod.mk.inj (Except.ok.inj hrun)
    rw [List.take_left' (by omega)] at htake
    exact htake ▸ hbs
  · intro h
    refine ⟨bytes.length, fun out hle => ⟨_, getMetadata_of_encodes h hle, ?_⟩⟩
    rw [List.take_left' rfl]

end

/-! ### Dumping -/

section

variable {enc : StableCodec} {hnd : MetadataHandle} {t : StandardMetadataType}
  {bs bytes : List (BitVec 8)}

/-- Memory of the dump with a value at the front. -/
def padded (bs : List (BitVec 8)) : List (BitVec 8) :=
  bs ++ List.replicate (maxRequiredSize - bs.length) 0#8

theorem padded_eq_self_iff : padded bs = bs ↔ maxRequiredSize ≤ bs.length := by
  rw [padded, List.append_right_eq_self, List.replicate_eq_nil_iff, Nat.sub_eq_zero_iff_le]

theorem length_dumpData : dumpData.out.length = maxRequiredSize := List.length_replicate

/-- A value that fits into the memory of a dump. -/
theorem encodeFnc_dumpData {v : MetadataValue} (h : enc.encode t v = .ok bs)
    (hle : bs.length ≤ maxRequiredSize) :
    encodeFnc enc t v dumpData = (.ok (), ⟨padded bs, bs.length⟩) := by
  rw [encodeFnc_of_le dumpData h (by rwa [length_dumpData]), dumpData, List.drop_replicate]
  rfl

/-- **What is dumped of a type** is the value that encodes into 512 bytes, with all the bytes
behind it. -/
theorem dumpType_eq_some_iff :
    dumpType enc hnd t = .ok (some bytes) ↔
      ∃ bs, Encodes enc hnd t bs ∧ bs.length ≤ maxRequiredSize ∧ bytes = padded bs := by
  constructor
  · intro h
    by_cases hvis : Hidden hnd t
    · rw [dumpType, if_pos hvis] at h
      cases h
    rw [dumpType, if_neg hvis] at h
    obtain ⟨r, hr, h⟩ := bind_eq_ok.mp h
    obtain ⟨v, hv, hr⟩ := bind_eq_ok.mp hr
    cases hr
    cases v with
    | error e => cases h
    | ok v =>
      cases hbs : enc.encode t v with
      | error e =>
        obtain ⟨err, henc⟩ := encodeFnc_of_error dumpData hbs
        simp only [henc] at h
        cases h
      | ok bs =>
        rcases Nat.lt_or_ge maxRequiredSize bs.length with hlt | hle
        · -- refused, since it needs more
          simp only [encodeFnc_of_lt dumpData hbs (by rwa [length_dumpData])] at h
          cases h
        · simp only [encodeFnc_dumpData hbs hle] at h
          cases h
          exact ⟨bs, ⟨hvis, v, hv, hbs⟩, hle, rfl⟩
  · rintro ⟨bs, ⟨hvis, v, hv, hbs⟩, hle, rfl⟩
    rw [dumpType, if_neg hvis, getInto, hv]
    simp only [ok_bind, encodeFnc_dumpData hbs hle]

/-- **The entries of a dump**, by induction on the types. -/
theorem mem_dumpTypes {ts : List StandardMetadataType}
    {entries : List (StandardMetadataType × List (BitVec 8))}
    (h : dumpTypes enc hnd ts = .ok entries) :
    (t, bytes) ∈ entries ↔ t ∈ ts ∧ dumpType enc hnd t = .ok (some bytes) := by
  induction ts generalizing entries with
  | nil =>
    cases h
    simp
  | cons u us ih =>
    obtain ⟨entry, hentry, h⟩ := bind_eq_ok.mp h
    obtain ⟨rest, hrest, h⟩ := bind_eq_ok.mp h
    cases h
    have hmem : (t, bytes) ∈ entry.toList.map (fun bytes => (u, bytes)) ↔
        t = u ∧ dumpType enc hnd t = .ok (some bytes) := by
      constructor
      · intro hm
        obtain ⟨b, hb, heq⟩ := List.mem_map.mp hm
        obtain ⟨rfl, rfl⟩ := Prod.mk.inj heq
        exact ⟨rfl, by rw [hentry, Option.mem_toList.mp hb]⟩
      · rintro ⟨rfl, hd⟩
        cases hentry.symm.trans hd
        exact List.mem_map.mpr ⟨bytes, List.mem_singleton_self _, rfl⟩
    rw [List.mem_append, hmem, ih hrest, List.mem_cons, or_and_right]

/-- A dump ends when every type of it does, by induction on them. -/
theorem dumpTypes_ok_iff {ts : List StandardMetadataType} :
    (∃ entries, dumpTypes enc hnd ts = .ok entries) ↔
      ∀ t ∈ ts, ∃ entry, dumpType enc hnd t = .ok entry := by
  induction ts with
  | nil => exact iff_of_true ⟨[], rfl⟩ fun t ht => absurd ht List.not_mem_nil
  | cons u us ih =>
    rw [List.forall_mem_cons, ← ih]
    constructor
    · rintro ⟨entries, h⟩
      obtain ⟨entry, hentry, h⟩ := bind_eq_ok.mp h
      obtain ⟨rest, hrest, -⟩ := bind_eq_ok.mp h
      exact ⟨⟨entry, hentry⟩, rest, hrest⟩
    · rintro ⟨⟨entry, hentry⟩, rest, hrest⟩
      exact ⟨_, by rw [dumpTypes, hentry, ok_bind, hrest, ok_bind]⟩

/-- Only the planes can divide by zero. -/
theorem getMetadata_ok_iff :
    (∃ v, Mapper.getMetadata hnd true (.standard t) = .ok v) ↔
      t = .planeLayouts → PlanesReported hnd := by
  have hattr (k : SharedMetadata → MetadataValue) : ∃ v, fromAttr hnd k = .ok v := by
    rcases fromAttr_cases hnd k with ⟨m, hm⟩ | hm <;> exact ⟨_, hm⟩
  cases t with
  | planeLayouts =>
    rw [imp_iff_right rfl]
    cases hf : hnd.allocFormat.getBaseInfo with
    | none =>
      have hget : getPlaneLayouts wrapping hnd.toPrivateHandle = .ok (.error .badValue) := by
        rw [getPlaneLayouts, hf]
      refine iff_of_true ⟨.error .badValue, ?_⟩ (Or.inr hf)
      simp only [Mapper.getMetadata, getStandardMetadata, describedPlaneLayouts, hget, ok_bind]
      rfl
    | some f =>
      have hreported : PlanesReported hnd ↔ hnd.layerCount ≠ 0 :=
        or_iff_left (by rw [hf]; exact Option.some_ne_none f)
      rw [hreported]
      constructor
      · rintro ⟨v, h⟩ hl
        obtain ⟨r, hr, -⟩ := bind_eq_ok.mp h
        obtain ⟨layouts, hlayouts, -⟩ := bind_eq_ok.mp hr
        exact getPlaneLayouts_of_layerCount_eq_zero hnd.toPrivateHandle hf hl _ hlayouts
      · intro hl
        simp only [Mapper.getMetadata, getStandardMetadata, describedPlaneLayouts,
          getPlaneLayouts_of_layers hnd.toPrivateHandle hf hl, ok_bind]
        exact ⟨_, rfl⟩
  | chromaSiting =>
    refine iff_of_true ?_ fun h => by cases h
    simp only [Mapper.getMetadata, getStandardMetadata]
    split <;> exact ⟨_, rfl⟩
  | name | dataspace | blendMode | crop | smpte2086 | cta861_3 | smpte2094_40 | smpte2094_10 =>
    exact iff_of_true (hattr _) fun h => by cases h
  | _ => exact iff_of_true ⟨_, rfl⟩ fun h => by cases h

/-- **A buffer can be dumped** exactly when its planes can be looked at. -/
theorem dumpBuffer_ok_iff :
    (∃ entries, dumpBuffer enc hnd = .ok entries) ↔ PlanesReported hnd := by
  have htype (t : StandardMetadataType) (hvis : ¬Hidden hnd t) :
      (∃ entry, dumpType enc hnd t = .ok entry) ↔
        ∃ v, Mapper.getMetadata hnd true (.standard t) = .ok v := by
    rw [dumpType, if_neg hvis, getInto]
    cases Mapper.getMetadata hnd true (.standard t) with
    | error e => exact iff_of_false (by rintro ⟨v, h⟩; cases h) (by rintro ⟨v, h⟩; cases h)
    | ok v => exact iff_of_true ⟨_, rfl⟩ ⟨_, rfl⟩
  have hplanes : ¬Hidden hnd .planeLayouts := fun h => absurd h.2 (by decide)
  rw [dumpBuffer, dumpTypes_ok_iff]
  constructor
  · intro h
    exact getMetadata_ok_iff.mp ((htype _ hplanes).mp (h .planeLayouts (by decide))) rfl
  · intro h t _
    by_cases hvis : Hidden hnd t
    · exact ⟨none, by rw [dumpType, if_pos hvis]⟩
    · exact (htype t hvis).mpr (getMetadata_ok_iff.mpr fun _ => h)

/-- The framework has a value of no type but the ones that are described. -/
theorem mem_dumpedTypes_of_encodes (h : Encodes enc hnd t bs) : t ∈ dumpedTypes := by
  obtain ⟨-, v, hv, -⟩ := h
  cases t with
  | invalid => cases hv
  | _ => decide

/-- **When a dump and a query agree** on a type: the planes can be looked at, and the value, if
there is one that encodes, has 512 bytes. -/
theorem dumpAgrees_iff (enc : StableCodec) (hnd : MetadataHandle) (t : StandardMetadataType) :
    DumpAgrees enc hnd t ↔
      PlanesReported hnd ∧ ∀ bytes, Encodes enc hnd t bytes → bytes.length = maxRequiredSize := by
  constructor
  · rintro ⟨entries, hdump, hagree⟩
    refine ⟨dumpBuffer_ok_iff.mp ⟨entries, hdump⟩, fun bytes hbytes => ?_⟩
    have hmem := (hagree bytes).mpr (returns_iff.mpr hbytes)
    obtain ⟨bs, hbs, hle, heq⟩ := dumpType_eq_some_iff.mp ((mem_dumpTypes hdump).mp hmem).2
    cases hbytes.unique hbs
    exact le_antisymm hle (padded_eq_self_iff.mp heq.symm)
  · rintro ⟨hplanes, hlen⟩
    obtain ⟨entries, hdump⟩ := dumpBuffer_ok_iff.mpr hplanes
    refine ⟨entries, hdump, fun bytes => ?_⟩
    rw [mem_dumpTypes hdump, dumpType_eq_some_iff, returns_iff]
    constructor
    · rintro ⟨-, bs, hbs, -, rfl⟩
      rwa [padded_eq_self_iff.mpr (hlen bs hbs).ge]
    · intro hbytes
      exact ⟨mem_dumpedTypes_of_encodes hbytes, bytes, hbytes, (hlen bytes hbytes).le,
        (padded_eq_self_iff.mpr (hlen bytes hbytes).ge).symm⟩

end

/-! ### A width of 512 bytes -/

def standardMetadataTypeName : String := "android.hardware.graphics.common.StandardMetadataType"

/-- What the encoders of the framework put first: the name of the enumeration, with its length,
and the number of the type. -/
def standardHeader (t : StandardMetadataType) : List (BitVec 8) :=
  leBytes 8 standardMetadataTypeName.length ++
    standardMetadataTypeName.toList.map (fun c => BitVec.ofNat 8 c.toNat) ++ leBytes 8 t.ctorIdx

/-- The bytes of a number of 64 bits. -/
def encodeUint64 (t : StandardMetadataType) : MetadataValue → Except MapperError (List (BitVec 8))
  | .uint64 n => .ok (standardHeader t ++ leBytes 8 n.toNat)
  | _ => .error .unsupported

theorem length_encodeUint64 {t : StandardMetadataType} {v : MetadataValue} {bs : List (BitVec 8)}
    (h : encodeUint64 t v = .ok bs) : bs.length = 77 := by
  cases v with
  | uint64 n =>
    cases h
    have hname : standardMetadataTypeName.toList.length = 53 := by decide
    simp only [standardHeader, List.length_append, List.length_map, length_leBytes, hname]
  | _ => cases h

/-- The framework, of whose values only those are encoded. -/
def uint64Codec : StableCodec where
  encode := encodeUint64
  length_lt _ _ _ h := by
    rw [length_encodeUint64 h]
    decide

/-- An imported handle of 16 × 16 pixels of RGBA_8888. -/
def squareHandle : MetadataHandle where
  size := 1024
  consumerUsage := 0x300#64
  producerUsage := 0x300#64
  reqFormat := 1
  allocFormat := ⟨.unorm, 1#32, 0#32⟩
  width := 16
  height := 16
  layerCount := 1
  planeInfo := PlaneLayout.zero.set 0 ⟨0, 64, 16, 16⟩
  stride := 16
  isMultiPlane := false
  shareFd := 3
  backingStoreId := 7#64
  attr := some (.init [] dataspaceUnknown chromaSitingNone)

/-- **The width is dumped with 512 bytes**; a query returns 77. -/
theorem not_dumpAgrees_width :
    (dumpBuffer uint64Codec squareHandle).map (fun entries =>
        (entries.lookup .width).map List.length) = .ok (some 512) ∧
      (getMetadata uint64Codec squareHandle .width (List.replicate 512 0#8)).map Prod.fst =
        .ok 77 ∧
      ¬DumpAgrees uint64Codec squareHandle .width := by
  refine ⟨by decide +kernel, by decide +kernel, ?_⟩
  rintro ⟨entries, hdump, hagree⟩
  have hentry : dumpType uint64Codec squareHandle .width =
      .ok (some (padded (standardHeader .width ++ leBytes 8 16))) := by
    decide +kernel
  have hreturns := (hagree _).mp ((mem_dumpTypes hdump).mpr ⟨by decide, hentry⟩)
  obtain ⟨-, v, -, hv⟩ := returns_iff.mp hreturns
  exact absurd (length_encodeUint64 hv) (by decide +kernel)

end Stablec

end Gralloc
