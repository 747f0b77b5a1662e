import Gralloc.Aml.Ext
import Gralloc.Hidl.Callbacks

/-!
# Errors of the mapper

The vendor's library asks the mapper for a number, and the mapper replies with an error and with
bytes. Three of the library's getters pass the number on, each into a variable of its own that it
does not initialise: the tunnel, the type of the video and the sequence number of the buffer.

The bytes are decoded where the error is `NONE`. Where it is not, the status of the decoding is
what it was to begin with, and that is success (`Gralloc.Aml.MapperReply.read`). So a getter
returns what was read, and nothing else, exactly if the mapper replies without an error to
whatever it is asked (`Gralloc.Aml.onlyRead_iff`). The allocator's own mapper, whose replies are
read in this way as well (`Gralloc.Aml.amGetMetadata_eq_read`), refuses every raw handle
(`Gralloc.Aml.amGrallocExtGetExtAttr_of_region_eq_none`).
-/

namespace Gralloc

namespace Aml

open Mapper

/-! ### Replies -/

/-- **A reply** of the mapper, as its callback is given it. -/
structure MapperReply where
  error : Hidl.Error
  metadata : List (BitVec 8)
  deriving DecidableEq

namespace MapperReply

/-- **Reading a number from a reply** into a variable: whether that is taken to have gone well, and
the variable. -/
def read (decodeInt32 : List (BitVec 8) → Option (BitVec 32)) (reply : MapperReply)
    (value : BitVec 32) : Bool × BitVec 32 :=
  if reply.error = .none then
    match decodeInt32 reply.metadata with
    | some v => (true, v)
    | none => (false, value)
  -- the status keeps its first value
  else (true, value)

/-- The reply of the allocator's own mapper. -/
def ofResult : Except MapperError (List (BitVec 8)) → MapperReply
  | .ok metadata => ⟨.none, metadata⟩
  | .error e => ⟨Hidl.mapperErrToHidlErr e, []⟩

end MapperReply

/-- **The library reads the replies** of the allocator's mapper. -/
theorem amGetMetadata_eq_read (g : Gralloctypes) (w : Process) (buffer : ℕ) (t : AmlMetadataType)
    (value : BitVec 32) :
    amGetMetadata g w buffer t value = (get g w buffer (.aml t)).map fun r =>
      (MapperReply.ofResult r).read (g.decodeInt32 t) value := by
  rw [amGetMetadata]
  rcases get g w buffer (.aml t) with crash | (e | metadata)
  · rfl
  · cases e <;> rfl
  · rcases hdecode : g.decodeInt32 t metadata with - | v
    · simp [bind, Except.bind, Except.map, hdecode, MapperReply.ofResult, MapperReply.read]
    · simp [bind, Except.bind, Except.map, hdecode, MapperReply.ofResult, MapperReply.read]

/-! ### Handles -/

/-- A handle of this allocator. What its descriptors and integers are apart is not looked at. -/
def validate (l : HandleLayout) (h : NativeHandle) : Bool :=
  h.version == 12 && h.data l.magic == sMagic &&
    h.numFds + h.numInts == l.numInts + privateHandleNumFds

/-- The flags of a handle, behind its magic number. -/
def flags (l : HandleLayout) (h : NativeHandle) : BitVec 32 := h.data (l.magic + 1)

def privFlagsVideoOmx : BitVec 32 := 0x20#32

/-! ### The getters -/

/-- **The library**, with the framework's decoder and a mapper. -/
structure Library where
  layout : HandleLayout
  decodeInt32 : AmlMetadataType → List (BitVec 8) → Option (BitVec 32)
  mapperGet : Option NativeHandle → AmlMetadataType → MapperReply

namespace Library

variable (lib : Library) (hnd : Option NativeHandle)

def downcast : Option NativeHandle := hnd.filter (validate lib.layout)

def amGetMetadata (t : AmlMetadataType) (value : BitVec 32) : Bool × BitVec 32 :=
  (lib.mapperGet hnd t).read (lib.decodeInt32 t) value

/-- **Getting** one of the vendor's numbers. -/
def amGrallocExtGetExtAttr (t : AmlMetadataType) (val : BitVec 32) : Gralloc1Error × BitVec 32 :=
  let (ok, val) := lib.amGetMetadata hnd t val
  (if ok then .none else .badHandle, val)

/-- Whether a buffer is tunnelled. Here and below `val` is what the getter's own variable happens
to hold. -/
def amGrallocGetOmxMetadataTunnel (val tunnel : BitVec 32) : Gralloc1Error × BitVec 32 :=
  match lib.downcast hnd with
  | some _ =>
    let (ret, val) := lib.amGrallocExtGetExtAttr hnd .amOmxTunnel val
    if ret = .none then (ret, if val = 1#32 then 1#32 else 0#32) else (ret, tunnel)
  | none => (.badHandle, tunnel)

def amGrallocGetOmxVideoType (val videoType : BitVec 32) : Gralloc1Error × BitVec 32 :=
  match lib.downcast hnd with
  | some _ =>
    let (ret, val) := lib.amGrallocExtGetExtAttr hnd .amOmxVideoType val
    if ret = .none then (ret, val) else (ret, videoType)
  | none => (.badHandle, videoType)

def amGrallocGetOmxBufferSequence (omxBufferSequence val : BitVec 32) : Bool × BitVec 32 :=
  match lib.downcast hnd with
  | some buffer =>
    if flags lib.layout buffer &&& privFlagsVideoOmx ≠ 0#32 then
      let (ret, omxBufferSequence) :=
        lib.amGrallocExtGetExtAttr hnd .amOmxBufferSequence omxBufferSequence
      if ret = .none then (true, omxBufferSequence) else (false, val)
    else (false, val)
  | none => (false, val)

end Library

/-! ### A getter -/

/-- The getters. -/
inductive Getter where
  | extAttr (t : AmlMetadataType)
  | omxMetadataTunnel
  | omxVideoType
  | omxBufferSequence
  deriving DecidableEq

namespace Getter

/-- What the mapper is asked for. -/
def type : Getter → AmlMetadataType
  | extAttr t => t
  | omxMetadataTunnel => .amOmxTunnel
  | omxVideoType => .amOmxVideoType
  | omxBufferSequence => .amOmxBufferSequence

/-- What is made of a number. -/
def report : Getter → BitVec 32 → BitVec 32
  | omxMetadataTunnel, n => if n = 1#32 then 1#32 else 0#32
  | _, n => n

end Getter

namespace Library

variable (lib : Library) (hnd : Option NativeHandle)

/-- The mapper is asked: of any handle, by the getter of all numbers; by the others, of a handle of
this allocator, and of one for video by the last. -/
def asks : Getter → Bool
  | .extAttr _ => true
  | .omxMetadataTunnel | .omxVideoType => (lib.downcast hnd).isSome
  | .omxBufferSequence =>
    (lib.downcast hnd).any fun buffer => flags lib.layout buffer &&& privFlagsVideoOmx ≠ 0#32

/-- The value of a success. -/
def ofSuccess : Gralloc1Error × BitVec 32 → Option (BitVec 32)
  | (.none, v) => some v
  | (.badHandle, _) => none

/-- **The value that is returned with success**, for what the getter's variable and the caller's
hold before. -/
def gets (val out : BitVec 32) : Getter → Option (BitVec 32)
  | .extAttr t => ofSuccess (lib.amGrallocExtGetExtAttr hnd t val)
  | .omxMetadataTunnel => ofSuccess (lib.amGrallocGetOmxMetadataTunnel hnd val out)
  | .omxVideoType => ofSuccess (lib.amGrallocGetOmxVideoType hnd val out)
  | .omxBufferSequence =>
    match lib.amGrallocGetOmxBufferSequence hnd val out with
    | (true, v) => some v
    | (false, _) => none

/-- **Only what was read** is returned with success: the mapper replied without an error, and the
value is that of its bytes. -/
def OnlyRead (g : Getter) (val out : BitVec 32) : Prop :=
  ∀ v, lib.gets hnd val out g = some v →
    (lib.mapperGet hnd g.type).error = .none ∧
      ∃ n, lib.decodeInt32 g.type (lib.mapperGet hnd g.type).metadata = some n ∧ v = g.report n

end Library

section

variable {lib : Library} {hnd : Option NativeHandle} {val out : BitVec 32}

theorem gets_extAttr (t : AmlMetadataType) :
    lib.gets hnd val out (.extAttr t) =
      if (lib.mapperGet hnd t).error = .none
      then lib.decodeInt32 t (lib.mapperGet hnd t).metadata else some val := by
  rw [Library.gets, Library.amGrallocExtGetExtAttr, Library.amGetMetadata, MapperReply.read]
  by_cases herror : (lib.mapperGet hnd t).error = .none
  · rw [if_pos herror, if_pos herror]
    rcases lib.decodeInt32 t (lib.mapperGet hnd t).metadata with - | v
    · rfl
    · rfl
  · rw [if_neg herror, if_neg herror]
    rfl

/-- **Every getter reports** what the getter of all numbers returns, if it asks. -/
theorem gets_eq_map (g : Getter) :
    lib.gets hnd val out g =
      if lib.asks hnd g = true then (lib.gets hnd val out (.extAttr g.type)).map g.report
      else none := by
  by_cases hasks : lib.asks hnd g = true
  · rw [if_pos hasks]
    cases g with
    | extAttr t => exact Option.map_id'.symm
    | omxMetadataTunnel =>
      rcases Option.isSome_iff_exists.mp hasks with ⟨buffer, hbuffer⟩
      simp only [Library.gets, Library.amGrallocGetOmxMetadataTunnel, hbuffer, Getter.type]
      rcases lib.amGrallocExtGetExtAttr hnd .amOmxTunnel val with ⟨ret, n⟩
      cases ret <;> rfl
    | omxVideoType =>
      rcases Option.isSome_iff_exists.mp hasks with ⟨buffer, hbuffer⟩
      simp only [Library.gets, Library.amGrallocGetOmxVideoType, hbuffer, Getter.type]
      rcases lib.amGrallocExtGetExtAttr hnd .amOmxVideoType val with ⟨ret, n⟩
      cases ret <;> rfl
    | omxBufferSequence =>
      rw [Library.asks, Option.any_eq_true] at hasks
      rcases hasks with ⟨buffer, hbuffer, hflags⟩
      simp only [Library.gets, Library.amGrallocGetOmxBufferSequence, hbuffer, Getter.type,
        if_pos (of_decide_eq_true hflags)]
      rcases lib.amGrallocExtGetExtAttr hnd .amOmxBufferSequence val with ⟨ret, n⟩
      cases ret <;> rfl
  · rw [if_neg hasks]
    cases g with
    | extAttr t => exact absurd rfl hasks
    | omxMetadataTunnel =>
      have hnone : lib.downcast hnd = none := Option.not_isSome_iff_eq_none.mp hasks
      simp only [Library.gets, Library.amGrallocGetOmxMetadataTunnel, hnone]
      rfl
    | omxVideoType =>
      have hnone : lib.downcast hnd = none := Option.not_isSome_iff_eq_none.mp hasks
      simp only [Library.gets, Library.amGrallocGetOmxVideoType, hnone]
      rfl
    | omxBufferSequence =>
      rw [Library.asks, Option.any_eq_true, not_exists] at hasks
      rw [Library.gets, Library.amGrallocGetOmxBufferSequence]
      rcases hbuffer : lib.downcast hnd with - | buffer
      · rfl
      · have hflags : ¬flags lib.layout buffer &&& privFlagsVideoOmx ≠ 0#32 := fun hflags =>
          hasks buffer ⟨hbuffer, decide_eq_true hflags⟩
        dsimp only
        rw [if_neg hflags]

/-- **What a getter does with a reply**: a number that cannot be decoded is refused, an error is
not. -/
theorem gets_eq (g : Getter) :
    lib.gets hnd val out g =
      if lib.asks hnd g = true then
        if (lib.mapperGet hnd g.type).error = .none
        then (lib.decodeInt32 g.type (lib.mapperGet hnd g.type).metadata).map g.report
        else some (g.report val)
      else none := by
  rw [gets_eq_map, gets_extAttr]
  by_cases herror : (lib.mapperGet hnd g.type).error = .none
  · rw [if_pos herror, if_pos herror]
  · rw [if_neg herror, if_neg herror, Option.map_some]

/-- **Getters return what was read** exactly where the mapper, if it is asked, replies without an
error. -/
theorem onlyRead_iff (lib : Library) (hnd : Option NativeHandle) (g : Getter)
    (val out : BitVec 32) :
    lib.OnlyRead hnd g val out ↔
      (lib.asks hnd g = true → (lib.mapperGet hnd g.type).error = .none) := by
  rw [Library.OnlyRead, gets_eq]
  constructor
  · rintro honly hasks
    by_contra herror
    rw [if_pos hasks, if_neg herror] at honly
    exact herror (honly _ rfl).1
  · rintro herror v hv
    by_cases hasks : lib.asks hnd g = true
    · rw [if_pos hasks, if_pos (herror hasks)] at hv
      rcases Option.map_eq_some_iff.mp hv with ⟨n, hn, hreport⟩
      exact ⟨herror hasks, n, hn, hreport.symm⟩
    · rw [if_neg hasks] at hv
      exact absurd hv (Option.some_ne_none v).symm

/-- A raw video buffer. -/
def rawVideo : NativeHandle where
  version := 12
  numFds := 3
  numInts := HandleLayout.lp64.numInts
  data := fun i =>
    if i = HandleLayout.lp64.magic then sMagic
    else if i = HandleLayout.lp64.magic + 1 then privFlagsVideoOmx
    else 0#32

/-- A mapper that refuses every handle. The getters return what their variables hold. -/
theorem not_onlyRead_refused :
    let lib : Library := ⟨.lp64, numbersOnly.decodeInt32, fun _ _ => ⟨.badBuffer, []⟩⟩
    lib.amGrallocGetOmxVideoType (some rawVideo) 7#32 0#32 = (.none, 7#32) ∧
      lib.amGrallocGetOmxMetadataTunnel (some rawVideo) 1#32 0#32 = (.none, 1#32) ∧
      lib.amGrallocGetOmxBufferSequence (some rawVideo) 7#32 0#32 = (true, 7#32) ∧
      ¬lib.OnlyRead (some rawVideo) .omxVideoType 7#32 0#32 := by
  intro lib
  refine ⟨by decide, by decide, by decide, fun h => ?_⟩
  exact absurd (h 7#32 (by decide)).1 (by decide)

end

end Aml

end Gralloc
