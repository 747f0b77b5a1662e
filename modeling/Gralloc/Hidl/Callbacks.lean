import Gralloc.Hidl.Agreement
import Gralloc.Idl.Entry
import Gralloc.Mapper.Import
import Gralloc.Mapper.LockRun
import Gralloc.Stablec.Metadata

/-!
# Calling back

A call of the mapper returns nothing. Its answer is a call back, with an error and a value, and
whoever waits for it waits for one. Nothing in the interface keeps a call from calling back
twice, or not at all: what a call does to its client is a sequence of answers
(`Gralloc.Hidl.Callbacks`), and a fault if one stopped it.

Ten calls answer so, each with a body of its own (`Gralloc.Hidl.GrallocMapper`). Most look at
what the common code returned and call back with it. One of them refuses a descriptor and goes
on: `Gralloc.Hidl.GrallocMapper.isSupported` answers twice, and the second answer is not an
error. `Gralloc.Hidl.answered_iff` says for each call when it answers once, and with an error
to a descriptor that is not valid.
-/

namespace Gralloc

namespace Hidl

open CInt Mapper

/-! ### Answers -/

/-- The errors of the interface. -/
inductive Error where
  | none
  | badDescriptor
  | badBuffer
  | badValue
  | noResources
  | unsupported
  deriving DecidableEq, Repr

def mapperErrToHidlErr : MapperError → Error
  | .badDescriptor => .badDescriptor
  | .badBuffer => .badBuffer
  | .badValue => .badValue
  | .noResources => .noResources
  | .unsupported => .unsupported

/-- What a client is called back with. -/
structure Answer (α : Type) where
  error : Error
  value : α
  deriving DecidableEq, Repr

/-- **The calls back** of a call, in their order, and the fault that stopped it, if any. -/
structure Callbacks (α : Type) where
  answers : List (Answer α)
  fault : Option Fault
  deriving DecidableEq, Repr

namespace Callbacks

variable {α β : Type}

/-- One call back. -/
def hidlCb (error : Error) (value : α) : Callbacks α := ⟨[⟨error, value⟩], none⟩

/-- A calculation, and the calls back that follow it. -/
def after (r : Run β) (k : β → Callbacks α) : Callbacks α :=
  match r with
  | .ok b => k b
  | .error f => ⟨[], some f⟩

/-- Calls back, and further ones unless a fault came first. -/
def andThen (c c' : Callbacks α) : Callbacks α :=
  match c.fault with
  | none => ⟨c.answers ++ c'.answers, c'.fault⟩
  | some f => ⟨c.answers, some f⟩

/-- A call back with what the common code returned; `value` goes with an error. -/
def ofExcept (value : α) : Except MapperError α → Callbacks α
  | .ok v => hidlCb .none v
  | .error e => hidlCb (mapperErrToHidlErr e) value

/-- The errors of the answers. -/
def errors (c : Callbacks α) : List Error := c.answers.map Answer.error

/-- **One answer**, after which the call returns. -/
def Once (c : Callbacks α) : Prop := c.fault = none ∧ c.answers.length = 1

instance (c : Callbacks α) : Decidable c.Once := inferInstanceAs (Decidable (_ ∧ _))

/-- No answer but errors. -/
def OnlyErrors (c : Callbacks α) : Prop := Error.none ∉ c.errors

instance (c : Callbacks α) : Decidable c.OnlyErrors := inferInstanceAs (Decidable (¬_))

/-- **The answers that there should be**: one, and no other than an error to what is invalid. -/
def Proper (invalid : Prop) (c : Callbacks α) : Prop := c.Once ∧ (invalid → c.OnlyErrors)

theorem once_hidlCb (error : Error) (value : α) : (hidlCb error value).Once := ⟨rfl, rfl⟩

theorem once_ofExcept (value : α) (r : Except MapperError α) : (ofExcept value r).Once := by
  cases r <;> exact once_hidlCb _ _

theorem mapperErrToHidlErr_ne_none (e : MapperError) : mapperErrToHidlErr e ≠ .none := by
  cases e <;> decide

theorem onlyErrors_ofExcept_iff (value : α) (r : Except MapperError α) :
    (ofExcept value r).OnlyErrors ↔ ∃ e, r = .error e := by
  cases r with
  | ok v => exact iff_of_false (fun h => h List.mem_cons_self) (by rintro ⟨e, h⟩; cases h)
  | error e =>
    refine iff_of_true (fun h => ?_) ⟨e, rfl⟩
    exact mapperErrToHidlErr_ne_none e (List.mem_singleton.mp h).symm

/-- A calculation comes before the one answer exactly when it returns. -/
theorem once_after_iff {r : Run β} {k : β → Callbacks α} (hk : ∀ b, (k b).Once) :
    (after r k).Once ↔ ∃ b, r = .ok b := by
  cases r with
  | ok b => exact iff_of_true (hk b) ⟨b, rfl⟩
  | error f =>
    refine iff_of_false (fun h => ?_) (by rintro ⟨b, h⟩; cases h)
    cases h.1

/-- An answer that is not the last one is one too many. -/
theorem not_once_hidlCb_andThen_after {r : Run β} {k : β → Callbacks α} (error : Error)
    (value : α) (hk : ∀ b, (k b).Once) : ¬((hidlCb error value).andThen (after r k)).Once := by
  rintro ⟨hfault, hlen⟩
  cases r with
  | ok b =>
    have hone : (k b).answers.length = 1 := (hk b).2
    rw [andThen, hidlCb, after, List.length_append, hone] at hlen
    cases hlen
  | error f => cases hfault

end Callbacks

/-! ### The calls -/

/-- A part of a buffer, as a client gives it. -/
structure Rect where
  left : BitVec 32
  top : BitVec 32
  width : BitVec 32
  height : BitVec 32
  deriving DecidableEq, Repr

namespace GrallocMapper

open Callbacks

def createDescriptor (info : BufferDescriptorInfo) : Callbacks (List (BitVec 8)) :=
  if validateDescriptorInfo info then hidlCb .none (encodeBufferDescriptor info)
  else hidlCb .badValue []

section

variable (l : HandleLayout)

/-- The import of a handle, if there is one. -/
def importBuffer (env : ImportEnv) (rawHandle : Option NativeHandle) :
    Callbacks (Option NativeHandle) :=
  match rawHandle with
  | none => hidlCb .badBuffer none
  | some raw => ofExcept none ((Mapper.importBuffer l env raw).map some)

/-- The numbers of descriptors and integers of a handle, if there is one. -/
def getTransportSize (buffer : Option NativeHandle) : Callbacks (ℤ × ℤ) :=
  match buffer with
  | none => hidlCb .badBuffer (-1, -1)
  | some h =>
    if l.handleCast handleTypeImported h then
      after (assert (h.numInts = l.numInts)) fun _ => hidlCb .none (h.numFds, h.numInts)
    else hidlCb .badBuffer (-1, -1)

end

/-- The descriptor of a fence, or -1; a handle has no more than one. -/
def getFenceFd (fenceHandle : Option (List ℤ)) : Option ℤ :=
  match fenceHandle with
  | none => some (-1)
  | some fds => if 1 < fds.length then none else some (fds.headD (-1))

/-- A fence, if there is a descriptor. -/
def getFenceHandle (fenceFd : ℤ) : Option ℤ := if 0 ≤ fenceFd then some fenceFd else none

section

variable (k : Mapper.Kernel) (buffer : Option ImportedHandle)

/-- Locking: the address of the buffer, which a buffer that is locked for writing has not. -/
def lock (pid : ℤ) (cpuUsage : Usage) (accessRegion : Rect) (acquireFence : Option (List ℤ)) :
    Callbacks (Option ℕ) :=
  match getFenceFd acquireFence with
  | none => hidlCb .badValue none
  | some _ =>
    let rect : ARect :=
      { left := accessRegion.left
        top := accessRegion.top
        right := accessRegion.left + accessRegion.width
        bottom := accessRegion.top + accessRegion.height }
    match buffer with
    | none => hidlCb .badBuffer none
    | some hnd => ofExcept none (lockBuffer k hnd pid cpuUsage rect).1

/-- Unlocking: a fence, which there never is. -/
def unlock : Callbacks (Option ℤ) :=
  match buffer with
  | none => hidlCb .badBuffer none
  | some hnd => ofExcept none ((unlockBuffer k hnd).1.map fun _ => getFenceHandle (-1))

/-- What the end of a synchronisation returns is not looked at. -/
def flushLockedBuffer : Callbacks (Option ℤ) :=
  match buffer with
  | none => hidlCb .badBuffer none
  | some hnd => if hnd.lockCount = 0 then hidlCb .badBuffer none else hidlCb .none none

end

section

variable (gralloc4 : Gralloc4)

def get (buffer : Option MetadataHandle) (t : MetadataType) : Callbacks (List (BitVec 8)) :=
  match buffer with
  | none => hidlCb .badBuffer []
  | some hnd => after (Hidl.get gralloc4 hnd t) (ofExcept [])

/-- What is dumped of a type, if anything. -/
def dumpType (hnd : MetadataHandle) (t : StandardMetadataType) :
    Run (Option (List (BitVec 8))) :=
  if Stablec.Hidden hnd t ∨ hasEncoder t = false then .ok none
  else do
    let v ← getMetadata hnd false (.standard t)
    .ok (match v.bind (getEncodeFunction gralloc4 (.standard t)) with
      | .ok bytes => some bytes
      | .error _ => none)

/-- What is dumped of some types. -/
def dumpTypes (hnd : MetadataHandle) :
    List StandardMetadataType → Run (List (StandardMetadataType × List (BitVec 8)))
  | [] => .ok []
  | t :: ts => do
    let entry ← dumpType gralloc4 hnd t
    let rest ← dumpTypes hnd ts
    .ok (entry.toList.map (fun bytes => (t, bytes)) ++ rest)

def dumpBuffer (buffer : Option MetadataHandle) :
    Callbacks (List (StandardMetadataType × List (BitVec 8))) :=
  match buffer with
  | none => hidlCb .badBuffer []
  | some hnd => after (dumpTypes gralloc4 hnd Stablec.dumpedTypes) (hidlCb .none)

variable (caps : Capabilities) (node : ℕ → Option DecoderPara) (flags : DescriptorFlags)

def getFromBufferDescriptorInfo (description : BufferDescriptorInfo) (t : MetadataType) :
    Callbacks (List (BitVec 8)) :=
  after (Hidl.getFromBufferDescriptorInfo gralloc4 caps node flags description t) (ofExcept [])

/-- Whether a buffer can be derived for a descriptor. -/
def isSupportedHelper (description : BufferDescriptorInfo) : Callbacks Bool :=
  after (deriveFormatAndSize wrapping caps node (description.toDescriptor flags)) fun r =>
    hidlCb .none (r.1 == .success)

/-- **A descriptor that is not valid** is answered, and then asked about all the same. -/
def isSupported (description : BufferDescriptorInfo) : Callbacks Bool :=
  if validateDescriptorInfo description then isSupportedHelper caps node flags description
  else (hidlCb .badValue false).andThen (isSupportedHelper caps node flags description)

end

end GrallocMapper

/-! ### Requests -/

/-- What surrounds a mapper: the capabilities and the decoder, the flags of the service, the
encoders of the framework, the layout of a handle, the kernel and the process. -/
structure MapperEnv where
  caps : Capabilities
  node : ℕ → Option DecoderPara
  flags : DescriptorFlags
  gralloc4 : Gralloc4
  layout : HandleLayout
  importEnv : ImportEnv
  kernel : Mapper.Kernel
  pid : ℤ

/-- The calls that call back. A buffer that is no handle of the allocator is `none`. -/
inductive Request where
  | createDescriptor (info : BufferDescriptorInfo)
  | importBuffer (rawHandle : Option NativeHandle)
  | lock (buffer : Option ImportedHandle) (cpuUsage : Usage) (accessRegion : Rect)
    (acquireFence : Option (List ℤ))
  | unlock (buffer : Option ImportedHandle)
  | flushLockedBuffer (buffer : Option ImportedHandle)
  | get (buffer : Option MetadataHandle) (t : MetadataType)
  | getFromBufferDescriptorInfo (description : BufferDescriptorInfo) (t : MetadataType)
  | isSupported (description : BufferDescriptorInfo)
  | getTransportSize (buffer : Option NativeHandle)
  | dumpBuffer (buffer : Option MetadataHandle)

namespace Request

/-- The descriptor that is given, if one is. -/
def description : Request → Option BufferDescriptorInfo
  | .createDescriptor info => some info
  | .getFromBufferDescriptorInfo info _ => some info
  | .isSupported info => some info
  | _ => none

variable (env : MapperEnv)

/-- A descriptor is given that is not valid. -/
def Invalid (req : Request) : Prop :=
  ∃ info, req.description = some info ∧ validateDescriptorInfo info = false

/-- **A request is answered as it should be**: once, and with an error if it gives a descriptor
that is not valid. -/
def Answered (req : Request) : Prop :=
  match req with
  | .createDescriptor info => (GrallocMapper.createDescriptor info).Proper req.Invalid
  | .importBuffer raw =>
    (GrallocMapper.importBuffer env.layout env.importEnv raw).Proper req.Invalid
  | .lock buffer usage region fence =>
    (GrallocMapper.lock env.kernel buffer env.pid usage region fence).Proper req.Invalid
  | .unlock buffer => (GrallocMapper.unlock env.kernel buffer).Proper req.Invalid
  | .flushLockedBuffer buffer => (GrallocMapper.flushLockedBuffer buffer).Proper req.Invalid
  | .get buffer t => (GrallocMapper.get env.gralloc4 buffer t).Proper req.Invalid
  | .getFromBufferDescriptorInfo info t =>
    (GrallocMapper.getFromBufferDescriptorInfo env.gralloc4 env.caps env.node env.flags info
      t).Proper req.Invalid
  | .isSupported info =>
    (GrallocMapper.isSupported env.caps env.node env.flags info).Proper req.Invalid
  | .getTransportSize buffer =>
    (GrallocMapper.getTransportSize env.layout buffer).Proper req.Invalid
  | .dumpBuffer buffer => (GrallocMapper.dumpBuffer env.gralloc4 buffer).Proper req.Invalid

/-- The derivation of a descriptor returns: no division by zero stops it, and no assertion. -/
def Derives (info : BufferDescriptorInfo) : Prop :=
  ∃ r, deriveFormatAndSize wrapping env.caps env.node (info.toDescriptor env.flags) = .ok r

/-- **What a request needs**: planes that can be looked at, where it looks at them; and, for a
descriptor, a derivation that returns. What a derivation refuses, or nobody calculates for a
descriptor, is an error in any case; otherwise the descriptor has to be valid. -/
def Answerable : Request → Prop
  | .get buffer t =>
    ∀ hnd, buffer = some hnd → t = .standard .planeLayouts → Stablec.PlanesReported hnd
  | .dumpBuffer buffer => ∀ hnd, buffer = some hnd → Stablec.PlanesReported hnd
  | .getFromBufferDescriptorInfo info t =>
    Derives env info ∧
      (validateDescriptorInfo info = true ∨ choose env.caps (info.toDescriptor env.flags) = none ∨
        t ∉ commonTypes)
  | .isSupported info => Derives env info ∧ validateDescriptorInfo info = true
  | _ => True

end Request

section

variable {α : Type} {env : MapperEnv}

/-- Without a descriptor there is nothing but the number of answers. -/
theorem proper_iff_of_valid {invalid : Prop} (h : ¬invalid) {c : Callbacks α} :
    c.Proper invalid ↔ c.Once := and_iff_left fun hi => absurd hi h

theorem not_invalid_of_description {req : Request} (h : req.description = none) :
    ¬req.Invalid := by
  rintro ⟨info, hinfo, -⟩
  rw [h] at hinfo
  cases hinfo

theorem invalid_iff {req : Request} {info : BufferDescriptorInfo}
    (h : req.description = some info) :
    req.Invalid ↔ validateDescriptorInfo info = false := by
  constructor
  · rintro ⟨info', hinfo, hv⟩
    rw [h] at hinfo
    cases hinfo
    exact hv
  · exact fun hv => ⟨info, h, hv⟩

/-! ### Handles -/

open Callbacks

theorem once_importBuffer (l : HandleLayout) (e : ImportEnv) (raw : Option NativeHandle) :
    (GrallocMapper.importBuffer l e raw).Once := by
  cases raw with
  | none => exact once_hidlCb _ _
  | some h => exact once_ofExcept _ _

/-- A handle that is one of the allocator's has as many integers as it should. -/
theorem once_getTransportSize (l : HandleLayout) (buffer : Option NativeHandle) :
    (GrallocMapper.getTransportSize l buffer).Once := by
  cases buffer with
  | none => exact once_hidlCb _ _
  | some h =>
    rw [GrallocMapper.getTransportSize]
    split_ifs with hcast
    · refine (once_after_iff fun _ => once_hidlCb _ _).mpr ⟨(), assert_of ?_⟩
      simp only [HandleLayout.handleCast, Bool.and_eq_true, beq_iff_eq] at hcast
      exact hcast.1.1.2
    · exact once_hidlCb _ _

theorem once_lock (k : Mapper.Kernel) (buffer : Option ImportedHandle) (pid : ℤ) (usage : Usage)
    (region : Rect) (fence : Option (List ℤ)) :
    (GrallocMapper.lock k buffer pid usage region fence).Once := by
  rw [GrallocMapper.lock]
  cases GrallocMapper.getFenceFd fence with
  | none => exact once_hidlCb _ _
  | some fd =>
    cases buffer with
    | none => exact once_hidlCb _ _
    | some hnd => exact once_ofExcept _ _

theorem once_unlock (k : Mapper.Kernel) (buffer : Option ImportedHandle) :
    (GrallocMapper.unlock k buffer).Once := by
  cases buffer with
  | none => exact once_hidlCb _ _
  | some hnd => exact once_ofExcept _ _

theorem once_flushLockedBuffer (buffer : Option ImportedHandle) :
    (GrallocMapper.flushLockedBuffer buffer).Once := by
  cases buffer with
  | none => exact once_hidlCb _ _
  | some hnd =>
    rw [GrallocMapper.flushLockedBuffer]
    split_ifs <;> exact once_hidlCb _ _

/-! ### Metadata -/

/-- The values of the interface are those of the new one, but for the stride. -/
theorem getMetadata_false_ok_iff (hnd : MetadataHandle) (t : StandardMetadataType) :
    (∃ v, getMetadata hnd false (.standard t) = .ok v) ↔
      t = .planeLayouts → Stablec.PlanesReported hnd := by
  rw [← Stablec.getMetadata_ok_iff]
  cases t with
  | stride => exact iff_of_true ⟨_, rfl⟩ ⟨_, rfl⟩
  | _ => exact Iff.rfl

/-- Only the planes can divide by zero. -/
theorem get_ok_iff (gralloc4 : Gralloc4) (hnd : MetadataHandle) (t : MetadataType) :
    (∃ r, Hidl.get gralloc4 hnd t = .ok r) ↔
      t = .standard .planeLayouts → Stablec.PlanesReported hnd := by
  have hattr (k : SharedMetadata → MetadataValue) : ∃ v, fromAttr hnd k = .ok v := by
    rcases Stablec.fromAttr_cases hnd k with ⟨m, hm⟩ | hm <;> exact ⟨_, hm⟩
  by_cases hraw : hnd.attr.isNone ∧ isMutable t
  · refine iff_of_true ⟨_, if_pos hraw⟩ ?_
    rintro rfl
    exact absurd hraw.2 (by decide)
  · have hget : Hidl.get gralloc4 hnd t = getMetadata hnd false t >>= fun v =>
        .ok (v.bind (getEncodeFunction gralloc4 t)) := if_neg hraw
    have hok : (∃ r, Hidl.get gralloc4 hnd t = .ok r) ↔
        ∃ v, getMetadata hnd false t = .ok v := by
      rw [hget]
      cases getMetadata hnd false t with
      | error e => exact iff_of_false (by rintro ⟨v, h⟩; cases h) (by rintro ⟨v, h⟩; cases h)
      | ok v => exact iff_of_true ⟨_, rfl⟩ ⟨_, rfl⟩
    rw [hok]
    rcases t with t | t | t | _
    · rw [getMetadata_false_ok_iff, MetadataType.standard.injEq]
    · refine iff_of_true ?_ fun h => by cases h
      cases t <;> exact ⟨_, rfl⟩
    · refine iff_of_true ?_ fun h => by cases h
      cases t <;> first | exact hattr _ | exact ⟨_, rfl⟩
    · exact iff_of_true ⟨_, rfl⟩ fun h => by cases h

/-- What is dumped of one type. -/
theorem dumpType_ok_iff (gralloc4 : Gralloc4) (hnd : MetadataHandle) (t : StandardMetadataType) :
    (∃ entry, GrallocMapper.dumpType gralloc4 hnd t = .ok entry) ↔
      t = .planeLayouts → Stablec.PlanesReported hnd := by
  rw [GrallocMapper.dumpType]
  split_ifs with hskip
  · refine iff_of_true ⟨none, rfl⟩ ?_
    rintro rfl
    rcases hskip with h | h
    · exact absurd h.2 (by decide)
    · cases h
  · rw [← getMetadata_false_ok_iff]
    cases getMetadata hnd false (.standard t) with
    | error e => exact iff_of_false (by rintro ⟨v, h⟩; cases h) (by rintro ⟨v, h⟩; cases h)
    | ok v => exact iff_of_true ⟨_, rfl⟩ ⟨_, rfl⟩

/-- Types are dumped one by one, by induction on them. -/
theorem dumpTypes_ok_iff (gralloc4 : Gralloc4) (hnd : MetadataHandle)
    (ts : List StandardMetadataType) :
    (∃ entries, GrallocMapper.dumpTypes gralloc4 hnd ts = .ok entries) ↔
      .planeLayouts ∈ ts → Stablec.PlanesReported hnd := by
  induction ts with
  | nil => exact iff_of_true ⟨[], rfl⟩ fun h => by cases h
  | cons t ts ih =>
    have hcons : (∃ entries, GrallocMapper.dumpTypes gralloc4 hnd (t :: ts) = .ok entries) ↔
        (∃ entry, GrallocMapper.dumpType gralloc4 hnd t = .ok entry) ∧
          ∃ entries, GrallocMapper.dumpTypes gralloc4 hnd ts = .ok entries := by
      constructor
      · rintro ⟨entries, h⟩
        obtain ⟨entry, hentry, h⟩ := bind_eq_ok.mp h
        obtain ⟨rest, hrest, -⟩ := bind_eq_ok.mp h
        exact ⟨⟨entry, hentry⟩, rest, hrest⟩
      · rintro ⟨⟨entry, hentry⟩, rest, hrest⟩
        exact ⟨_, by rw [GrallocMapper.dumpTypes, hentry, ok_bind, hrest, ok_bind]⟩
    rw [hcons, ih, dumpType_ok_iff, List.mem_cons]
    constructor
    · rintro ⟨hhead, htail⟩ (h | h)
      · exact hhead h.symm
      · exact htail h
    · exact fun h => ⟨fun ht => h (Or.inl ht.symm), fun ht => h (Or.inr ht)⟩

theorem once_get_iff (gralloc4 : Gralloc4) (buffer : Option MetadataHandle) (t : MetadataType) :
    (GrallocMapper.get gralloc4 buffer t).Once ↔
      ∀ hnd, buffer = some hnd → t = .standard .planeLayouts → Stablec.PlanesReported hnd := by
  cases buffer with
  | none => exact iff_of_true (once_hidlCb _ _) fun hnd h => by cases h
  | some hnd =>
    rw [GrallocMapper.get, once_after_iff (once_ofExcept _), get_ok_iff]
    exact ⟨fun h hnd' heq => by cases heq; exact h, fun h => h hnd rfl⟩

theorem once_dumpBuffer_iff (gralloc4 : Gralloc4) (buffer : Option MetadataHandle) :
    (GrallocMapper.dumpBuffer gralloc4 buffer).Once ↔
      ∀ hnd, buffer = some hnd → Stablec.PlanesReported hnd := by
  cases buffer with
  | none => exact iff_of_true (once_hidlCb _ _) fun hnd h => by cases h
  | some hnd =>
    rw [GrallocMapper.dumpBuffer, once_after_iff (once_hidlCb _), dumpTypes_ok_iff]
    constructor
    · intro h hnd' heq
      cases heq
      exact h (by decide)
    · exact fun h _ => h hnd rfl

/-! ### Descriptors -/

/-- A format that is chosen is derived, or a fault stops the derivation. -/
theorem choose_eq_none_of_einval {caps : Capabilities} {node : ℕ → Option DecoderPara}
    {d d' : BufferDescriptor}
    (h : deriveFormatAndSize wrapping caps node d = .ok (.einval, d')) : choose caps d = none := by
  cases hc : choose caps d with
  | none => rfl
  | some c =>
    rw [deriveFormatAndSize_of_choose hc] at h
    obtain ⟨wh, -, h⟩ := bind_eq_ok.mp h
    obtain ⟨s, -, h⟩ := bind_eq_ok.mp h
    obtain ⟨pitches, -, h⟩ := bind_eq_ok.mp h
    cases h

theorem layerCount_ne_zero_of_valid {info : BufferDescriptorInfo}
    (hv : validateDescriptorInfo info = true) : info.layerCount ≠ 0#32 := by
  simp only [validateDescriptorInfo, Bool.and_eq_true, bne_iff_ne] at hv
  exact hv.1.2

/-- A number of layers is kept as zero only if it is. -/
theorem toInt_toNat_ne_zero {w : BitVec 32} (h : w ≠ 0#32) : toInt w.toNat ≠ 0 := by
  intro hz
  have hlt := w.isLt
  have hdvd : ((2 ^ 32 : ℕ) : ℤ) ∣ (w.toNat : ℤ) := Int.dvd_of_bmod_eq_zero hz
  have hzero : w.toNat = 0 := Nat.eq_zero_of_dvd_of_lt (Int.natCast_dvd_natCast.mp hdvd) hlt
  exact h (BitVec.eq_of_toNat_eq hzero)

/-- **The value of a common type** is there, unless a plane is divided among no layers. -/
theorem standardFromDescriptor_cases {info : BufferDescriptorInfo} {ph : PrivateHandle}
    {f : FormatInfo} (hf : ph.allocFormat.getBaseInfo = some f) {t : StandardMetadataType}
    (ht : t ∈ commonStandardTypes) :
    (∃ v, standardFromDescriptor info ph t = .ok (.ok v)) ∨
      ph.layerCount = 0 ∧ ∀ r, standardFromDescriptor info ph t ≠ .ok r := by
  cases t with
  | planeLayouts =>
    by_cases hl : ph.layerCount = 0
    · refine Or.inr ⟨hl, fun r h => ?_⟩
      obtain ⟨layouts, hlayouts, -⟩ := bind_eq_ok.mp h
      obtain ⟨ls, hls, -⟩ := bind_eq_ok.mp hlayouts
      exact getPlaneLayouts_of_layerCount_eq_zero ph hf hl ls hls
    · obtain ⟨ls, hls⟩ : ∃ ls, describedPlaneLayouts ph = .ok (.ok ls) := by
        rw [describedPlaneLayouts, getPlaneLayouts_of_layers ph hf hl]
        exact ⟨_, rfl⟩
      refine Or.inl ⟨.layouts ls, ?_⟩
      rw [standardFromDescriptor, hls]
      rfl
  | chromaSiting =>
    refine Or.inl ⟨.extendable (defaultChromaSiting f), ?_⟩
    rw [standardFromDescriptor, hf]
  | bufferId | stride | invalid => exact absurd ht (by decide)
  | _ => exact Or.inl ⟨_, rfl⟩

section

variable {info : BufferDescriptorInfo}

theorem proper_createDescriptor :
    (GrallocMapper.createDescriptor info).Proper (validateDescriptorInfo info = false) := by
  rw [GrallocMapper.createDescriptor]
  split_ifs with hv
  · exact ⟨once_hidlCb _ _, fun h => by rw [hv] at h; cases h⟩
  · exact ⟨once_hidlCb _ _, fun _ h => by cases List.mem_singleton.mp h⟩

/-- **A second answer** follows the refusal of a descriptor. -/
theorem proper_isSupported_iff :
    (GrallocMapper.isSupported env.caps env.node env.flags info).Proper
        (validateDescriptorInfo info = false) ↔
      Request.Derives env info ∧ validateDescriptorInfo info = true := by
  have hhelper : (GrallocMapper.isSupportedHelper env.caps env.node env.flags info).Once ↔
      Request.Derives env info := once_after_iff fun _ => once_hidlCb _ _
  cases hv : validateDescriptorInfo info with
  | true =>
    rw [GrallocMapper.isSupported, hv, if_pos rfl, proper_iff_of_valid (by decide), hhelper]
    exact (and_iff_left rfl).symm
  | false =>
    refine iff_of_false (fun h => ?_) fun h => by cases h.2
    have honce := h.1
    rw [GrallocMapper.isSupported, hv, if_neg (by decide)] at honce
    exact not_once_hidlCb_andThen_after _ _ (fun _ => once_hidlCb _ _) honce

/-- What is calculated for a descriptor that was derived, of a common type: a value, or nothing
because there are no layers. -/
theorem getFromBufferDescriptorInfo_cases {r : BufferDescriptor}
    (hr : deriveFormatAndSize wrapping env.caps env.node (info.toDescriptor env.flags) =
      .ok (.success, r)) {t : MetadataType} (ht : t ∈ commonTypes) :
    (∃ bytes, Hidl.getFromBufferDescriptorInfo env.gralloc4 env.caps env.node env.flags info t =
        .ok (.ok bytes)) ∨
      validateDescriptorInfo info = false ∧
        ∀ x, Hidl.getFromBufferDescriptorInfo env.gralloc4 env.caps env.node env.flags info t ≠
          .ok x := by
  rcases List.mem_append.mp ht with ht | ht
  · obtain ⟨t, hmem, rfl⟩ := List.mem_map.mp ht
    rw [getFromBufferDescriptorInfo_standard env.gralloc4 hr]
    obtain ⟨c, hc, -⟩ := deriveFormatAndSize_eq_success.mp hr
    have hformat : (partialHandle r).allocFormat = c.format := by
      rw [partialHandle]
      exact allocFormat_of_success hc hr
    have hf : (partialHandle r).allocFormat.getBaseInfo = some c.info := by
      rw [hformat]
      exact c.info_eq
    rcases (standardFromDescriptor_cases hf hmem :
        (∃ v, standardFromDescriptor info (partialHandle r) t = .ok (.ok v)) ∨ _)
      with ⟨v, hv⟩ | ⟨hl, hnone⟩
    · refine Or.inl ⟨env.gralloc4 t v, ?_⟩
      rw [hv]
      rfl
    · refine Or.inr ⟨?_, fun x hx => ?_⟩
      · by_contra hv
        rw [Bool.not_eq_false] at hv
        have hlayers : r.layerCount = info.layerCount := layerCount_of_fresh (fresh_of_derive hr)
        rw [partialHandle_layerCount, hlayers] at hl
        exact toInt_toNat_ne_zero (layerCount_ne_zero_of_valid hv) hl
      · obtain ⟨v, hv, -⟩ := map_eq_ok.mp hx
        exact hnone v hv
  · rw [List.mem_singleton.mp ht]
    refine Or.inl ⟨leBytes 8 (dataTypeInternalToAidl (partialHandle r).allocFormat.dataType).toNat,
      ?_⟩
    rw [Hidl.getFromBufferDescriptorInfo, hr]
    rfl

/-- What is calculated is proper if the descriptor is valid, or an error. -/
theorem proper_getFromBufferDescriptorInfo_of_ok {t : MetadataType}
    {x : Except MapperError (List (BitVec 8))}
    (hx : Hidl.getFromBufferDescriptorInfo env.gralloc4 env.caps env.node env.flags info t =
      .ok x) :
    (GrallocMapper.getFromBufferDescriptorInfo env.gralloc4 env.caps env.node env.flags info
        t).Proper (validateDescriptorInfo info = false) ↔
      (validateDescriptorInfo info = true ∨ ∃ e, x = .error e) := by
  rw [GrallocMapper.getFromBufferDescriptorInfo, hx, after, Callbacks.Proper,
    onlyErrors_ofExcept_iff, and_iff_right (once_ofExcept [] x)]
  cases validateDescriptorInfo info <;> simp

/-- A calculation that stops does not answer. -/
theorem not_proper_getFromBufferDescriptorInfo {t : MetadataType}
    (hx : ∀ x, Hidl.getFromBufferDescriptorInfo env.gralloc4 env.caps env.node env.flags info t ≠
      .ok x) :
    ¬(GrallocMapper.getFromBufferDescriptorInfo env.gralloc4 env.caps env.node env.flags info
      t).Proper (validateDescriptorInfo info = false) := by
  rintro ⟨honce, -⟩
  obtain ⟨x, h⟩ := (once_after_iff (once_ofExcept [])).mp honce
  exact hx x h

/-- **A descriptor is looked at only as far as it is derived.** -/
theorem proper_getFromBufferDescriptorInfo_iff {t : MetadataType} :
    (GrallocMapper.getFromBufferDescriptorInfo env.gralloc4 env.caps env.node env.flags info
        t).Proper (validateDescriptorInfo info = false) ↔
      Request.Derives env info ∧
        (validateDescriptorInfo info = true ∨
          choose env.caps (info.toDescriptor env.flags) = none ∨ t ∉ commonTypes) := by
  cases hd : deriveFormatAndSize wrapping env.caps env.node (info.toDescriptor env.flags) with
  | error e =>
    refine iff_of_false (not_proper_getFromBufferDescriptorInfo fun x hx => ?_) ?_
    · rw [Hidl.getFromBufferDescriptorInfo, hd] at hx
      cases hx
    · rintro ⟨⟨r, hr⟩, -⟩
      rw [hd] at hr
      cases hr
  | ok r =>
    have hderives : Request.Derives env info := ⟨r, hd⟩
    rw [and_iff_right hderives]
    rcases r with ⟨st, r⟩
    cases st with
    | einval =>
      have hx : Hidl.getFromBufferDescriptorInfo env.gralloc4 env.caps env.node env.flags info t =
          .ok (.error .badValue) := by
        rw [Hidl.getFromBufferDescriptorInfo, hd]
        rfl
      rw [proper_getFromBufferDescriptorInfo_of_ok hx]
      exact iff_of_true (Or.inr ⟨_, rfl⟩) (Or.inr (Or.inl (choose_eq_none_of_einval hd)))
    | success =>
      obtain ⟨c, hc, -⟩ := deriveFormatAndSize_eq_success.mp hd
      have hchoose : choose env.caps (info.toDescriptor env.flags) ≠ none := by
        rw [hc]
        exact Option.some_ne_none c
      by_cases ht : t ∈ commonTypes
      · have hrest : (choose env.caps (info.toDescriptor env.flags) = none ∨ t ∉ commonTypes) ↔
            False := iff_of_false (not_or.mpr ⟨hchoose, fun h => h ht⟩) not_false
        rw [hrest, or_false]
        rcases getFromBufferDescriptorInfo_cases hd ht with ⟨bytes, hx⟩ | ⟨hv, hx⟩
        · rw [proper_getFromBufferDescriptorInfo_of_ok hx]
          refine or_iff_left ?_
          rintro ⟨e, h⟩
          cases h
        · exact iff_of_false (not_proper_getFromBufferDescriptorInfo hx) (by rw [hv]; decide)
      · have hx := getFromBufferDescriptorInfo_of_not_mem env.gralloc4 hd ht
        rw [proper_getFromBufferDescriptorInfo_of_ok hx]
        exact iff_of_true (Or.inr ⟨_, rfl⟩) (Or.inr (Or.inr ht))

end

/-! ### Every request -/

/-- **When a request is answered once**, and with an error if its descriptor is not valid. -/
theorem answered_iff (env : MapperEnv) (req : Request) :
    req.Answered env ↔ req.Answerable env := by
  cases req with
  | createDescriptor info =>
    rw [Request.Answered, invalid_iff (rfl : Request.description _ = some info)]
    exact iff_of_true proper_createDescriptor trivial
  | getFromBufferDescriptorInfo info t =>
    rw [Request.Answered, invalid_iff (rfl : Request.description _ = some info), Request.Answerable]
    exact proper_getFromBufferDescriptorInfo_iff
  | isSupported info =>
    rw [Request.Answered, invalid_iff (rfl : Request.description _ = some info), Request.Answerable]
    exact proper_isSupported_iff
  | importBuffer raw =>
    exact iff_of_true ((proper_iff_of_valid (not_invalid_of_description rfl)).mpr
      (once_importBuffer _ _ _)) trivial
  | lock buffer usage region fence =>
    exact iff_of_true ((proper_iff_of_valid (not_invalid_of_description rfl)).mpr
      (once_lock _ _ _ _ _ _)) trivial
  | unlock buffer =>
    exact iff_of_true ((proper_iff_of_valid (not_invalid_of_description rfl)).mpr
      (once_unlock _ _)) trivial
  | flushLockedBuffer buffer =>
    exact iff_of_true ((proper_iff_of_valid (not_invalid_of_description rfl)).mpr
      (once_flushLockedBuffer _)) trivial
  | getTransportSize buffer =>
    exact iff_of_true ((proper_iff_of_valid (not_invalid_of_description rfl)).mpr
      (once_getTransportSize _ _)) trivial
  | get buffer t =>
    exact (proper_iff_of_valid (not_invalid_of_description rfl)).trans (once_get_iff _ _ _)
  | dumpBuffer buffer =>
    exact (proper_iff_of_valid (not_invalid_of_description rfl)).trans (once_dumpBuffer_iff _ _)

end

/-- The surroundings of a mapper that has a GPU and no decoder. -/
def MapperEnv.gpuOnly : MapperEnv where
  caps := .gpuOnly
  node := noDecoder
  flags := DescriptorFlags.hwImpCamUsage
  gralloc4 := fun _ _ => []
  layout := .lp64
  importEnv := onesEnv
  kernel := willing
  pid := 0

/-- **A square without layers** is refused, and then supported. -/
theorem not_answered_layerless :
    (GrallocMapper.isSupported .gpuOnly noDecoder DescriptorFlags.hwImpCamUsage
        { squareInfo 1#32 with layerCount := 0#32 }).answers =
        [⟨.badValue, false⟩, ⟨.none, true⟩] ∧
      ¬(Request.isSupported { squareInfo 1#32 with layerCount := 0#32 }).Answered .gpuOnly := by
  have hanswers : (GrallocMapper.isSupported .gpuOnly noDecoder DescriptorFlags.hwImpCamUsage
      { squareInfo 1#32 with layerCount := 0#32 }).answers =
        [⟨.badValue, false⟩, ⟨.none, true⟩] := by
    decide +kernel
  refine ⟨hanswers, ?_⟩
  rintro ⟨⟨-, hlen⟩, -⟩
  have htwo := congrArg List.length hanswers
  cases htwo.symm.trans hlen

end Hidl

end Gralloc
