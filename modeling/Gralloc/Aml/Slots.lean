import Gralloc.Idl.Slot
import Gralloc.Transition.Trace

/-!
# The slots of the library

A decoder takes a slot from the vendor's library, stores the parameters of its stream in it,
and asks for buffers with the number of the slot in their usage; when it is done, it frees the
slot. The library keeps which of the 32 slots are taken. The parameters are kept by a driver,
where the allocator, in another process, looks them up when it sizes a buffer.

What this is for is said by the *sessions* (`Gralloc.Aml.Sessions`): a table of the decoders
that have a slot, with the parameters that each has stored. A new session has no parameters,
and a session is only changed by calls with its own slot (`Gralloc.Aml.Sessions.Spec`).

The driver may refuse any call, and the library passes over some of its refusals. It is also
where the two can come apart: what a decoder left behind stays in the driver when the slot is
freed and the reset is refused. No later session sees it, since taking a slot needs a reset
that is not refused. So the library refines the sessions over every run
(`Gralloc.Aml.sessionsRefined`), whatever the driver does, and a request with the number of a
slot is sized with the parameters of its session.
-/

namespace Gralloc

namespace Aml

open Transition

/-! ### The driver -/

/-- What the driver is told about a slot. -/
structure UvmDecoderPara extends DecoderPara where
  slotId : BitVec 32
  deriving DecidableEq, Repr

def UvmDecoderPara.ofSlot (slotId : BitVec 32) : UvmDecoderPara := ⟨.zero, slotId⟩

/-- **The driver**, with states of any kind. Each of its calls may fail. -/
structure UvmDriver (κ : Type) where
  /-- A descriptor of the device. -/
  openUvm : κ → Option ℕ × κ
  setDecoderPara : κ → UvmDecoderPara → Bool × κ
  getDecoderPara : κ → BitVec 32 → Option DecoderPara

namespace UvmDriver

variable {κ : Type}

/-- What is set for a slot can be got, and nothing else changes. -/
structure Documented (drv : UvmDriver κ) : Prop where
  get_open : ∀ k, drv.getDecoderPara (drv.openUvm k).2 = drv.getDecoderPara k
  get_set : ∀ k p, (drv.setDecoderPara k p).1 = true →
    drv.getDecoderPara (drv.setDecoderPara k p).2 =
      Function.update (drv.getDecoderPara k) p.slotId (some p.toDecoderPara)
  get_refused : ∀ k p, (drv.setDecoderPara k p).1 = false →
    drv.getDecoderPara (drv.setDecoderPara k p).2 = drv.getDecoderPara k

/-- No call fails. -/
def Accepts (drv : UvmDriver κ) : Prop :=
  ∀ k, (drv.openUvm k).1.isSome = true ∧ ∀ p, (drv.setDecoderPara k p).1 = true

end UvmDriver

/-! ### The library -/

def amlGrallocSlotNum : ℕ := 32

/-- The parameters that a decoder can store, and what else may be in their place. -/
inductive AmGrallocDecodeParaType where
  | width
  | height
  | wAlign
  | hAlign
  | size
  | compress
  | other (n : ℕ)
  deriving DecidableEq, Repr

/-- The entries of a map, in its order. -/
abbrev AmGrallocDecodePara : Type := List (AmGrallocDecodeParaType × BitVec 64)

/-- **The library**, with the driver behind it. -/
structure SlotLibrary (κ : Type) where
  /-- The slots that are taken. -/
  status : ℕ → Bool
  /-- The device, once it is open. -/
  uvmDev : Option ℕ
  driver : κ

/-- Nothing is taken, and the device is not open. -/
def SlotLibrary.start {κ : Type} (k : κ) : SlotLibrary κ := ⟨fun _ => false, none, k⟩

section

variable {κ : Type} (drv : UvmDriver κ) (s : SlotLibrary κ)

/-- The device is opened once, and again after a failure. -/
def getUvm : Option ℕ × SlotLibrary κ :=
  match s.uvmDev with
  | some fd => (some fd, s)
  | none =>
    let r := drv.openUvm s.driver
    (r.1, { s with uvmDev := r.1, driver := r.2 })

/-- Setting the parameters of a slot, and whether it went well. -/
def amGrallocSetUvmDecoderPara (para : UvmDecoderPara) : Bool × SlotLibrary κ :=
  match getUvm drv s with
  | (none, s) => (false, s)
  | (some _, s) =>
    let r := drv.setDecoderPara s.driver para
    (r.1, { s with driver := r.2 })

/-- The first of some slots that is not taken, unless the driver refuses it. -/
def getSlotIdLoop : List ℕ → BitVec 32 × SlotLibrary κ
  | [] => (~~~0#32, s)
  | i :: is =>
    if s.status i then getSlotIdLoop is
    else
      match amGrallocSetUvmDecoderPara drv s (.ofSlot (BitVec.ofNat 32 i)) with
      | (false, s) => (~~~0#32, s)
      | (true, s) => (BitVec.ofNat 32 i, { s with status := Function.update s.status i true })

/-- **Taking a slot.** -/
def amGrallocGetSlotId : BitVec 32 × SlotLibrary κ :=
  getSlotIdLoop drv s (List.range amlGrallocSlotNum)

/-- A slot that is not one, or that nobody has taken. -/
def isInvalidSlot (slotId : BitVec 32) : Bool :=
  decide (amlGrallocSlotNum ≤ slotId.toNat) || !s.status slotId.toNat

/-- One entry of a map; its value is cut to 32 bits. -/
def storePara (p : UvmDecoderPara) : AmGrallocDecodeParaType × BitVec 64 → UvmDecoderPara
  | (.width, v) => { p with width := v.setWidth 32 }
  | (.height, v) => { p with height := v.setWidth 32 }
  | (.wAlign, v) => { p with wAlign := v.setWidth 32 }
  | (.hAlign, v) => { p with hAlign := v.setWidth 32 }
  | (.size, v) => { p with size := v.setWidth 32 }
  | (.compress, v) => { p with compress := v.setWidth 32 }
  | (.other _, _) => p

/-- **Storing parameters.** -/
def amGrallocSetParameters (slotId : BitVec 32) (paraMap : AmGrallocDecodePara) :
    SlotLibrary κ :=
  if isInvalidSlot s slotId then s
  else
    let para := paraMap.foldl storePara (.ofSlot slotId)
    if para.size = 0#32 ∧
        (para.width = 0#32 ∨ para.height = 0#32 ∨ para.wAlign = 0#32 ∨ para.hAlign = 0#32) then s
    else (amGrallocSetUvmDecoderPara drv s para).2

/-- **Freeing a slot**, taken or not. -/
def amGrallocFreeSlot (slotId : BitVec 32) : SlotLibrary κ :=
  if amlGrallocSlotNum ≤ slotId.toNat then s
  else
    let s := { s with status := Function.update s.status slotId.toNat false }
    (amGrallocSetUvmDecoderPara drv s (.ofSlot slotId)).2

/-- **The usage** for a slot. -/
def amGrallocComposeSlotId (slotId : BitVec 32) : Usage :=
  if isInvalidSlot s slotId then 0#64 else Usage.compSlotId slotId.toNat

end

/-- The node that an allocation reads, with the device that its own process has opened. -/
def UvmDriver.node {κ : Type} (drv : UvmDriver κ) (uvmDev : Option ℕ) (k : κ) (slotId : ℕ) :
    Option DecoderPara :=
  uvmDev.bind fun _ => drv.getDecoderPara k (BitVec.ofNat 32 slotId)

/-! ### Calls -/

inductive SlotCall where
  | getSlotId
  | setParameters (slotId : BitVec 32) (paraMap : AmGrallocDecodePara)
  | freeSlot (slotId : BitVec 32)
  | composeSlotId (slotId : BitVec 32)
  deriving DecidableEq, Repr

inductive SlotAnswer where
  | slotId (n : BitVec 32)
  | usage (u : Usage)
  | void
  deriving DecidableEq, Repr

/-- **One call** of the library. -/
def slotStep {κ : Type} (drv : UvmDriver κ) (s : SlotLibrary κ) : SlotCall →
    SlotAnswer × SlotLibrary κ
  | .getSlotId => ((amGrallocGetSlotId drv s).map .slotId id)
  | .setParameters slotId paraMap => (.void, amGrallocSetParameters drv s slotId paraMap)
  | .freeSlot slotId => (.void, amGrallocFreeSlot drv s slotId)
  | .composeSlotId slotId => (.usage (amGrallocComposeSlotId s slotId), s)

/-! ### Sessions -/

/-- **The sessions**: for each slot that is taken, the parameters that were stored in it. -/
abbrev Sessions : Type := ℕ → Option DecoderPara

/-- What a map says of a parameter: its last entry, in 32 bits, or zero. -/
def valueOf (paraMap : AmGrallocDecodePara) (t : AmGrallocDecodeParaType) : BitVec 32 :=
  ((paraMap.reverse.lookup t).getD 0#64).setWidth 32

/-- The parameters that a map stands for. -/
def parametersOf (paraMap : AmGrallocDecodePara) : DecoderPara where
  width := valueOf paraMap .width
  height := valueOf paraMap .height
  wAlign := valueOf paraMap .wAlign
  hAlign := valueOf paraMap .hAlign
  size := valueOf paraMap .size
  compress := valueOf paraMap .compress

namespace Sessions

/-- No slot is taken. -/
def start : Sessions := fun _ => none

/-- A slot that a new session can have. -/
def Free (t : Sessions) (k : ℕ) : Prop := k < amlGrallocSlotNum ∧ t k = none

/-- **What the slots are for.** Only a driver that may refuse is a reason for a call not to have
its effect. -/
inductive Spec (mayRefuse : Prop) : Sessions → SlotCall → SlotAnswer → Sessions → Prop
  | opened {t k} (h : IsLeast {k | t.Free k} k) :
    Spec mayRefuse t .getSlotId (.slotId (BitVec.ofNat 32 k)) (Function.update t k (some .zero))
  | notOpened {t} (h : mayRefuse ∨ ∀ k, ¬t.Free k) :
    Spec mayRefuse t .getSlotId (.slotId (~~~0#32)) t
  | stored {t slotId m} (h : t slotId.toNat ≠ none) (hm : (parametersOf m).paraType ≠ .none) :
    Spec mayRefuse t (.setParameters slotId m) .void
      (Function.update t slotId.toNat (some (parametersOf m)))
  | notStored {t slotId m}
    (h : mayRefuse ∨ t slotId.toNat = none ∨ (parametersOf m).paraType = .none) :
    Spec mayRefuse t (.setParameters slotId m) .void t
  | freed {t slotId} :
    Spec mayRefuse t (.freeSlot slotId) .void (Function.update t slotId.toNat none)
  | composed {t slotId} (h : t slotId.toNat ≠ none) :
    Spec mayRefuse t (.composeSlotId slotId) (.usage (Usage.compSlotId slotId.toNat)) t
  | notComposed {t slotId} (h : t slotId.toNat = none) :
    Spec mayRefuse t (.composeSlotId slotId) (.usage 0#64) t

end Sessions

/-! ### What a map stores -/

/-- **The entries of a map**, one after the other. -/
theorem foldl_storePara (slotId : BitVec 32) (m : AmGrallocDecodePara) :
    m.foldl storePara (.ofSlot slotId) = ⟨parametersOf m, slotId⟩ := by
  induction m using List.reverseRecOn with
  | nil => rfl
  | append_singleton m e ih =>
    rw [List.foldl_concat, ih]
    obtain ⟨t, v⟩ := e
    have hother (u : AmGrallocDecodeParaType) (h : u ≠ t) :
        valueOf (m ++ [(t, v)]) u = valueOf m u := by
      have hne : (u == t) = false := beq_false_of_ne h
      simp only [valueOf, List.reverse_concat, List.lookup_cons, hne]
    have hself : valueOf (m ++ [(t, v)]) t = v.setWidth 32 := by
      simp only [valueOf, List.reverse_concat, List.lookup_cons, beq_self_eq_true,
        Option.getD_some]
    cases t <;> simp [storePara, parametersOf, hother, hself]

/-- The parameters that the library stores are those that an allocation uses. -/
theorem paraType_eq_none_iff (p : DecoderPara) :
    p.paraType = .none ↔ p.size = 0#32 ∧
      (p.width = 0#32 ∨ p.height = 0#32 ∨ p.wAlign = 0#32 ∨ p.hAlign = 0#32) := by
  have hwh : p.validWh = false ↔
      p.width = 0#32 ∨ p.height = 0#32 ∨ p.wAlign = 0#32 ∨ p.hAlign = 0#32 := by
    simp only [DecoderPara.validWh, Bool.and_eq_false_iff, bne_eq_false_iff_eq, or_assoc]
  rw [← hwh, DecoderPara.paraType]
  by_cases hs : p.size = 0#32 <;> cases p.validWh <;> simp [hs]

/-! ### The library and the sessions -/

section

variable {κ : Type} {drv : UvmDriver κ} {s : SlotLibrary κ} {t : Sessions}

/-- **What the library knows of the sessions**: which slots are taken; and the driver, their
parameters. Of a slot that is free it may have any. -/
structure Represents (drv : UvmDriver κ) (s : SlotLibrary κ) (t : Sessions) : Prop where
  status : ∀ k < amlGrallocSlotNum, s.status k = (t k).isSome
  bounded : ∀ k, amlGrallocSlotNum ≤ k → t k = none
  node : ∀ k p, t k = some p → drv.getDecoderPara s.driver (BitVec.ofNat 32 k) = some p

/-- **Everything that setting the parameters of a slot can do.** -/
theorem amGrallocSetUvmDecoderPara_cases (hd : drv.Documented) (s : SlotLibrary κ)
    (para : UvmDecoderPara) :
    ∃ uvmDev driver,
      (amGrallocSetUvmDecoderPara drv s para = (true, { s with uvmDev, driver }) ∧
        drv.getDecoderPara driver = Function.update (drv.getDecoderPara s.driver) para.slotId
          (some para.toDecoderPara)) ∨
      (amGrallocSetUvmDecoderPara drv s para = (false, { s with uvmDev, driver }) ∧
        drv.getDecoderPara driver = drv.getDecoderPara s.driver ∧ ¬drv.Accepts) := by
  have hget : ∃ driver, drv.getDecoderPara driver = drv.getDecoderPara s.driver ∧
      ((∃ fd, getUvm drv s = (some fd, { s with uvmDev := some fd, driver })) ∨
        getUvm drv s = (none, { s with uvmDev := none, driver }) ∧ ¬drv.Accepts) := by
    obtain ⟨status, _ | fd, k⟩ := s
    · refine ⟨(drv.openUvm k).2, hd.get_open k, ?_⟩
      unfold getUvm
      cases hopen : (drv.openUvm k).1 with
      | some fd => exact Or.inl ⟨fd, by simp only [hopen]⟩
      | none =>
        refine Or.inr ⟨by simp only [hopen], fun ha => ?_⟩
        have hsome := (ha k).1
        rw [hopen] at hsome
        cases hsome
    · exact ⟨k, rfl, Or.inl ⟨fd, rfl⟩⟩
  obtain ⟨k, hk, ⟨fd, hfd⟩ | ⟨hnone, hn⟩⟩ := hget
  · refine ⟨some fd, (drv.setDecoderPara k para).2, ?_⟩
    have heq : amGrallocSetUvmDecoderPara drv s para = ((drv.setDecoderPara k para).1,
        { s with uvmDev := some fd, driver := (drv.setDecoderPara k para).2 }) := by
      rw [amGrallocSetUvmDecoderPara, hfd]
    cases hok : (drv.setDecoderPara k para).1 with
    | true => exact Or.inl ⟨by rw [heq, hok], by rw [hd.get_set k para hok, hk]⟩
    | false =>
      refine Or.inr ⟨by rw [heq, hok], by rw [hd.get_refused k para hok, hk], fun ha => ?_⟩
      rw [(ha k).2 para] at hok
      cases hok
  · exact ⟨none, k, Or.inr ⟨by rw [amGrallocSetUvmDecoderPara, hnone], hk, hn⟩⟩

/-- **The loop** stops at the first slot that is not taken. -/
theorem getSlotIdLoop_eq (drv : UvmDriver κ) (s : SlotLibrary κ) (is : List ℕ) :
    getSlotIdLoop drv s is =
      match is.find? fun i => !s.status i with
      | none => (~~~0#32, s)
      | some i =>
        match amGrallocSetUvmDecoderPara drv s (.ofSlot (BitVec.ofNat 32 i)) with
        | (false, s) => (~~~0#32, s)
        | (true, s) =>
          (BitVec.ofNat 32 i, { s with status := Function.update s.status i true }) := by
  induction is with
  | nil => rfl
  | cons i is ih =>
    cases hi : s.status i with
    | true => rw [getSlotIdLoop, if_pos hi, ih, List.find?_cons_of_neg (by simp [hi])]
    | false =>
      rw [getSlotIdLoop, if_neg (by simp [hi]), List.find?_cons_of_pos (by simp [hi])]

/-- A slot is invalid if it has no session. -/
theorem Represents.isInvalidSlot_eq (h : Represents drv s t) (slotId : BitVec 32) :
    isInvalidSlot s slotId = (t slotId.toNat).isNone := by
  by_cases hlt : slotId.toNat < amlGrallocSlotNum
  · rw [isInvalidSlot, decide_eq_false (by omega), Bool.false_or, h.status _ hlt,
      Option.not_isSome]
  · rw [isInvalidSlot, decide_eq_true (by omega), Bool.true_or, h.bounded _ (by omega),
      Option.isNone_none]

/-- Nothing but the device has changed. -/
theorem Represents.of_get_eq (h : Represents drv s t) {uvmDev : Option ℕ} {driver : κ}
    (hget : drv.getDecoderPara driver = drv.getDecoderPara s.driver) :
    Represents drv { s with uvmDev, driver } t :=
  ⟨h.status, h.bounded, fun k p hk => (congrFun hget _).trans (h.node k p hk)⟩

/-- Two slots have two numbers. -/
theorem ofNat_ne {j k : ℕ} (hj : j < amlGrallocSlotNum) (hk : k < amlGrallocSlotNum)
    (hne : j ≠ k) : BitVec.ofNat 32 j ≠ BitVec.ofNat 32 k := by
  unfold amlGrallocSlotNum at hj hk
  intro heq
  have hnat := congrArg BitVec.toNat heq
  rw [BitVec.toNat_ofNat, BitVec.toNat_ofNat, Nat.mod_eq_of_lt (by omega),
    Nat.mod_eq_of_lt (by omega)] at hnat
  exact hne hnat

/-- Only slots have sessions. -/
theorem Represents.lt (h : Represents drv s t) {k : ℕ} (hk : t k ≠ none) :
    k < amlGrallocSlotNum := by
  by_contra hge
  exact hk (h.bounded k (by omega))

/-- **The parameters of one slot** are changed, in the driver and in the table. -/
theorem Represents.update (h : Represents drv s t) {k : ℕ} (hk : k < amlGrallocSlotNum)
    (uvmDev : Option ℕ) {driver : κ} {p : DecoderPara}
    (hget : drv.getDecoderPara driver =
      Function.update (drv.getDecoderPara s.driver) (BitVec.ofNat 32 k) (some p)) :
    Represents drv { s with status := Function.update s.status k true, uvmDev, driver }
      (Function.update t k (some p)) := by
  refine ⟨fun j hj => ?_, fun j hj => ?_, fun j q hq => ?_⟩
  · show Function.update s.status k true j = _
    rcases eq_or_ne j k with rfl | hne
    · rw [Function.update_self, Function.update_self, Option.isSome_some]
    · rw [Function.update_of_ne hne, Function.update_of_ne hne, h.status j hj]
  · rw [Function.update_of_ne (by omega), h.bounded j hj]
  · rw [hget]
    rcases eq_or_ne j k with rfl | hne
    · rw [Function.update_self] at hq ⊢
      exact hq
    · rw [Function.update_of_ne hne] at hq
      have hj := h.lt (Option.ne_none_iff_exists'.mpr ⟨q, hq⟩)
      rw [Function.update_of_ne (ofNat_ne hj hk hne), h.node j q hq]

/-- **The end of a session**: what the driver has for its slot is not looked at again. -/
theorem Represents.erase (h : Represents drv s t) {k : ℕ} {uvmDev : Option ℕ} {driver : κ}
    (hget : ∀ j < amlGrallocSlotNum, j ≠ k →
      drv.getDecoderPara driver (BitVec.ofNat 32 j) =
        drv.getDecoderPara s.driver (BitVec.ofNat 32 j)) :
    Represents drv { s with status := Function.update s.status k false, uvmDev, driver }
      (Function.update t k none) := by
  refine ⟨fun j hj => ?_, fun j hj => ?_, fun j q hq => ?_⟩
  · show Function.update s.status k false j = _
    rcases eq_or_ne j k with rfl | hne
    · rw [Function.update_self, Function.update_self, Option.isSome_none]
    · rw [Function.update_of_ne hne, Function.update_of_ne hne, h.status j hj]
  · rcases eq_or_ne j k with rfl | hne
    · rw [Function.update_self]
    · rw [Function.update_of_ne hne, h.bounded j hj]
  · rcases eq_or_ne j k with rfl | hne
    · rw [Function.update_self] at hq
      cases hq
    · rw [Function.update_of_ne hne] at hq
      have hj := h.lt (Option.ne_none_iff_exists'.mpr ⟨q, hq⟩)
      exact (hget j hj hne).trans (h.node j q hq)

/-! ### One call -/

variable (hd : drv.Documented) (h : Represents drv s t)

include hd h

/-- **Taking a slot** opens a session in the first one that is free. -/
theorem spec_getSlotId :
    ∃ t', Sessions.Spec (¬drv.Accepts) t .getSlotId (.slotId (amGrallocGetSlotId drv s).1) t' ∧
      Represents drv (amGrallocGetSlotId drv s).2 t' := by
  have hfree (k : ℕ) (hk : k < amlGrallocSlotNum) : (!s.status k) = true ↔ t k = none := by
    rw [h.status k hk, Bool.not_eq_true', Option.isSome_eq_false_iff, Option.isNone_iff_eq_none]
  rw [amGrallocGetSlotId, getSlotIdLoop_eq]
  cases hfind : (List.range amlGrallocSlotNum).find? fun i => !s.status i with
  | none =>
    refine ⟨t, .notOpened (Or.inr fun k hk => ?_), h⟩
    have hnone := List.find?_eq_none.mp hfind k (List.mem_range.mpr hk.1)
    exact hnone ((hfree k hk.1).mpr hk.2)
  | some k =>
    obtain ⟨hk, hmem, hfirst⟩ := List.find?_range_eq_some.mp hfind
    have hlt := List.mem_range.mp hmem
    have hleast : IsLeast {k | t.Free k} k := by
      refine ⟨⟨hlt, (hfree k hlt).mp hk⟩, fun j hj => ?_⟩
      by_contra hjk
      have hj' := hfirst j (by omega)
      rw [(hfree j hj.1).mpr hj.2] at hj'
      cases hj'
    obtain ⟨dev, driver, ⟨hset, hget⟩ | ⟨hset, hget, hn⟩⟩ :=
      amGrallocSetUvmDecoderPara_cases hd s (.ofSlot (BitVec.ofNat 32 k))
    · simp only [hset]
      exact ⟨_, .opened hleast, h.update hlt _ hget⟩
    · simp only [hset]
      exact ⟨t, .notOpened (Or.inl hn), h.of_get_eq hget⟩

/-- **Storing parameters** changes the session of the slot, if it has one. -/
theorem spec_setParameters (slotId : BitVec 32) (m : AmGrallocDecodePara) :
    ∃ t', Sessions.Spec (¬drv.Accepts) t (.setParameters slotId m) .void t' ∧
      Represents drv (amGrallocSetParameters drv s slotId m) t' := by
  unfold amGrallocSetParameters
  rw [h.isInvalidSlot_eq, foldl_storePara]
  cases hslot : t slotId.toNat with
  | none => exact ⟨t, .notStored (Or.inr (Or.inl hslot)), h⟩
  | some p =>
    have hne : t slotId.toNat ≠ none := Option.ne_none_iff_exists'.mpr ⟨p, hslot⟩
    have hlt := h.lt hne
    rw [Option.isNone_some, if_neg Bool.false_ne_true]
    by_cases hm : (parametersOf m).paraType = .none
    · rw [if_pos ((paraType_eq_none_iff _).mp hm)]
      exact ⟨t, .notStored (Or.inr (Or.inr hm)), h⟩
    · rw [if_neg fun hzero => hm ((paraType_eq_none_iff _).mpr hzero)]
      obtain ⟨dev, driver, ⟨hset, hget⟩ | ⟨hset, hget, hn⟩⟩ :=
        amGrallocSetUvmDecoderPara_cases hd s ⟨parametersOf m, slotId⟩
      · refine ⟨_, .stored hne hm, ?_⟩
        have htaken : Function.update s.status slotId.toNat true = s.status := by
          rw [Function.update_eq_self_iff, h.status _ hlt, hslot, Option.isSome_some]
        have hup := h.update hlt dev (p := parametersOf m)
          (show drv.getDecoderPara driver = _ by
            rw [hget, BitVec.ofNat_toNat, BitVec.setWidth_eq])
        rw [htaken] at hup
        rw [hset]
        exact hup
      · rw [hset]
        exact ⟨t, .notStored (Or.inl hn), h.of_get_eq hget⟩

/-- **Freeing a slot** ends its session, whether or not the driver forgets its parameters. -/
theorem spec_freeSlot (slotId : BitVec 32) :
    ∃ t', Sessions.Spec (¬drv.Accepts) t (.freeSlot slotId) .void t' ∧
      Represents drv (amGrallocFreeSlot drv s slotId) t' := by
  refine ⟨_, .freed, ?_⟩
  unfold amGrallocFreeSlot
  split_ifs with hge
  · have hnone : Function.update t slotId.toNat none = t := by
      rw [Function.update_eq_self_iff, h.bounded _ hge]
    rw [hnone]
    exact h
  · have hlt : slotId.toNat < amlGrallocSlotNum := by omega
    obtain ⟨dev, driver, ⟨hset, hget⟩ | ⟨hset, hget, -⟩⟩ :=
      amGrallocSetUvmDecoderPara_cases hd
        { s with status := Function.update s.status slotId.toNat false } (.ofSlot slotId)
    · dsimp only
      rw [hset]
      refine h.erase fun j hj hne => ?_
      rw [hget, Function.update_of_ne]
      have hid := ofNat_ne hj hlt hne
      rwa [BitVec.ofNat_toNat, BitVec.setWidth_eq] at hid
    · dsimp only
      rw [hset]
      exact h.erase fun j _ _ => congrFun hget _

/-- **Every call** is one of the sessions. -/
theorem spec_slotStep (c : SlotCall) :
    ∃ t', Sessions.Spec (¬drv.Accepts) t c (slotStep drv s c).1 t' ∧
      Represents drv (slotStep drv s c).2 t' := by
  cases c with
  | getSlotId => exact spec_getSlotId hd h
  | setParameters slotId m => exact spec_setParameters hd h slotId m
  | freeSlot slotId => exact spec_freeSlot hd h slotId
  | composeSlotId slotId =>
    refine ⟨t, ?_, h⟩
    show Sessions.Spec _ t _ (.usage (amGrallocComposeSlotId s slotId)) t
    rw [amGrallocComposeSlotId, h.isInvalidSlot_eq]
    cases hslot : t slotId.toNat with
    | none => exact .notComposed hslot
    | some p => exact .composed (Option.ne_none_iff_exists'.mpr ⟨p, hslot⟩)

end

/-! ### Runs -/

section

variable {κ : Type} {drv : UvmDriver κ} {mayRefuse : Prop} {t t' : Sessions}

theorem represents_start (drv : UvmDriver κ) (k : κ) :
    Represents drv (SlotLibrary.start k) Sessions.start :=
  ⟨fun _ _ => rfl, fun _ _ => rfl, fun _ _ hp => absurd hp (Option.some_ne_none _).symm⟩

/-- **What is stored can be used**: a session has parameters that an allocation looks at, or it
is new and has none. -/
theorem Sessions.Spec.usable {c : SlotCall} {a : SlotAnswer}
    (ht : ∀ k p, t k = some p → p = .zero ∨ p.paraType ≠ .none)
    (h : Sessions.Spec mayRefuse t c a t') (k : ℕ) (p : DecoderPara) (hp : t' k = some p) :
    p = .zero ∨ p.paraType ≠ .none := by
  cases h with
  | @opened i =>
    rcases eq_or_ne k i with rfl | hne
    · rw [Function.update_self] at hp
      exact Or.inl (Option.some.inj hp).symm
    · rw [Function.update_of_ne hne] at hp
      exact ht k p hp
  | @stored slotId m _ hm =>
    rcases eq_or_ne k slotId.toNat with rfl | hne
    · rw [Function.update_self] at hp
      exact Or.inr (Option.some.inj hp ▸ hm)
    · rw [Function.update_of_ne hne] at hp
      exact ht k p hp
  | @freed slotId =>
    rcases eq_or_ne k slotId.toNat with rfl | hne
    · rw [Function.update_self] at hp
      cases hp
    · rw [Function.update_of_ne hne] at hp
      exact ht k p hp
  | notOpened | notStored | composed | notComposed => exact ht k p hp

/-- The driver has no say in which slots are taken. -/
theorem status_amGrallocSetUvmDecoderPara (drv : UvmDriver κ) (s : SlotLibrary κ)
    (para : UvmDecoderPara) : (amGrallocSetUvmDecoderPara drv s para).2.status = s.status := by
  obtain ⟨status, _ | fd, k⟩ := s
  · unfold amGrallocSetUvmDecoderPara getUvm
    dsimp only
    cases (drv.openUvm k).1 <;> rfl
  · rfl

/-- **A slot that is handed out** was free, and is taken. -/
theorem status_of_slotId {s : SlotLibrary κ} {n : BitVec 32} (hn : n ≠ ~~~0#32)
    (h : (amGrallocGetSlotId drv s).1 = n) :
    s.status n.toNat = false ∧ (amGrallocGetSlotId drv s).2.status n.toNat = true := by
  rw [amGrallocGetSlotId, getSlotIdLoop_eq] at h ⊢
  cases hfind : (List.range amlGrallocSlotNum).find? fun i => !s.status i with
  | none =>
    rw [hfind] at h
    exact absurd h.symm hn
  | some k =>
    obtain ⟨hk, hmem, -⟩ := List.find?_range_eq_some.mp hfind
    have hlt := List.mem_range.mp hmem
    unfold amlGrallocSlotNum at hlt
    rw [hfind] at h
    dsimp only at h ⊢
    rcases hset : amGrallocSetUvmDecoderPara drv s (.ofSlot (BitVec.ofNat 32 k)) with ⟨_ | _, s'⟩
    · rw [hset] at h
      exact absurd h.symm hn
    · rw [hset] at h
      have hnat : n.toNat = k := by
        rw [← h, BitVec.toNat_ofNat, Nat.mod_eq_of_lt (by omega)]
      rw [hnat]
      exact ⟨by simpa using hk, Function.update_self ..⟩

/-- A slot that is taken stays so when another one is handed out. -/
theorem status_amGrallocGetSlotId {s : SlotLibrary κ} {i : ℕ} (h : s.status i = true) :
    (amGrallocGetSlotId drv s).2.status i = true := by
  rw [amGrallocGetSlotId, getSlotIdLoop_eq]
  cases (List.range amlGrallocSlotNum).find? fun i => !s.status i with
  | none => exact h
  | some k =>
    have hstatus := status_amGrallocSetUvmDecoderPara drv s (.ofSlot (BitVec.ofNat 32 k))
    dsimp only
    rcases hset : amGrallocSetUvmDecoderPara drv s (.ofSlot (BitVec.ofNat 32 k)) with ⟨_ | _, s'⟩
    · rw [hset] at hstatus
      exact (congrFun hstatus i).trans h
    · rw [hset] at hstatus
      show Function.update s'.status k true i = true
      rcases eq_or_ne i k with heq | hne
      · rw [heq, Function.update_self]
      · rw [Function.update_of_ne hne]
        exact (congrFun hstatus i).trans h

theorem status_amGrallocSetParameters (drv : UvmDriver κ) (s : SlotLibrary κ)
    (slotId : BitVec 32) (paraMap : AmGrallocDecodePara) :
    (amGrallocSetParameters drv s slotId paraMap).status = s.status := by
  unfold amGrallocSetParameters
  dsimp only
  split_ifs
  · rfl
  · rfl
  · rw [status_amGrallocSetUvmDecoderPara]

/-- A slot that is taken stays so when another one is freed. -/
theorem status_amGrallocFreeSlot {s : SlotLibrary κ} {slotId : BitVec 32} {i : ℕ}
    (h : s.status i = true) (hne : i ≠ slotId.toNat) :
    (amGrallocFreeSlot drv s slotId).status i = true := by
  unfold amGrallocFreeSlot
  split_ifs
  · exact h
  · dsimp only
    rw [status_amGrallocSetUvmDecoderPara]
    exact (Function.update_of_ne hne _ _).trans h

/-- **A slot is lost** only when it is freed. -/
theorem freed_of_lost {s : SlotLibrary κ} {c : SlotCall} {n : BitVec 32}
    (h : s.status n.toNat = true) (h' : ¬(slotStep drv s c).2.status n.toNat = true) :
    c = .freeSlot n := by
  cases c with
  | getSlotId => exact absurd (status_amGrallocGetSlotId h) h'
  | setParameters slotId paraMap =>
    exact absurd ((congrFun (status_amGrallocSetParameters drv s slotId paraMap) _).trans h) h'
  | freeSlot slotId =>
    by_contra hother
    refine h' (status_amGrallocFreeSlot h fun heq => hother ?_)
    rw [BitVec.eq_of_toNat_eq heq]
  | composeSlotId slotId => exact absurd h h'

/-- The reply to a request with the usage of a slot is its session. -/
theorem decoderReply_of_represents {s : SlotLibrary κ} (h : Represents drv s t)
    (uvmDev : Option ℕ) (d : BufferDescriptor) {u : Usage} (hu : u.has Usage.slotBits = false)
    (hu' : u.has Usage.usingSlot = false) (slotId : BitVec 32) :
    decoderReply (drv.node uvmDev s.driver)
        (d.withUsage (u ||| amGrallocComposeSlotId s slotId)) =
      uvmDev.bind fun _ => t slotId.toNat := by
  rw [amGrallocComposeSlotId, h.isInvalidSlot_eq]
  cases hslot : t slotId.toNat with
  | none =>
    rw [Option.isNone_none, if_pos rfl, BitVec.or_zero, decoderReply,
      BufferDescriptor.usage_withUsage, hu', if_neg Bool.false_ne_true]
    cases uvmDev <;> rfl
  | some p =>
    have hne : t slotId.toNat ≠ none := Option.ne_none_iff_exists'.mpr ⟨p, hslot⟩
    rw [Option.isNone_some, if_neg Bool.false_ne_true, decoderReply_compSlotId _ d hu (h.lt hne),
      UvmDriver.node, h.node _ p hslot]

/-- The traces of the library are those of sessions. -/
theorem admits_trace_slotStep (hd : drv.Documented) (k : κ) (calls : List SlotCall) :
    ∃ t, Admits (Sessions.Spec (¬drv.Accepts)) .start
        (trace (slotStep drv) (.start k) calls) t ∧
      Represents drv (final (slotStep drv) (.start k) calls) t :=
  admits_trace (R := Represents drv) (fun _ _ c h => spec_slotStep hd h c)
    (represents_start drv k) calls

/-- **The sessions after a run** of the library: its calls are theirs, with the same answers,
and the reply to a request with the usage of a slot is what the session of the slot has
stored, if there is one. Parameters are of use as soon as some are stored. -/
structure SessionsAfter (drv : UvmDriver κ) (k : κ) (calls : List SlotCall) (t : Sessions) :
    Prop where
  admits : Admits (Sessions.Spec (¬drv.Accepts)) .start (trace (slotStep drv) (.start k) calls) t
  usable : ∀ n p, t n = some p → p = .zero ∨ p.paraType ≠ .none
  reply : ∀ (uvmDev : Option ℕ) (d : BufferDescriptor) (u : Usage) (slotId : BitVec 32),
    u.has Usage.slotBits = false → u.has Usage.usingSlot = false →
    decoderReply (drv.node uvmDev (final (slotStep drv) (.start k) calls).driver)
        (d.withUsage
          (u ||| amGrallocComposeSlotId (final (slotStep drv) (.start k) calls) slotId)) =
      uvmDev.bind fun _ => t slotId.toNat

/-- **The library refines the sessions** over every run, whatever the driver refuses. -/
theorem sessionsRefined (hd : drv.Documented) (k : κ) (calls : List SlotCall) :
    ∃ t, SessionsAfter drv k calls t := by
  obtain ⟨t, hadmits, ht⟩ := admits_trace_slotStep hd k calls
  refine ⟨t, hadmits, ?_, fun uvmDev d u slotId hu hu' =>
    decoderReply_of_represents ht uvmDev d hu hu' slotId⟩
  exact hadmits.invariant (P := fun t => ∀ n p, t n = some p → p = .zero ∨ p.paraType ≠ .none)
    (fun _ _ _ _ ht hspec => hspec.usable ht) fun _ _ hp => absurd hp (Option.some_ne_none _).symm

/-- **No slot is taken twice** without being freed in between, whatever the driver does. -/
theorem freed_between (drv : UvmDriver κ) (k : κ) (calls : List SlotCall) {n : BitVec 32}
    {before between behind : List (SlotCall × SlotAnswer)} (hn : n ≠ ~~~0#32)
    (htrace : trace (slotStep drv) (.start k) calls =
      before ++ (.getSlotId, .slotId n) :: (between ++ (.getSlotId, .slotId n) :: behind)) :
    ∃ a, (.freeSlot n, a) ∈ between := by
  -- the library is its own specification
  have hself : ∃ t, Admits (fun s c a s' => slotStep drv s c = (a, s')) (.start k)
      (trace (slotStep drv) (.start k) calls) t ∧ final (slotStep drv) (.start k) calls = t :=
    admits_trace (fun s _ c h => ⟨(slotStep drv s c).2, h ▸ rfl, rfl⟩) rfl calls
  obtain ⟨t, hadmits, -⟩ := hself
  rw [htrace] at hadmits
  obtain ⟨_, -, hadmits⟩ := admits_append.mp hadmits
  cases hadmits with
  | cons hfirst hadmits =>
    obtain ⟨_, hbetween, hadmits⟩ := admits_append.mp hadmits
    cases hadmits with
    | cons hsecond _ =>
      have htaken := (status_of_slotId hn (SlotAnswer.slotId.inj (congrArg Prod.fst hfirst))).2
      have hfree := (status_of_slotId hn (SlotAnswer.slotId.inj (congrArg Prod.fst hsecond))).1
      obtain ⟨⟨c, a⟩, he, s₁, s₂, ht, hstep, ht'⟩ :=
        hbetween.exists_of_not (P := fun s => s.status n.toNat = true)
          ((congrArg (fun r => r.2.status n.toNat) hfirst).symm.trans htaken)
          (by rw [hfree]; exact Bool.false_ne_true)
      have hlost : ¬(slotStep drv s₁ c).2.status n.toNat = true := by
        rw [hstep]
        exact ht'
      have hc : c = .freeSlot n := freed_of_lost ht hlost
      exact ⟨a, hc ▸ he⟩

end

/-! ### A driver -/

/-- A driver that keeps what it is told, for as long as it accepts calls. -/
def lastingDriver : UvmDriver (ℕ × (BitVec 32 → Option DecoderPara)) where
  openUvm k := (some 3, k)
  setDecoderPara k p :=
    if k.1 = 0 then (false, k)
    else (true, (k.1 - 1, Function.update k.2 p.slotId (some p.toDecoderPara)))
  getDecoderPara k := k.2

theorem lastingDriver_documented : lastingDriver.Documented where
  get_open _ := rfl
  get_set k p h := by
    simp only [lastingDriver] at h ⊢
    split_ifs at h ⊢
    rfl
  get_refused k p h := by
    simp only [lastingDriver] at h ⊢
    split_ifs at h ⊢
    rfl

/-- A stream of 1920 × 1088 pixels. -/
def streamPara : AmGrallocDecodePara :=
  [(.width, 1920#64), (.height, 1088#64), (.wAlign, 64#64), (.hAlign, 64#64)]

/-- The parameters of a stream, and another slot behind it that the driver refuses. -/
theorem sessionsRefined_stream :
    ∃ t, SessionsAfter lastingDriver (2, fun _ => none)
      [.getSlotId, .setParameters 0#32 streamPara, .getSlotId] t :=
  sessionsRefined lastingDriver_documented (2, fun _ => none)
    [.getSlotId, .setParameters 0#32 streamPara, .getSlotId]

theorem freed_between_zero : ∃ a : SlotAnswer, (SlotCall.freeSlot 0#32, a) ∈
    [(SlotCall.freeSlot 0#32, SlotAnswer.void)] :=
  freed_between lastingDriver (8, fun _ => none)
    [.getSlotId, .freeSlot 0#32, .getSlotId]
    (show (0#32 : BitVec 32) ≠ ~~~0#32 by decide)
    (show _ = [] ++ (SlotCall.getSlotId, SlotAnswer.slotId 0#32) ::
      ([(SlotCall.freeSlot 0#32, SlotAnswer.void)] ++
        (SlotCall.getSlotId, SlotAnswer.slotId 0#32) :: []) from rfl)

end Aml

end Gralloc
