import Gralloc.Mapper.Lock

/-!
# The metadata that all the processes share

Behind every buffer lies a second, small region of memory, in which the processes that
hold the buffer find what it is for and how its colours are meant. It is one record
(`Gralloc.Mapper.SharedMetadata`), written when the buffer is allocated and changed by
`Gralloc.Mapper.setMetadata`. It holds no pointers: an optional value is a tag beside a
value, and a vector lies in an array of fixed size, its own size beside it.

Two of these vectors are HDR metadata of any length up to the size of the array. A set
copies the bytes that it is given to the front of the array and leaves the others
(`Gralloc.Mapper.AlignedInlineVector.assign`); a get returns the array, all of it. What a
history of sets should have stored is the last vector that was accepted
(`Gralloc.Mapper.lastSet`). That vector is at the front of the array after every history
(`Gralloc.Mapper.holds_runSets`), and it is what a get returns exactly when there is no room
behind it (`Gralloc.Mapper.hdrRoundTrip_iff`).
-/

namespace Gralloc

namespace Mapper

/-! ### Values of fixed size -/

/-- A value that may be absent. The value stays when it is reset. -/
structure AlignedOptional (α : Type) where
  occupied : Bool
  item : α
  deriving DecidableEq, Repr

namespace AlignedOptional

variable {α : Type}

def vacant (a : α) : AlignedOptional α := ⟨false, a⟩

def ofValue (a : α) : AlignedOptional α := ⟨true, a⟩

def toOption (o : AlignedOptional α) : Option α := if o.occupied then some o.item else none

def reset (o : AlignedOptional α) : AlignedOptional α := { o with occupied := false }

end AlignedOptional

/-- **A vector in an array** of `n` elements. -/
structure AlignedInlineVector (α : Type) (n : ℕ) where
  size : ℕ
  contents : List α
  size_le : size ≤ n
  length_eq : contents.length = n
  deriving DecidableEq, Repr

namespace AlignedInlineVector

variable {α : Type} {n : ℕ}

/-- An array of one element, over and over. -/
def replicate (n : ℕ) (a : α) : AlignedInlineVector α n where
  size := 0
  contents := List.replicate n a
  size_le := Nat.zero_le n
  length_eq := List.length_replicate

/-- The elements are copied to the front of the array. -/
def assign (w : AlignedInlineVector α n) (v : List α) (h : v.length ≤ n) :
    AlignedInlineVector α n where
  size := v.length
  contents := v ++ w.contents.drop v.length
  size_le := h
  length_eq := by
    rw [List.length_append, List.length_drop, w.length_eq]
    omega

def clear (w : AlignedInlineVector α n) : AlignedInlineVector α n :=
  { w with size := 0, size_le := Nat.zero_le n }

/-- The vector between `begin` and `end`, if its size is not zero. -/
def get (w : AlignedInlineVector α n) : Option (List α) :=
  if 0 < w.size then some w.contents else none

/-- Storing a vector, or none; empty vectors and those that do not fit are refused. -/
def store (w : AlignedInlineVector α n) : Option (List α) → Option (AlignedInlineVector α n)
  | none => some w.clear
  | some v =>
    if v.length = 0 then none
    else if h : v.length ≤ n then some (w.assign v h)
    else none

end AlignedInlineVector

/-! ### The record -/

/-- A number of an enumeration that vendors extend. -/
structure ExtendableType where
  name : String
  value : BitVec 64
  deriving DecidableEq, Repr

def standardChromaSiting : String := "android.hardware.graphics.common.ChromaSiting"

def armChromaSiting : String := "arm.graphics.ChromaSiting"

/-- A colour, as the bits of two floating-point numbers. -/
structure XyColor where
  x : BitVec 32
  y : BitVec 32
  deriving DecidableEq, Repr

/-- The colour volume of a mastering display; the luminances are bits of floating-point
numbers. -/
structure Smpte2086 where
  primaryRed : XyColor
  primaryGreen : XyColor
  primaryBlue : XyColor
  whitePoint : XyColor
  maxLuminance : BitVec 32
  minLuminance : BitVec 32
  deriving DecidableEq, Repr

/-- Light levels of a content, as bits of floating-point numbers. -/
structure Cta861_3 where
  maxContentLightLevel : BitVec 32
  maxFrameAverageLightLevel : BitVec 32
  deriving DecidableEq, Repr

def smpte2094_40Size : ℕ := 1268

def smpte2094_10Size : ℕ := 4829

def nameSize : ℕ := 256

abbrev Dataspace : Type := BitVec 32

abbrev BlendMode : Type := BitVec 32

/-- **The shared metadata of a buffer.** -/
structure SharedMetadata where
  blendMode : AlignedOptional BlendMode
  crop : AlignedOptional ARect
  cta861_3 : AlignedOptional Cta861_3
  dataspace : AlignedOptional Dataspace
  /-- Only the number, without the name of its enumeration. -/
  chromaSiting : AlignedOptional (BitVec 64)
  smpte2086 : AlignedOptional Smpte2086
  smpte2094_40 : AlignedInlineVector (BitVec 8) smpte2094_40Size
  smpte2094_10 : AlignedInlineVector (BitVec 8) smpte2094_10Size
  name : AlignedInlineVector (BitVec 8) nameSize
  amOmxTunnel : BitVec 32
  amOmxFlag : BitVec 32
  amOmxVideoType : BitVec 32
  amOmxBufferSequence : BitVec 32
  deriving DecidableEq, Repr

namespace SharedMetadata

/-- The record of a new buffer. -/
def init (name : List (BitVec 8)) (dataspace : Dataspace) (chromaSiting : ExtendableType) :
    SharedMetadata where
  blendMode := .vacant 0#32
  crop := .vacant ⟨0#32, 0#32, 0#32, 0#32⟩
  cta861_3 := .vacant ⟨0#32, 0#32⟩
  dataspace := .ofValue dataspace
  chromaSiting := .ofValue chromaSiting.value
  smpte2086 := .vacant ⟨⟨0#32, 0#32⟩, ⟨0#32, 0#32⟩, ⟨0#32, 0#32⟩, ⟨0#32, 0#32⟩, 0#32, 0#32⟩
  smpte2094_40 := .replicate _ 0#8
  smpte2094_10 := .replicate _ 0#8
  name := (AlignedInlineVector.replicate _ 0#8).assign (name.take nameSize)
    (List.length_take_le _ _)
  amOmxTunnel := 0#32
  amOmxFlag := 0#32
  amOmxVideoType := 0#32
  amOmxBufferSequence := 0#32

variable (m : SharedMetadata)

/-! ### Getters -/

def getName : List (BitVec 8) := m.name.contents.take m.name.size

def getCropRect : Option ARect := m.crop.toOption

def getDataspace : Option Dataspace := m.dataspace.toOption

/-- The numbers of the vendor's enumeration: vertically co-sited, and both ways. -/
def chromaSitingIsArmValue (v : BitVec 64) : Bool := v == 256#64 || v == 512#64

/-- The name of the enumeration is found from the number. -/
def getChromaSiting : Option ExtendableType :=
  m.chromaSiting.toOption.map fun v =>
    ⟨if chromaSitingIsArmValue v then armChromaSiting else standardChromaSiting, v⟩

def getBlendMode : Option BlendMode := m.blendMode.toOption

def getSmpte2086 : Option Smpte2086 := m.smpte2086.toOption

def getCta861_3 : Option Cta861_3 := m.cta861_3.toOption

def getSmpte2094_40 : Option (List (BitVec 8)) := m.smpte2094_40.get

def getSmpte2094_10 : Option (List (BitVec 8)) := m.smpte2094_10.get

/-! ### Setters -/

/-- A crop is as large as the buffer, and inside its first plane. -/
def cropIsValid (hnd : PrivateHandle) (crop : ARect) : Bool :=
  let w := hnd.planeInfo.p0.allocWidth
  let h := hnd.planeInfo.p0.allocHeight
  decide (0 ≤ crop.top.toInt) && decide (0 ≤ crop.left.toInt) &&
    decide (crop.left.toInt ≤ crop.right.toInt) && decide (crop.right.toNat ≤ w) &&
    decide (crop.top.toInt ≤ crop.bottom.toInt) && decide (crop.bottom.toNat ≤ h) &&
    decide (crop.right.toInt - crop.left.toInt = hnd.width) &&
    decide (crop.bottom.toInt - crop.top.toInt = hnd.height)

def setCropRect (hnd : PrivateHandle) (crop : ARect) : Option SharedMetadata :=
  if cropIsValid hnd crop then some { m with crop := .ofValue crop } else none

def setDataspace (d : Dataspace) : SharedMetadata := { m with dataspace := .ofValue d }

def setChromaSiting (c : ExtendableType) : SharedMetadata :=
  { m with chromaSiting := .ofValue c.value }

def setBlendMode (b : BlendMode) : SharedMetadata := { m with blendMode := .ofValue b }

def setSmpte2086 : Option Smpte2086 → SharedMetadata
  | none => { m with smpte2086 := m.smpte2086.reset }
  | some s => { m with smpte2086 := .ofValue s }

def setCta861_3 : Option Cta861_3 → SharedMetadata
  | none => { m with cta861_3 := m.cta861_3.reset }
  | some c => { m with cta861_3 := .ofValue c }

def setSmpte2094_40 (v : Option (List (BitVec 8))) : Option SharedMetadata :=
  (m.smpte2094_40.store v).map fun w => { m with smpte2094_40 := w }

def setSmpte2094_10 (v : Option (List (BitVec 8))) : Option SharedMetadata :=
  (m.smpte2094_10.store v).map fun w => { m with smpte2094_10 := w }

end SharedMetadata

/-! ### Setting metadata -/

def dataspaceStandardMask : Dataspace := 0x3f0000#32

/-- BT.601 with 625 and 525 lines, BT.709, BT.2020 and DCI-P3. -/
def dataspaceStandards : List Dataspace :=
  [0x20000#32, 0x40000#32, 0x10000#32, 0x60000#32, 0xa0000#32]

/-- A dataspace that names no standard may be one of the old ones, of 16 bits. -/
def isSupportedDataSpace (d : Dataspace) : Bool :=
  let standard := d &&& dataspaceStandardMask
  if dataspaceStandards.contains standard then true
  else standard == 0#32 && d &&& 0xffff#32 != 0#32

/-- What a client wants to set, as it was decoded. -/
inductive SetRequest where
  | dataspace (d : Dataspace)
  | chromaSiting (c : ExtendableType)
  | blendMode (b : BlendMode)
  | smpte2086 (s : Option Smpte2086)
  | cta861_3 (c : Option Cta861_3)
  | smpte2094_40 (v : Option (List (BitVec 8)))
  | smpte2094_10 (v : Option (List (BitVec 8)))
  /-- The first of the rectangles. -/
  | crop (r : ARect)
  | amOmxTunnel (n : BitVec 32)
  | amOmxFlag (n : BitVec 32)
  | amOmxVideoType (n : BitVec 32)
  | amOmxBufferSequence (n : BitVec 32)
  /-- The number, name, extent, layers, format or usage of the buffer. -/
  | fixed
  /-- Another type, or a value that could not be decoded. -/
  | unsupported
  deriving DecidableEq, Repr

/-- The result of a setter that may refuse: every error becomes the same. -/
def orUnsupported (m : SharedMetadata) :
    Option SharedMetadata → Except MapperError Unit × SharedMetadata
  | some m' => (.ok (), m')
  | none => (.error .unsupported, m)

/-- **Setting metadata of a buffer.** -/
def setMetadata (hnd : PrivateHandle) (m : SharedMetadata) :
    SetRequest → Except MapperError Unit × SharedMetadata
  | .dataspace d =>
    if m.getDataspace = some d then (.ok (), m)
    else if isSupportedDataSpace d then (.ok (), m.setDataspace d)
    else (.error .unsupported, m)
  | .chromaSiting c =>
    if hnd.allocFormat.getBaseInfo.isSome ∧
        (c.name = standardChromaSiting ∨ c.name = armChromaSiting) then
      (.ok (), m.setChromaSiting c)
    else (.error .unsupported, m)
  | .blendMode b => (.ok (), m.setBlendMode b)
  | .smpte2086 s => (.ok (), m.setSmpte2086 s)
  | .cta861_3 c => (.ok (), m.setCta861_3 c)
  | .smpte2094_40 v => orUnsupported m (m.setSmpte2094_40 v)
  | .smpte2094_10 v => orUnsupported m (m.setSmpte2094_10 v)
  | .crop r => orUnsupported m (m.setCropRect hnd r)
  | .amOmxTunnel n => (.ok (), { m with amOmxTunnel := n })
  | .amOmxFlag n => (.ok (), { m with amOmxFlag := n })
  | .amOmxVideoType n => (.ok (), { m with amOmxVideoType := n })
  | .amOmxBufferSequence n => (.ok (), { m with amOmxBufferSequence := n })
  | .fixed => (.error .badValue, m)
  | .unsupported => (.error .unsupported, m)

/-- **The record after a history of sets.** -/
def runSets (hnd : PrivateHandle) (m : SharedMetadata) (history : List SetRequest) :
    SharedMetadata :=
  history.foldl (fun m req => (setMetadata hnd m req).2) m

/-! ### What an inline vector holds -/

namespace AlignedInlineVector

variable {α : Type} {n : ℕ}

/-- **A vector is held** at the front of the array; no vector, by a size of zero. -/
def Holds (w : AlignedInlineVector α n) : Option (List α) → Prop
  | none => w.size = 0
  | some v => 0 < v.length ∧ w.size = v.length ∧ w.contents.take v.length = v

/-- What is held after a store: the new vector, or the old one if it is refused. -/
def stored (n : ℕ) (old new : Option (List α)) : Option (List α) :=
  match new with
  | none => none
  | some v => if 0 < v.length ∧ v.length ≤ n then some v else old

variable {w w' : AlignedInlineVector α n} {old new : Option (List α)} {v : List α}

theorem holds_replicate (n : ℕ) (a : α) : (replicate n a).Holds none := rfl

theorem store_eq_none_iff : w.store new = none ↔ ∃ v, new = some v ∧ (v = [] ∨ n < v.length) := by
  cases new with
  | none => simp [store]
  | some v =>
    by_cases h₀ : v.length = 0
    · simp [store, List.length_eq_zero_iff.mp h₀]
    · have hne : v ≠ [] := fun h => h₀ (List.length_eq_zero_iff.mpr h)
      by_cases hn : v.length ≤ n
      · simp [store, hne, hn]
      · simp [store, hne, hn, Nat.lt_of_not_ge hn]

theorem holds_assign (h₀ : 0 < v.length) (h : v.length ≤ n) : (w.assign v h).Holds (some v) :=
  ⟨h₀, rfl, List.take_left⟩

/-- **A store** keeps what is held, or replaces it. -/
theorem holds_store (hw : w.Holds old) (new : Option (List α)) :
    ((w.store new).getD w).Holds (stored n old new) := by
  cases new with
  | none => exact rfl
  | some v =>
    by_cases hv : 0 < v.length ∧ v.length ≤ n
    · rw [stored, if_pos hv, store, if_neg hv.1.ne', dif_pos hv.2]
      exact holds_assign hv.1 hv.2
    · have hnone : w.store (some v) = none := by
        refine store_eq_none_iff.mpr ⟨v, rfl, ?_⟩
        rw [← List.length_eq_zero_iff]
        omega
      rw [stored, if_neg hv, hnone]
      exact hw

/-- **A get returns what is held** exactly when the vector fills the array. -/
theorem get_eq_iff_of_holds (hw : w.Holds old) :
    w.get = old ↔ ∀ v, old = some v → v.length = n := by
  cases old with
  | none =>
    have hsize : w.size = 0 := hw
    simp [get, hsize]
  | some v =>
    obtain ⟨h₀, hsize, htake⟩ := hw
    rw [get, if_pos (hsize ▸ h₀), Option.some_inj]
    constructor
    · rintro rfl u hu
      cases hu
      exact w.length_eq
    · intro h
      -- the front of the array, where the vector is, is the array
      have hlen : w.contents.length = v.length := w.length_eq.trans (h v rfl).symm
      rw [← htake, ← hlen, List.take_length]

end AlignedInlineVector

/-! ### HDR metadata -/

/-- The two kinds of metadata that are vectors. -/
inductive HdrKind where
  | smpte2094_40
  | smpte2094_10
  deriving DecidableEq, Repr

namespace HdrKind

def capacity : HdrKind → ℕ
  | .smpte2094_40 => smpte2094_40Size
  | .smpte2094_10 => smpte2094_10Size

def get : HdrKind → SharedMetadata → Option (List (BitVec 8))
  | .smpte2094_40, m => m.getSmpte2094_40
  | .smpte2094_10, m => m.getSmpte2094_10

def request : HdrKind → Option (List (BitVec 8)) → SetRequest
  | .smpte2094_40, v => .smpte2094_40 v
  | .smpte2094_10, v => .smpte2094_10 v

/-- The array of a kind. -/
def vector : (k : HdrKind) → SharedMetadata → AlignedInlineVector (BitVec 8) k.capacity
  | .smpte2094_40, m => m.smpte2094_40
  | .smpte2094_10, m => m.smpte2094_10

/-- The vector, or the absence of one, that a request asks to store under a kind. -/
def asked : HdrKind → SetRequest → Option (Option (List (BitVec 8)))
  | .smpte2094_40, .smpte2094_40 v => some v
  | .smpte2094_10, .smpte2094_10 v => some v
  | _, _ => none

/-- What should be stored after one more request. -/
def next (k : HdrKind) (last : Option (List (BitVec 8))) (req : SetRequest) :
    Option (List (BitVec 8)) :=
  match k.asked req with
  | none => last
  | some new => AlignedInlineVector.stored k.capacity last new

end HdrKind

/-- **The last vector that a history stores**: sets of nothing delete it, and the sets of an
empty vector, or of one that is too long, do not count. -/
def lastSet (k : HdrKind) (history : List SetRequest) : Option (List (BitVec 8)) :=
  history.foldl k.next none

section

variable {hnd : PrivateHandle} {m : SharedMetadata} {k : HdrKind}

theorem HdrKind.get_eq (k : HdrKind) (m : SharedMetadata) : k.get m = (k.vector m).get := by
  cases k <;> rfl

theorem HdrKind.eq_request {req : SetRequest} {new : Option (List (BitVec 8))}
    (h : k.asked req = some new) : req = k.request new := by
  cases k <;> cases req <;> cases h <;> rfl

theorem vector_setSmpte2094_40 (new : Option (List (BitVec 8))) {w : SharedMetadata}
    (h : m.setSmpte2094_40 new = some w) :
    m.smpte2094_40.store new = some w.smpte2094_40 ∧ w.smpte2094_10 = m.smpte2094_10 := by
  obtain ⟨a, ha, rfl⟩ := Option.map_eq_some_iff.mp h
  exact ⟨ha, rfl⟩

theorem vector_setSmpte2094_10 (new : Option (List (BitVec 8))) {w : SharedMetadata}
    (h : m.setSmpte2094_10 new = some w) :
    m.smpte2094_10.store new = some w.smpte2094_10 ∧ w.smpte2094_40 = m.smpte2094_40 := by
  obtain ⟨a, ha, rfl⟩ := Option.map_eq_some_iff.mp h
  exact ⟨ha, rfl⟩

/-- **A request for a kind** stores the vector, or is refused and changes nothing. -/
theorem setMetadata_request (hnd : PrivateHandle) (m : SharedMetadata) (k : HdrKind)
    (new : Option (List (BitVec 8))) :
    (∃ m', setMetadata hnd m (k.request new) = (.ok (), m') ∧
        (k.vector m).store new = some (k.vector m')) ∨
      ((k.vector m).store new = none ∧
        setMetadata hnd m (k.request new) = (.error .unsupported, m)) := by
  cases k with
  | smpte2094_40 =>
    cases h : m.setSmpte2094_40 new with
    | none =>
      exact Or.inr ⟨Option.map_eq_none_iff.mp h, congrArg (orUnsupported m) h⟩
    | some m' =>
      exact Or.inl ⟨m', congrArg (orUnsupported m) h, (vector_setSmpte2094_40 new h).1⟩
  | smpte2094_10 =>
    cases h : m.setSmpte2094_10 new with
    | none =>
      exact Or.inr ⟨Option.map_eq_none_iff.mp h, congrArg (orUnsupported m) h⟩
    | some m' =>
      exact Or.inl ⟨m', congrArg (orUnsupported m) h, (vector_setSmpte2094_10 new h).1⟩

/-- **Other requests leave the array of a kind alone.** -/
theorem vector_setMetadata_of_not_asked {req : SetRequest} (h : k.asked req = none) :
    k.vector (setMetadata hnd m req).2 = k.vector m := by
  cases req with
  | dataspace d =>
    rw [setMetadata]
    split_ifs <;> cases k <;> rfl
  | chromaSiting c =>
    rw [setMetadata]
    split_ifs <;> cases k <;> rfl
  | smpte2086 s => cases s <;> cases k <;> rfl
  | cta861_3 c => cases c <;> cases k <;> rfl
  | smpte2094_40 v =>
    -- the request is not for this kind, and so for the other
    cases k with
    | smpte2094_40 => cases h
    | smpte2094_10 =>
      cases hv : m.setSmpte2094_40 v with
      | none => simp only [setMetadata, hv, orUnsupported]
      | some m' =>
        simp only [setMetadata, hv, orUnsupported]
        exact (vector_setSmpte2094_40 v hv).2
  | smpte2094_10 v =>
    cases k with
    | smpte2094_10 => cases h
    | smpte2094_40 =>
      cases hv : m.setSmpte2094_10 v with
      | none => simp only [setMetadata, hv, orUnsupported]
      | some m' =>
        simp only [setMetadata, hv, orUnsupported]
        exact (vector_setSmpte2094_10 v hv).2
  | crop r =>
    rw [setMetadata, SharedMetadata.setCropRect]
    split_ifs <;> cases k <;> rfl
  | blendMode _ | amOmxTunnel _ | amOmxFlag _ | amOmxVideoType _ | amOmxBufferSequence _ | fixed
  | unsupported => cases k <;> rfl

/-- **One request** keeps what is held in step with what should be stored. -/
theorem holds_setMetadata {last : Option (List (BitVec 8))} (hm : (k.vector m).Holds last)
    (req : SetRequest) : (k.vector (setMetadata hnd m req).2).Holds (k.next last req) := by
  cases hreq : k.asked req with
  | none =>
    rw [vector_setMetadata_of_not_asked hreq, HdrKind.next, hreq]
    exact hm
  | some new =>
    obtain rfl := HdrKind.eq_request hreq
    have hstore := AlignedInlineVector.holds_store hm new
    rw [HdrKind.next, hreq]
    rcases setMetadata_request hnd m k new with ⟨m', h, hw⟩ | ⟨hw, h⟩
    · rw [hw, Option.getD_some] at hstore
      rw [h]
      exact hstore
    · rw [hw, Option.getD_none] at hstore
      rw [h]
      exact hstore

/-- **A history** keeps the last vector that it stores, by induction on its length. -/
theorem holds_foldl {last : Option (List (BitVec 8))} (hm : (k.vector m).Holds last)
    (history : List SetRequest) :
    (k.vector (runSets hnd m history)).Holds (history.foldl k.next last) := by
  induction history generalizing m last with
  | nil => exact hm
  | cons req history ih => exact ih (holds_setMetadata hm req)

/-- After every history the last vector that it stored is at the front of the array. -/
theorem holds_runSets (k : HdrKind) (hnd : PrivateHandle) (name : List (BitVec 8))
    (dataspace : Dataspace) (chromaSiting : ExtendableType) (history : List SetRequest) :
    (k.vector (runSets hnd (.init name dataspace chromaSiting) history)).Holds
      (lastSet k history) := by
  refine holds_foldl ?_ history
  cases k <;> exact AlignedInlineVector.holds_replicate _ _

end

/-- **The round trip of HDR metadata** after a history of sets: a get returns the last vector
that was stored, a set of a vector with room for it is accepted, and other sets are refused
and leave the record as it was. -/
structure HdrRoundTrip (k : HdrKind) (hnd : PrivateHandle) (m : SharedMetadata)
    (history : List SetRequest) : Prop where
  get_eq : k.get (runSets hnd m history) = lastSet k history
  accepts : ∀ v, 0 < v.length → v.length ≤ k.capacity →
    (setMetadata hnd (runSets hnd m history) (k.request (some v))).1 = .ok ()
  deletes : (setMetadata hnd (runSets hnd m history) (k.request none)).1 = .ok ()
  refuses : ∀ v, v = [] ∨ k.capacity < v.length →
    setMetadata hnd (runSets hnd m history) (k.request (some v)) =
      (.error .unsupported, runSets hnd m history)

section

variable (k : HdrKind) (hnd : PrivateHandle) (m : SharedMetadata)

theorem setMetadata_request_of_store {new : Option (List (BitVec 8))}
    (h : (k.vector m).store new ≠ none) : (setMetadata hnd m (k.request new)).1 = .ok () := by
  rcases setMetadata_request hnd m k new with ⟨m', hset, -⟩ | ⟨hnone, -⟩
  · rw [hset]
  · exact absurd hnone h

theorem setMetadata_request_of_not_store {new : Option (List (BitVec 8))}
    (h : (k.vector m).store new = none) :
    setMetadata hnd m (k.request new) = (.error .unsupported, m) := by
  rcases setMetadata_request hnd m k new with ⟨m', -, hsome⟩ | ⟨-, hset⟩
  · cases h.symm.trans hsome
  · exact hset

/-- **HDR metadata goes round** exactly when the vector that should be stored, if there is
one, fills the array. -/
theorem hdrRoundTrip_iff (name : List (BitVec 8)) (dataspace : Dataspace)
    (chromaSiting : ExtendableType) (history : List SetRequest) :
    HdrRoundTrip k hnd (.init name dataspace chromaSiting) history ↔
      ∀ v, lastSet k history = some v → v.length = k.capacity := by
  have hget := AlignedInlineVector.get_eq_iff_of_holds
    (holds_runSets k hnd name dataspace chromaSiting history)
  rw [← HdrKind.get_eq] at hget
  refine ⟨fun h => hget.mp h.get_eq, fun h => ⟨hget.mpr h, ?_, ?_, ?_⟩⟩
  · intro v h₀ hv
    refine setMetadata_request_of_store k hnd _ fun hnone => ?_
    obtain ⟨u, hu, rfl | hlong⟩ := AlignedInlineVector.store_eq_none_iff.mp hnone
    · cases hu
      cases h₀
    · cases hu
      omega
  · exact setMetadata_request_of_store k hnd _ (by simp [AlignedInlineVector.store])
  · intro v hv
    exact setMetadata_request_of_not_store k hnd _
      (AlignedInlineVector.store_eq_none_iff.mpr ⟨v, rfl, hv⟩)

end

/-! ### One byte -/

/-- One byte is stored, and the whole array comes back. -/
theorem not_hdrRoundTrip_oneByte :
    ¬HdrRoundTrip .smpte2094_40 yv12Handle (.init [] 0#32 ⟨standardChromaSiting, 0#64⟩)
      [.smpte2094_40 (some [7#8])] := by
  intro h
  have hget := congrArg (Option.map List.length) h.get_eq
  revert hget
  decide +kernel

end Mapper

end Gralloc
