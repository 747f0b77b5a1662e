import Gralloc.Alloc.Derive
import Gralloc.CInt.Bytes

/-!
# Requests on the wire

A client describes the buffer it wants in a record (`Gralloc.BufferDescriptorInfo`). The
mapper turns the record into bytes (`Gralloc.encodeBufferDescriptor`), which only the
allocator looks into (`Gralloc.decodeBufferDescriptor`). The words are there as they are in
memory, and the name is a string of 127 characters at most, ended by a zero.

Everything survives but the name, which is cut off at its first zero and at 127 characters
(`Gralloc.decodeBufferDescriptor_encodeBufferDescriptor`). The other way round, bytes of the
right number are the encoding of what they are decoded into, if there is nothing behind the
name (`Gralloc.encodeBufferDescriptor_toInfo`). `Gralloc.descriptorCodec` puts both together.
-/

namespace Gralloc

open CInt

/-! ### Requests -/

/-- A request of a client. -/
structure BufferDescriptorInfo where
  name : List (BitVec 8)
  width : BitVec 32
  height : BitVec 32
  layerCount : BitVec 32
  /-- An enumeration over `int`. -/
  format : BitVec 32
  usage : Usage
  reservedSize : BitVec 64
  deriving DecidableEq, Repr

/-- A request may be encoded: nothing in it is zero that must not be. -/
def validateDescriptorInfo (info : BufferDescriptorInfo) : Bool :=
  info.width != 0#32 && info.height != 0#32 && info.layerCount != 0#32 && info.format != 0#32

def maxNameLength : ℕ := 127

def nameBufferSize : ℕ := 128

/-- Four words of 32 bits, two of 64 and the name. -/
def descriptorSize : ℕ := 4 * 4 + 2 * 8 + nameBufferSize

/-! ### Encoding -/

def pushDescriptorUint32 (v : BitVec 32) : List (BitVec 8) := leBytes 4 v.toNat

def pushDescriptorUint64 (v : BitVec 64) : List (BitVec 8) := leBytes 8 v.toNat

def pushDescriptorString (s : List (BitVec 8)) : List (BitVec 8) :=
  strncpy maxNameLength s ++ [0#8]

/-- **The bytes of a request.** -/
def encodeBufferDescriptor (info : BufferDescriptorInfo) : List (BitVec 8) :=
  pushDescriptorUint32 info.width ++ pushDescriptorUint32 info.height ++
    pushDescriptorUint32 info.layerCount ++ pushDescriptorUint32 info.format ++
    pushDescriptorUint64 info.usage ++ pushDescriptorUint64 info.reservedSize ++
    pushDescriptorString info.name

/-! ### Decoding -/

/-- The word at a position. -/
def popDescriptorUint32 (bytes : List (BitVec 8)) (pos : ℕ) : BitVec 32 :=
  BitVec.ofNat 32 (ofLeBytes ((bytes.drop pos).take 4))

def popDescriptorUint64 (bytes : List (BitVec 8)) (pos : ℕ) : BitVec 64 :=
  BitVec.ofNat 64 (ofLeBytes ((bytes.drop pos).take 8))

/-- The name at a position, its last byte made zero. -/
def popDescriptorString (bytes : List (BitVec 8)) (pos : ℕ) : List (BitVec 8) :=
  (bytes.drop pos).take maxNameLength ++ [0#8]

/-- A request as the allocator has it. -/
structure DecodedDescriptor where
  descriptor : BufferDescriptor
  name : List (BitVec 8)
  reservedSize : BitVec 64
  deriving DecidableEq, Repr

/-- **Decoding** bytes of the right number into a descriptor. -/
def decodeBufferDescriptor (bytes : List (BitVec 8)) (d : BufferDescriptor) :
    Option DecodedDescriptor :=
  if bytes.length = descriptorSize then
    some
      { descriptor :=
          { d with
            width := popDescriptorUint32 bytes 0
            height := popDescriptorUint32 bytes 4
            layerCount := popDescriptorUint32 bytes 8
            halFormat := (popDescriptorUint32 bytes 12).setWidth 64
            producerUsage := popDescriptorUint64 bytes 16
            consumerUsage := popDescriptorUint64 bytes 16 }
        reservedSize := popDescriptorUint64 bytes 24
        name := popDescriptorString bytes 32 }
  else none

/-! ### The round trip -/

section

variable (pre post : List (BitVec 8))

@[simp] theorem length_pushDescriptorUint32 (v : BitVec 32) :
    (pushDescriptorUint32 v).length = 4 :=
  length_leBytes 4 _

@[simp] theorem length_pushDescriptorUint64 (v : BitVec 64) :
    (pushDescriptorUint64 v).length = 8 :=
  length_leBytes 8 _

@[simp] theorem length_pushDescriptorString (s : List (BitVec 8)) :
    (pushDescriptorString s).length = nameBufferSize := by
  rw [pushDescriptorString, List.length_append, length_strncpy]
  rfl

theorem length_encodeBufferDescriptor (info : BufferDescriptorInfo) :
    (encodeBufferDescriptor info).length = descriptorSize := by
  simp only [encodeBufferDescriptor, List.length_append, length_pushDescriptorUint32,
    length_pushDescriptorUint64, length_pushDescriptorString]
  rfl

/-- A word is read where it was written. -/
theorem popDescriptorUint32_push (v : BitVec 32) {pos : ℕ} (h : pre.length = pos) :
    popDescriptorUint32 (pre ++ (pushDescriptorUint32 v ++ post)) pos = v := by
  rw [popDescriptorUint32, List.drop_left' h, List.take_left' (length_pushDescriptorUint32 v),
    pushDescriptorUint32, ofLeBytes_leBytes_of_lt (by have := v.isLt; omega), BitVec.ofNat_toNat,
    BitVec.setWidth_eq]

theorem popDescriptorUint64_push (v : BitVec 64) {pos : ℕ} (h : pre.length = pos) :
    popDescriptorUint64 (pre ++ (pushDescriptorUint64 v ++ post)) pos = v := by
  rw [popDescriptorUint64, List.drop_left' h, List.take_left' (length_pushDescriptorUint64 v),
    pushDescriptorUint64, ofLeBytes_leBytes_of_lt (by have := v.isLt; omega), BitVec.ofNat_toNat,
    BitVec.setWidth_eq]

theorem popDescriptorString_push (s : List (BitVec 8)) {pos : ℕ} (h : pre.length = pos) :
    popDescriptorString (pre ++ (pushDescriptorString s ++ post)) pos = pushDescriptorString s := by
  rw [popDescriptorString, List.drop_left' h, pushDescriptorString, List.append_assoc,
    List.take_left' (length_strncpy _ _)]

end

/-- **What the allocator decodes** is the request, but for the name. -/
theorem decodeBufferDescriptor_encodeBufferDescriptor (info : BufferDescriptorInfo)
    (d : BufferDescriptor) :
    decodeBufferDescriptor (encodeBufferDescriptor info) d =
      some
        { descriptor :=
            { d with
              width := info.width
              height := info.height
              layerCount := info.layerCount
              halFormat := info.format.setWidth 64
              producerUsage := info.usage
              consumerUsage := info.usage }
          reservedSize := info.reservedSize
          name := pushDescriptorString info.name } := by
  let w := pushDescriptorUint32 info.width
  let h := pushDescriptorUint32 info.height
  let l := pushDescriptorUint32 info.layerCount
  let f := pushDescriptorUint32 info.format
  let u := pushDescriptorUint64 info.usage
  let r := pushDescriptorUint64 info.reservedSize
  let n := pushDescriptorString info.name
  have hencode : encodeBufferDescriptor info = w ++ (h ++ (l ++ (f ++ (u ++ (r ++ n))))) := by
    simp only [encodeBufferDescriptor, List.append_assoc, w, h, l, f, u, r, n]
  have hw : popDescriptorUint32 (encodeBufferDescriptor info) 0 = info.width := by
    rw [hencode]
    exact popDescriptorUint32_push [] _ info.width rfl
  have hh : popDescriptorUint32 (encodeBufferDescriptor info) 4 = info.height := by
    rw [hencode]
    exact popDescriptorUint32_push w _ info.height (by simp [w])
  have hl : popDescriptorUint32 (encodeBufferDescriptor info) 8 = info.layerCount := by
    rw [hencode, ← List.append_assoc]
    exact popDescriptorUint32_push (w ++ h) _ info.layerCount (by simp [w, h])
  have hf : popDescriptorUint32 (encodeBufferDescriptor info) 12 = info.format := by
    rw [hencode, ← List.append_assoc, ← List.append_assoc]
    exact popDescriptorUint32_push (w ++ h ++ l) _ info.format (by simp [w, h, l])
  have hu : popDescriptorUint64 (encodeBufferDescriptor info) 16 = info.usage := by
    rw [hencode, ← List.append_assoc, ← List.append_assoc, ← List.append_assoc]
    exact popDescriptorUint64_push (w ++ h ++ l ++ f) _ info.usage (by simp [w, h, l, f])
  have hr : popDescriptorUint64 (encodeBufferDescriptor info) 24 = info.reservedSize := by
    rw [hencode, ← List.append_assoc, ← List.append_assoc, ← List.append_assoc, ← List.append_assoc]
    exact popDescriptorUint64_push (w ++ h ++ l ++ f ++ u) _ info.reservedSize
      (by simp [w, h, l, f, u])
  have hn : popDescriptorString (encodeBufferDescriptor info) 32 =
      pushDescriptorString info.name := by
    rw [hencode, ← List.append_assoc, ← List.append_assoc, ← List.append_assoc, ← List.append_assoc,
      ← List.append_assoc, ← List.append_nil n]
    exact popDescriptorString_push (w ++ h ++ l ++ f ++ u ++ r) [] info.name
      (by simp [w, h, l, f, u, r])
  rw [decodeBufferDescriptor, if_pos (length_encodeBufferDescriptor info), hw, hh, hl, hf, hu, hr,
    hn]

/-- The name that the allocator reads. -/
theorem cString_pushDescriptorString (s : List (BitVec 8)) :
    cString (pushDescriptorString s) = (cString s).take maxNameLength :=
  cString_strncpy_append _ _ _

/-! ### Encoding again -/

/-- The request that a decoded descriptor is one of: its name is read as a string. -/
def DecodedDescriptor.toInfo (r : DecodedDescriptor) : BufferDescriptorInfo where
  name := cString r.name
  width := r.descriptor.width
  height := r.descriptor.height
  layerCount := r.descriptor.layerCount
  format := r.descriptor.halFormat.setWidth 32
  usage := r.descriptor.producerUsage
  reservedSize := r.reservedSize

/-- **A name field with nothing behind the name**: zeros, one at least, up to the end. -/
def NulPadded (field : List (BitVec 8)) : Prop :=
  ∃ s k, 0#8 ∉ s ∧ field = s ++ List.replicate (k + 1) 0#8

section

variable {bytes : List (BitVec 8)} {pos : ℕ}

/-- A word is written where it was read. -/
theorem pushDescriptorUint32_pop (h : pos + 4 ≤ bytes.length) :
    pushDescriptorUint32 (popDescriptorUint32 bytes pos) = (bytes.drop pos).take 4 := by
  have hlen : ((bytes.drop pos).take 4).length = 4 := by
    rw [List.length_take, List.length_drop]
    omega
  have hlt : ofLeBytes ((bytes.drop pos).take 4) < 2 ^ 32 := by
    have h := ofLeBytes_lt ((bytes.drop pos).take 4)
    rwa [hlen] at h
  rw [pushDescriptorUint32, popDescriptorUint32, BitVec.toNat_ofNat, Nat.mod_eq_of_lt hlt,
    leBytes_ofLeBytes hlen]

theorem pushDescriptorUint64_pop (h : pos + 8 ≤ bytes.length) :
    pushDescriptorUint64 (popDescriptorUint64 bytes pos) = (bytes.drop pos).take 8 := by
  have hlen : ((bytes.drop pos).take 8).length = 8 := by
    rw [List.length_take, List.length_drop]
    omega
  have hlt : ofLeBytes ((bytes.drop pos).take 8) < 2 ^ 64 := by
    have h := ofLeBytes_lt ((bytes.drop pos).take 8)
    rwa [hlen] at h
  rw [pushDescriptorUint64, popDescriptorUint64, BitVec.toNat_ofNat, Nat.mod_eq_of_lt hlt,
    leBytes_ofLeBytes hlen]

/-- A padded name is written as it was read. -/
theorem pushDescriptorString_pop (hlen : (bytes.drop pos).length = nameBufferSize)
    (h : NulPadded (bytes.drop pos)) :
    pushDescriptorString (cString (popDescriptorString bytes pos)) = bytes.drop pos := by
  obtain ⟨s, k, hs, hfield⟩ := h
  have hk : s.length + k = maxNameLength := by
    rw [hfield, List.length_append, List.length_replicate] at hlen
    exact Nat.succ_injective hlen
  have hpop : popDescriptorString bytes pos = s ++ List.replicate (k + 1) 0#8 := by
    have htake : (s ++ List.replicate (k + 1) 0#8).take maxNameLength =
        s ++ List.replicate k 0#8 := by
      rw [← hk, List.take_length_add_append, List.take_replicate]
      simp
    rw [popDescriptorString, hfield, htake, List.append_assoc, List.replicate_succ']
  have hname : cString (s ++ List.replicate (k + 1) 0#8) = s := cString_append_zero hs _
  rw [hpop, hname, hfield, pushDescriptorString, strncpy, cString_of_not_mem hs,
    List.take_of_length_le (by omega), List.append_assoc, ← hk, Nat.add_sub_cancel_left,
    List.replicate_succ']

/-- **A decoded vector is encoded again** into what it was, if its name is padded. -/
theorem encodeBufferDescriptor_toInfo {d : BufferDescriptor} {r : DecodedDescriptor}
    (h : decodeBufferDescriptor bytes d = some r) (hname : NulPadded (bytes.drop 32)) :
    encodeBufferDescriptor r.toInfo = bytes := by
  obtain ⟨hlen, hr⟩ := Option.ite_none_right_eq_some.mp h
  have h160 : bytes.length = 160 := hlen
  have hchunk (i k : ℕ) : (bytes.drop i).take k ++ bytes.drop (i + k) = bytes.drop i := by
    rw [← List.drop_drop, List.take_append_drop]
  have hfield : (bytes.drop 32).length = nameBufferSize := by
    rw [List.length_drop, hlen]
    rfl
  have hformat : ((popDescriptorUint32 bytes 12).setWidth 64).setWidth 32 =
      popDescriptorUint32 bytes 12 := by
    rw [BitVec.setWidth_setWidth_of_le _ (by omega), BitVec.setWidth_eq]
  cases hr
  -- field by field, from the front
  rw [encodeBufferDescriptor]
  simp only [DecodedDescriptor.toInfo, hformat, List.append_assoc]
  rw [pushDescriptorUint32_pop (by omega), pushDescriptorUint32_pop (by omega),
    pushDescriptorUint32_pop (by omega), pushDescriptorUint32_pop (by omega),
    pushDescriptorUint64_pop (by omega), pushDescriptorUint64_pop (by omega),
    pushDescriptorString_pop hfield hname, hchunk 24 8, hchunk 16 8, hchunk 12 4, hchunk 8 4,
    hchunk 4 4, hchunk 0 4, List.drop_zero]

end

/-! ### The codec -/

/-- **The coding of requests**: what is recovered of a request; which bytes are accepted; and
that the bytes are those of the request they were decoded into. -/
structure DescriptorCodec : Prop where
  decode_encode : ∀ (info : BufferDescriptorInfo) (d : BufferDescriptor), ∃ r,
    decodeBufferDescriptor (encodeBufferDescriptor info) d = some r ∧
      r.descriptor.width = info.width ∧ r.descriptor.height = info.height ∧
      r.descriptor.layerCount = info.layerCount ∧
      r.descriptor.halFormat = info.format.setWidth 64 ∧
      r.descriptor.producerUsage = info.usage ∧ r.descriptor.consumerUsage = info.usage ∧
      r.reservedSize = info.reservedSize ∧
      r.name.length = nameBufferSize ∧ r.name.getLast? = some 0#8 ∧
      cString r.name = (cString info.name).take maxNameLength
  decode_isSome_iff : ∀ (info : BufferDescriptorInfo) (bytes : List (BitVec 8))
    (d : BufferDescriptor), (decodeBufferDescriptor bytes d).isSome ↔
      bytes.length = (encodeBufferDescriptor info).length
  encode_decode : ∀ (bytes : List (BitVec 8)) (d : BufferDescriptor) (r : DecodedDescriptor),
    decodeBufferDescriptor bytes d = some r → NulPadded (bytes.drop 32) →
      encodeBufferDescriptor r.toInfo = bytes

theorem descriptorCodec : DescriptorCodec where
  decode_encode info d :=
    ⟨_, decodeBufferDescriptor_encodeBufferDescriptor info d, rfl, rfl, rfl, rfl, rfl, rfl, rfl,
      length_pushDescriptorString _, List.getLast?_concat .., cString_pushDescriptorString _⟩
  decode_isSome_iff info bytes d := by
    rw [length_encodeBufferDescriptor, decodeBufferDescriptor]
    split_ifs with h
    · exact iff_of_true rfl h
    · exact iff_of_false Bool.false_ne_true h
  encode_decode _ _ _ h hname := encodeBufferDescriptor_toInfo h hname

end Gralloc
