import Gralloc.Hidl.FromDescriptor
import Gralloc.Mapper.Payload

/-!
# The vendor's numbers

Four numbers in the shared metadata belong to the vendor, whose library sets and gets them
for its clients through the mapper (`Gralloc.Aml.amGrallocExtSetExtAttr`,
`Gralloc.Aml.amGrallocExtGetExtAttr`). The library codes a number as the framework does, with
a header that names the type in front of it.

A set for one of these types looks for the handle in the pool of imported handles, and for a
handle of the same memory if it is not there, so that raw handles can be used as well
(`Gralloc.Aml.registered`). It expects the header. A get returns the number without it, and
a raw handle no number at all; the library refuses the first, and does not look at the
error of the second. The number that was set is in the metadata
(`Gralloc.Aml.number_runSets`), but a client does not get it back unless it has it already
(`Gralloc.Aml.roundTrip_iff`).
-/

namespace Gralloc

namespace Aml

open CInt Mapper Transition

/-! ### The process -/

/-- **The framework's coding**: the decoders, and encoders. -/
structure Gralloctypes extends Decoders where
  encode : Hidl.Gralloc4
  header : AmlMetadataType → List (BitVec 8)
  encodeInt32 : AmlMetadataType → BitVec 32 → Option (List (BitVec 8))

/-- Numbers are coded as they should be: a header for the type, and four bytes. -/
structure Gralloctypes.Documented (g : Gralloctypes) : Prop where
  header_ne_nil : ∀ t, g.header t ≠ []
  encodeInt32_eq : ∀ t v, g.encodeInt32 t v = some (g.header t ++ leBytes 4 v.toNat)
  decodeInt32_eq_some_iff : ∀ t bytes v,
    g.decodeInt32 t bytes = some v ↔ bytes = g.header t ++ leBytes 4 v.toNat

/-- A handle behind a pointer. -/
structure ClientHandle extends PrivateHandle where
  shareFd : ℤ
  backingStoreId : BitVec 64
  /-- The file behind the descriptor, if it can be asked for. -/
  inode : Option ℕ
  /-- The shared metadata that is mapped, if the handle was imported: an import that cannot
  map it fails. -/
  region : Option ℕ

/-- **A process**: the handles, by their addresses, the ones that are registered, in the order
in which the pool is gone through, and the metadata that is mapped. -/
structure Process where
  handle : ℕ → ClientHandle
  pool : List ℕ
  memory : ℕ → SharedMetadata

namespace Process

variable (w : Process)

/-- What a getter sees of a handle. -/
def metadataHandle (buffer : ℕ) : MetadataHandle :=
  { (w.handle buffer).toPrivateHandle with
    shareFd := (w.handle buffer).shareFd
    backingStoreId := (w.handle buffer).backingStoreId
    attr := (w.handle buffer).region.map w.memory }

end Process

/-! ### Getting and setting in the mapper -/

/-- Two descriptors of one file. -/
def amlCompareFd (h h' : ClientHandle) : Bool :=
  match h.inode, h'.inode with
  | some i, some j => i == j
  | _, _ => false

/-- The last handle of the pool that has the same memory. -/
def amlGet (w : Process) (buffer : ℕ) : Option ℕ :=
  w.pool.foldl
    (fun found b => if amlCompareFd (w.handle buffer) (w.handle b) then some b else found) none

/-- **The registered handle** of a buffer. -/
def registered (w : Process) (buffer : ℕ) : Option ℕ :=
  if buffer ∈ w.pool then some buffer else amlGet w buffer

/-- The handle whose metadata a set changes. -/
def resolve (w : Process) (buffer : ℕ) : MetadataType → Option ℕ
  | .aml _ => registered w buffer
  | _ => some buffer

section

variable (g : Gralloctypes) (w : Process) (buffer : ℕ)

def set (c : SetCall) : Except MapperError Unit × Process :=
  match resolve w buffer c.type with
  | none => (.error .badBuffer, w)
  | some b =>
    match (w.handle b).region with
    | none => (.error .badBuffer, w)
    | some r =>
      let s := setPayload g.toDecoders (w.handle b).toPrivateHandle (w.memory r) c
      (s.1, { w with memory := Function.update w.memory r s.2 })

def get (t : MetadataType) : Run (Except MapperError (List (BitVec 8))) :=
  Hidl.get g.encode (w.metadataHandle buffer) t

/-! ### The library -/

inductive Gralloc1Error where
  | none
  | badHandle
  deriving DecidableEq, Repr

/-- Getting a number into a variable: whether it went well, and the variable. -/
def amGetMetadata (t : AmlMetadataType) (value : BitVec 32) : Run (Bool × BitVec 32) := do
  let r ← get g w buffer (.aml t)
  match r with
  -- the error of the mapper is not passed on
  | .error _ => .ok (true, value)
  | .ok metadata =>
    match g.decodeInt32 t metadata with
    | some v => .ok (true, v)
    | none => .ok (false, value)

def amSetMetadata (t : AmlMetadataType) (value : BitVec 32) : Bool × Process :=
  match g.encodeInt32 t value with
  | none => (false, w)
  | some metadata =>
    let r := set g w buffer ⟨.aml t, metadata⟩
    (r.1.isOk, r.2)

/-- **Getting** one of the vendor's numbers. -/
def amGrallocExtGetExtAttr (t : AmlMetadataType) (val : BitVec 32) :
    Run (Gralloc1Error × BitVec 32) := do
  let (ok, val) ← amGetMetadata g w buffer t val
  .ok (if ok then .none else .badHandle, val)

/-- **Setting** one of the vendor's numbers. -/
def amGrallocExtSetExtAttr (t : AmlMetadataType) (val : BitVec 32) : Gralloc1Error × Process :=
  let (ok, w') := amSetMetadata g w buffer t val
  (if ok then .none else .badHandle, w')

end

/-! ### Runs of sets -/

/-- The process after a sequence of sets, for any buffers. -/
def runSets (g : Gralloctypes) (w : Process) (calls : List (ℕ × SetCall)) : Process :=
  calls.foldl (fun w c => (set g w c.1 c.2).2) w

/-- The number that is stored for a type. -/
def number : AmlMetadataType → SharedMetadata → Option (BitVec 32)
  | .invalid, _ => none
  | .amOmxTunnel, m => some m.amOmxTunnel
  | .amOmxFlag, m => some m.amOmxFlag
  | .amOmxVideoType, m => some m.amOmxVideoType
  | .amOmxBufferSequence, m => some m.amOmxBufferSequence

section

variable {g : Gralloctypes} {w : Process} {buffer r : ℕ} {t : AmlMetadataType} {c : SetCall}

/-- **A set** leaves the handles and the pool as they are. -/
theorem handle_set :
    (set g w buffer c).2.handle = w.handle ∧ (set g w buffer c).2.pool = w.pool := by
  rw [set]
  cases resolve w buffer c.type with
  | none => exact ⟨rfl, rfl⟩
  | some b => cases h : (w.handle b).region <;> simp [h]

theorem handle_amSetMetadata (v : BitVec 32) :
    (amSetMetadata g w buffer t v).2.handle = w.handle := by
  rw [amSetMetadata]
  cases g.encodeInt32 t v with
  | none => rfl
  | some metadata => exact handle_set.1

theorem handle_runSets (calls : List (ℕ × SetCall)) :
    (runSets g w calls).handle = w.handle :=
  invariant_foldl (I := fun w' : Process => w'.handle = w.handle) rfl
    (fun _ _ hw => handle_set.1.trans hw) calls

/-! ### What a get returns -/

theorem number_ne_none (ht : isMutable (.aml t) = true) (m : SharedMetadata) :
    ∃ n, number t m = some n := by
  cases t with
  | invalid => cases ht
  | _ => exact ⟨_, rfl⟩

/-- **An imported handle** returns the four bytes of its number, and no header. -/
theorem get_of_region (hr : (w.handle buffer).region = some r) {n : BitVec 32}
    (hn : number t (w.memory r) = some n) :
    get g w buffer (.aml t) = .ok (.ok (leBytes 4 n.toNat)) := by
  have hattr : (w.metadataHandle buffer).attr = some (w.memory r) := by
    simp only [Process.metadataHandle, hr, Option.map_some]
  cases t with
  | invalid => cases hn
  | _ =>
    cases hn
    rw [get, Hidl.get, Mapper.get, if_neg (by simp [hattr])]
    simp only [getMetadata, fromAttr, hattr]
    rfl

/-- **A raw handle** is refused what may change. -/
theorem get_of_region_eq_none (ht : isMutable (.aml t) = true)
    (hr : (w.handle buffer).region = none) :
    get g w buffer (.aml t) = .ok (.error .badBuffer) := by
  refine if_pos ⟨?_, ht⟩
  simp only [Process.metadataHandle, hr, Option.map_none, Option.isNone_none]

/-- The library takes that for a success, without having read anything. -/
theorem amGrallocExtGetExtAttr_of_region_eq_none (ht : isMutable (.aml t) = true)
    (hr : (w.handle buffer).region = none) (val : BitVec 32) :
    amGrallocExtGetExtAttr g w buffer t val = .ok (.none, val) := by
  rw [amGrallocExtGetExtAttr, amGetMetadata, get_of_region_eq_none ht hr]
  rfl

/-- Four bytes are no number with a header in front. -/
theorem decodeInt32_leBytes (hg : g.Documented) (n : BitVec 32) :
    g.decodeInt32 t (leBytes 4 n.toNat) = none := by
  rw [Option.eq_none_iff_forall_ne_some]
  intro v hv
  have hlen := congrArg List.length ((hg.decodeInt32_eq_some_iff t _ v).mp hv)
  rw [List.length_append, length_leBytes, length_leBytes] at hlen
  exact hg.header_ne_nil t (List.length_eq_zero_iff.mp (by omega))

/-- **Four bytes are not accepted** by a set. -/
theorem set_leBytes_ne_ok (hg : g.Documented) (n : BitVec 32) :
    (set g w buffer ⟨.aml t, leBytes 4 n.toNat⟩).1 ≠ .ok () := by
  have hdecode (t : AmlMetadataType) := decodeInt32_leBytes (t := t) hg n
  have hreq : request g.toDecoders (leBytes 4 n.toNat) (.aml t) = .unsupported := by
    cases t <;> simp only [request, hdecode, Option.elim_none]
  rw [set]
  cases resolve w buffer (.aml t) with
  | none => exact fun h => by cases h
  | some b =>
    cases hr : (w.handle b).region with
    | none => simp [hr]
    | some r => simp [hr, setPayload, hreq, setMetadata]

/-! ### What a set stores -/

/-- Records that agree at a type have the same number. -/
theorem number_congr {m m' : SharedMetadata} (h : AgreeAt (.aml t) m m') :
    number t m = number t m' := by
  cases t with
  | invalid => rfl
  | amOmxTunnel => exact congrArg some (h .amOmxTunnel rfl)
  | amOmxFlag => exact congrArg some (h .amOmxFlag rfl)
  | amOmxVideoType => exact congrArg some (h .amOmxVideoType rfl)
  | amOmxBufferSequence => exact congrArg some (h .amOmxBufferSequence rfl)

/-- **A set of another type** leaves the numbers as they are, in all the regions. -/
theorem number_set (h : c.type ≠ .aml t) (i : ℕ) :
    number t ((set g w buffer c).2.memory i) = number t (w.memory i) := by
  rw [set]
  cases resolve w buffer c.type with
  | none => rfl
  | some b =>
    cases hr : (w.handle b).region with
    | none => simp only [hr]
    | some r =>
      simp only [hr]
      by_cases hi : i = r
      · subst hi
        rw [Function.update_self]
        exact (number_congr (agreeAt_afterSet g.toDecoders h.symm)).symm
      · rw [Function.update_of_ne hi]

/-- A header and four bytes are stored as a number, and that is never refused. -/
theorem number_setPayload (hg : g.Documented) (ht : t ≠ .invalid) (hnd : PrivateHandle)
    (m : SharedMetadata) (v : BitVec 32) :
    number t (setPayload g.toDecoders hnd m ⟨.aml t, g.header t ++ leBytes 4 v.toNat⟩).2 =
      some v := by
  have hdecode : g.decodeInt32 t (g.header t ++ leBytes 4 v.toNat) = some v :=
    (hg.decodeInt32_eq_some_iff t _ v).mpr rfl
  cases t with
  | invalid => exact absurd rfl ht
  | _ =>
    simp only [setPayload, request, hdecode, Option.elim_some, setMetadata]
    rfl

/-- **A set by the library**, if it succeeds, stores the number for the registered handle. -/
theorem number_amGrallocExtSetExtAttr (hg : g.Documented) {v : BitVec 32}
    (hset : (amGrallocExtSetExtAttr g w buffer t v).1 = .none) :
    ∃ b r, registered w buffer = some b ∧ (w.handle b).region = some r ∧
      number t ((amGrallocExtSetExtAttr g w buffer t v).2.memory r) = some v := by
  have heq : amGrallocExtSetExtAttr g w buffer t v =
      (if (set g w buffer ⟨.aml t, g.header t ++ leBytes 4 v.toNat⟩).1.isOk then .none
        else .badHandle,
        (set g w buffer ⟨.aml t, g.header t ++ leBytes 4 v.toNat⟩).2) := by
    rw [amGrallocExtSetExtAttr, amSetMetadata, hg.encodeInt32_eq]
  rw [heq] at hset ⊢
  have hok : (set g w buffer ⟨.aml t, g.header t ++ leBytes 4 v.toNat⟩).1.isOk := by
    by_contra hne
    simp only [if_neg hne] at hset
    cases hset
  rw [set, resolve] at hok ⊢
  cases hb : registered w buffer with
  | none =>
    rw [hb] at hok
    cases hok
  | some b =>
    cases hr : (w.handle b).region with
    | none =>
      simp only [hb, hr] at hok
      cases hok
    | some r =>
      refine ⟨b, r, rfl, hr, ?_⟩
      have ht : t ≠ .invalid := by
        rintro rfl
        simp only [hb, hr] at hok
        cases hok
      simp only [hr, Function.update_self]
      exact number_setPayload hg ht _ _ v

end

/-! ### The round trip -/

/-- **The round trip of a number**, after a set and other sets: a get by the library writes it
into the variable; and of an imported handle, the bytes that the mapper returns are accepted
by it and change nothing. -/
structure RoundTrip (g : Gralloctypes) (w : Process) (buffer : ℕ) (t : AmlMetadataType)
    (v : BitVec 32) (later : List (ℕ × SetCall)) (val : BitVec 32) : Prop where
  get_eq :
    let w' := runSets g (amGrallocExtSetExtAttr g w buffer t v).2 later
    amGrallocExtGetExtAttr g w' buffer t val = .ok (.none, v)
  accepted :
    let w' := runSets g (amGrallocExtSetExtAttr g w buffer t v).2 later
    (w.handle buffer).region.isSome →
      ∃ bytes, get g w' buffer (.aml t) = .ok (.ok bytes) ∧
        set g w' buffer ⟨.aml t, bytes⟩ = (.ok (), w')

section

variable {g : Gralloctypes} {w : Process} {buffer : ℕ} {t : AmlMetadataType} {v val : BitVec 32}
  {later : List (ℕ × SetCall)}

theorem handle_after :
    (runSets g (amGrallocExtSetExtAttr g w buffer t v).2 later).handle = w.handle :=
  (handle_runSets later).trans (handle_amSetMetadata v)

/-- **A number goes round** exactly when the handle is raw, so that nothing is read, and the
variable has the number before. -/
theorem roundTrip_iff (hg : g.Documented) (ht : isMutable (.aml t) = true) :
    RoundTrip g w buffer t v later val ↔ (w.handle buffer).region = none ∧ val = v := by
  let w' := runSets g (amGrallocExtSetExtAttr g w buffer t v).2 later
  have hhandle : w'.handle = w.handle := handle_after
  cases hr : (w.handle buffer).region with
  | none =>
    -- the error of the mapper becomes a success of the library
    have hget : amGrallocExtGetExtAttr g w' buffer t val = .ok (.none, val) :=
      amGrallocExtGetExtAttr_of_region_eq_none ht (hhandle ▸ hr) val
    constructor
    · intro h
      have heq := hget.symm.trans h.get_eq
      exact ⟨rfl, congrArg Prod.snd (Except.ok.inj heq)⟩
    · rintro ⟨-, rfl⟩
      refine ⟨hget, ?_⟩
      intro w' hsome
      rw [hr] at hsome
      cases hsome
  | some r =>
    obtain ⟨n, hn⟩ := number_ne_none ht (w'.memory r)
    have hget : get g w' buffer (.aml t) = .ok (.ok (leBytes 4 n.toNat)) :=
      get_of_region (hhandle ▸ hr) hn
    constructor
    · intro h
      obtain ⟨bytes, hbytes, hset⟩ := h.accepted (hr ▸ rfl)
      cases Except.ok.inj (Except.ok.inj (hget.symm.trans hbytes))
      exact absurd (congrArg Prod.fst hset) (set_leBytes_ne_ok hg n)
    · rintro ⟨h, -⟩
      cases h

/-- **The number is stored** by a set that succeeds, for the registered handle, and stays
there as long as only other types are set. -/
theorem number_runSets (hg : g.Documented)
    (hset : (amGrallocExtSetExtAttr g w buffer t v).1 = .none)
    (hlater : ∀ c ∈ later, c.2.type ≠ .aml t) :
    ∃ b r, registered w buffer = some b ∧ (w.handle b).region = some r ∧
      number t ((runSets g (amGrallocExtSetExtAttr g w buffer t v).2 later).memory r) = some v := by
  obtain ⟨b, r, hb, hr, hv⟩ := number_amGrallocExtSetExtAttr hg hset
  refine ⟨b, r, hb, hr, ?_⟩
  revert hlater
  generalize (amGrallocExtSetExtAttr g w buffer t v).2 = w₁ at hv ⊢
  intro hlater
  induction later generalizing w₁ with
  | nil => exact hv
  | cons c later ih =>
    refine ih _ ?_ fun c' hc' => hlater c' (List.mem_cons_of_mem _ hc')
    exact (number_set (hlater c List.mem_cons_self) r).trans hv

end

/-! ### One number -/

/-- The name of the type of the vendor's numbers, and their values. -/
def amlMetadataTypeName : String := "arm.graphics.AmlMetadataType"

def amlMetadataTypeValue : AmlMetadataType → ℕ
  | .invalid => 0
  | .amOmxTunnel => 3
  | .amOmxFlag => 4
  | .amOmxVideoType => 5
  | .amOmxBufferSequence => 6

/-- A header: the length of the name, the name and the value. -/
def amlHeader (t : AmlMetadataType) : List (BitVec 8) :=
  leBytes 8 amlMetadataTypeName.length ++
    amlMetadataTypeName.toList.map (fun c => BitVec.ofNat 8 c.toNat) ++
    leBytes 8 (amlMetadataTypeValue t)

/-- Four bytes behind a header. -/
def decodeNumber (header bytes : List (BitVec 8)) : Option (BitVec 32) :=
  if bytes.take header.length = header ∧ (bytes.drop header.length).length = 4 then
    some (BitVec.ofNat 32 (ofLeBytes (bytes.drop header.length)))
  else none

theorem decodeNumber_eq_some_iff {header bytes : List (BitVec 8)} {v : BitVec 32} :
    decodeNumber header bytes = some v ↔ bytes = header ++ leBytes 4 v.toNat := by
  constructor
  · intro h
    obtain ⟨⟨htake, hlen⟩, hv⟩ := Option.ite_none_right_eq_some.mp h
    have hlt : ofLeBytes (bytes.drop header.length) < 2 ^ 32 := by
      have h := ofLeBytes_lt (bytes.drop header.length)
      rwa [hlen] at h
    cases hv
    rw [BitVec.toNat_ofNat, Nat.mod_eq_of_lt hlt, leBytes_ofLeBytes hlen]
    exact (List.take_append_drop header.length bytes).symm.trans (congrArg (· ++ _) htake)
  · rintro rfl
    have hlen : (leBytes 4 v.toNat).length = 4 := length_leBytes _ _
    rw [decodeNumber, List.take_left, List.drop_left, if_pos ⟨rfl, hlen⟩,
      ofLeBytes_leBytes_of_lt v.isLt, BitVec.ofNat_toNat, BitVec.setWidth_eq]

/-- A coding of numbers only. -/
def numbersOnly : Gralloctypes where
  dataspace _ := none
  chromaSiting _ := none
  blendMode _ := none
  smpte2086 _ := none
  cta861_3 _ := none
  smpte2094_40 _ := none
  smpte2094_10 _ := none
  crop _ := none
  encode _ _ := []
  header := amlHeader
  encodeInt32 t v := some (amlHeader t ++ leBytes 4 v.toNat)
  decodeInt32 t bytes := decodeNumber (amlHeader t) bytes

theorem documented_numbersOnly : numbersOnly.Documented where
  header_ne_nil t := by cases t <;> decide
  encodeInt32_eq _ _ := rfl
  decodeInt32_eq_some_iff _ _ _ := decodeNumber_eq_some_iff

/-- A process with one buffer, imported at one address and raw at every other one. -/
def oneImport : Process where
  handle a :=
    { yv12Handle with
      shareFd := 3
      backingStoreId := 1#64
      inode := some 1
      region := if a = 0 then some 0 else none }
  pool := [0]
  memory _ := .init [] 0#32 ⟨standardChromaSiting, 0#64⟩

/-- A number is set for an imported handle, and the library does not get it. -/
theorem not_roundTrip_imported :
    (amGrallocExtSetExtAttr numbersOnly oneImport 0 .amOmxTunnel 7#32).1 = .none ∧
      amGrallocExtGetExtAttr numbersOnly
          (amGrallocExtSetExtAttr numbersOnly oneImport 0 .amOmxTunnel 7#32).2
          0 .amOmxTunnel 0#32 = .ok (.badHandle, 0#32) ∧
      ¬RoundTrip numbersOnly oneImport 0 .amOmxTunnel 7#32 [] 0#32 := by
  have hget : amGrallocExtGetExtAttr numbersOnly
      (amGrallocExtSetExtAttr numbersOnly oneImport 0 .amOmxTunnel 7#32).2
      0 .amOmxTunnel 0#32 = .ok (.badHandle, 0#32) := by decide +kernel
  refine ⟨by decide +kernel, hget, fun h => ?_⟩
  cases hget.symm.trans h.get_eq

/-- A raw handle gives back what is in the variable already. -/
theorem roundTrip_raw :
    RoundTrip numbersOnly oneImport 1 .amOmxTunnel 7#32 [] 7#32 :=
  (roundTrip_iff documented_numbersOnly rfl).mpr ⟨rfl, rfl⟩

end Aml

end Gralloc
