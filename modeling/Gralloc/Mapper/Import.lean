import Gralloc.Mapper.Lock

/-!
# Importing a handle

A handle crosses to another process as a block of words, and the mapper makes a handle of
its own from it: a larger block, with the fields of a process behind the shared ones
(`Gralloc.Mapper.importBuffer`). The block is raw memory, which no constructor
initialises. What is in it afterwards is what was copied and what was assigned, word by
word; the rest is what `native_handle_create` returned.

Where the fields are is a matter of the compiler (`Gralloc.Mapper.HandleLayout`), and
matters here: the first field of the process may lie in the padding behind the last shared
one, and is copied with it then. Of the fields of the process two are never assigned, the
lock counter and the flag of invalid write locks; so an import is complete
exactly when the words they lie in happen to be zero
(`Gralloc.Mapper.fullyInitialised_iff`), and until then an unlock of a buffer that nobody
locked may be granted (`Gralloc.Mapper.unlockBuffer_imported_iff`).
-/

namespace Gralloc

namespace Mapper

/-! ### Words -/

/-- A block of memory, as `int`s. -/
abbrev Words : Type := ℕ → BitVec 32

/-- A pointer, its low word first. -/
def Words.ptr (w : Words) (i : ℕ) : BitVec 64 := w (i + 1) ++ w i

def Words.set (w : Words) (i : ℕ) (v : BitVec 32) : Words := Function.update w i v

def Words.setPtr (w : Words) (i : ℕ) (p : BitVec 64) : Words :=
  (w.set i (p.extractLsb' 0 32)).set (i + 1) (p.extractLsb' 32 32)

@[simp] theorem Words.set_self (w : Words) (i : ℕ) (v : BitVec 32) : w.set i v i = v := by
  rw [set, Function.update_self]

theorem Words.set_of_ne (w : Words) {i j : ℕ} (v : BitVec 32) (h : j ≠ i) : w.set i v j = w j := by
  rw [set, Function.update_of_ne h]

theorem Words.ptr_setPtr (w : Words) (i : ℕ) (p : BitVec 64) : (w.setPtr i p).ptr i = p := by
  rw [ptr, setPtr, set_self, set_of_ne _ _ (by omega), set_self]
  exact BitVec.extractLsb'_append_extractLsb'

theorem Words.setPtr_of_ne (w : Words) {i j : ℕ} (p : BitVec 64) (h : j ≠ i) (h' : j ≠ i + 1) :
    w.setPtr i p j = w j := by
  rw [setPtr, set_of_ne _ _ h', set_of_ne _ _ h]

/-- A pointer is its two words. -/
theorem Words.ptr_congr {v w : Words} {i : ℕ} (h : v i = w i) (h' : v (i + 1) = w (i + 1)) :
    v.ptr i = w.ptr i := by
  rw [ptr, ptr, h, h']

/-- A native handle: a header, and descriptors and integers behind it. -/
structure NativeHandle where
  version : ℤ
  numFds : ℤ
  numInts : ℤ
  data : Words

/-! ### Where the fields are -/

/-- The number of descriptors of a handle. -/
def privateHandleNumFds : ℕ := 3

/-- **The fields of a handle**, as positions in its words. -/
structure HandleLayout where
  /-- The number of shared integers. -/
  numInts : ℕ
  magic : ℕ
  type : ℕ
  lockCount : ℕ
  invalidWriteLocks : ℕ
  cpuWrite : ℕ
  importPid : ℕ
  base : ℕ
  attrBase : ℕ
  /-- No two fields share a word. -/
  nodup : ([type, lockCount, invalidWriteLocks] ++
    [cpuWrite, importPid, base, base + 1, attrBase, attrBase + 1]).Nodup
  three_le : ∀ i ∈ [type, lockCount, invalidWriteLocks], privateHandleNumFds ≤ i
  type_lt : type < privateHandleNumFds + numInts
  /-- The fields that are assigned lie behind the shared ones. -/
  le : ∀ i ∈ [cpuWrite, importPid, base, attrBase], privateHandleNumFds + numInts ≤ i

/-- The types of handles. -/
def handleTypeRaw : BitVec 32 := 0#32
def handleTypeImported : BitVec 32 := 1#32

/-- The number that marks a handle of this allocator. -/
def sMagic : BitVec 32 := 0x3141592#32

namespace HandleLayout

variable (l : HandleLayout)

/-- A word is copied from the raw handle. -/
def Copied (i : ℕ) : Prop := privateHandleNumFds ≤ i ∧ i < privateHandleNumFds + l.numInts

instance (i : ℕ) : Decidable (l.Copied i) := inferInstanceAs (Decidable (_ ∧ _))

/-- The words that an import assigns. -/
def assigned : List ℕ := [l.cpuWrite, l.importPid, l.base, l.base + 1, l.attrBase, l.attrBase + 1]

theorem nodup_assigned : l.assigned.Nodup := (List.nodup_append.mp l.nodup).2.1

theorem not_mem_assigned {i : ℕ} (h : i ∈ [l.type, l.lockCount, l.invalidWriteLocks]) :
    i ∉ l.assigned := fun h' => (List.nodup_append.mp l.nodup).2.2 i h i h' rfl

theorem lockCount_ne_type : l.lockCount ≠ l.type :=
  fun h => (List.nodup_cons.mp (List.nodup_append.mp l.nodup).1).1 (by simp [h])

theorem invalidWriteLocks_ne_type : l.invalidWriteLocks ≠ l.type :=
  fun h => (List.nodup_cons.mp (List.nodup_append.mp l.nodup).1).1 (by simp [h])

/-- What is copied is not assigned. -/
theorem Copied.not_mem_assigned {l : HandleLayout} {i : ℕ} (h : l.Copied i) : i ∉ l.assigned := by
  have hle := l.le
  have hlt := h.2
  simp only [List.forall_mem_cons, List.not_mem_nil, false_implies, implies_true, and_true] at hle
  simp only [assigned, List.mem_cons, List.not_mem_nil, or_false]
  omega

/-- A handle of this allocator, of a type at least as far as `this`. -/
def handleCast (this : BitVec 32) (h : NativeHandle) : Bool :=
  -- the size of the header
  h.version == 12 && h.numFds == privateHandleNumFds && h.numInts == l.numInts &&
    h.data l.magic == sMagic && !(h.data l.type).slt this

end HandleLayout

/-! ### Importing -/

/-- The kernel and the C library, as an import sees them. -/
structure ImportEnv where
  /-- What `native_handle_create` returns: memory that is not cleared. -/
  create : Option Words
  /-- The duplicate of a descriptor. -/
  dup : ℕ → Option (BitVec 32)
  /-- Where the shared metadata is mapped. -/
  mmap : Option (BitVec 64)
  pid : BitVec 32

section

variable (l : HandleLayout) (env : ImportEnv) (raw : NativeHandle)

/-- The first descriptors, duplicated. -/
def cloneFds (data : Words) : ℕ → Option Words
  | 0 => some data
  | n + 1 => do
    let data ← cloneFds data n
    let fd ← env.dup n
    some (data.set n fd)

/-- The first shared integers, copied. -/
def copyInts (data : Words) : ℕ → Words
  | 0 => data
  | n + 1 =>
    (copyInts data n).set (privateHandleNumFds + n) (raw.data (privateHandleNumFds + n))

/-- A handle for this process, from a raw one. -/
def makeImportedHandle : Option NativeHandle := do
  let data ← env.create
  let data ← cloneFds env data privateHandleNumFds
  let data := copyInts raw data l.numInts
  let data := data.set l.type handleTypeImported
  some ⟨12, privateHandleNumFds, l.numInts, data⟩

/-- **The import of a handle.** -/
def importBuffer : Except MapperError NativeHandle :=
  if !l.handleCast handleTypeRaw raw then .error .badBuffer
  else
    match makeImportedHandle l env raw with
    | none => .error .noResources
    | some h =>
      match env.mmap with
      | none => .error .noResources
      | some address =>
        let data := h.data.setPtr l.attrBase address
        let data := data.set l.importPid env.pid
        -- a clone does not share the mapping of the buffer
        let data := data.setPtr l.base 0#64
        let data := data.set l.cpuWrite 0#32
        .ok { h with data := data }

end

section

variable {l : HandleLayout} {env : ImportEnv} {raw h : NativeHandle} {mem data data' : Words}

/-- Cloning descriptors writes nothing behind them. -/
theorem cloneFds_of_le {n : ℕ} (hc : cloneFds env data n = some data') {i : ℕ} (hi : n ≤ i) :
    data' i = data i := by
  induction n generalizing data' with
  | zero =>
    cases hc
    rfl
  | succ n ih =>
    obtain ⟨d, hd, hc⟩ := Option.bind_eq_some_iff.mp hc
    obtain ⟨fd, -, hc⟩ := Option.bind_eq_some_iff.mp hc
    cases hc
    rw [Words.set_of_ne _ _ (by omega), ih hd (by omega)]

/-- The loop copies the shared integers, and nothing else. -/
theorem copyInts_apply (raw : NativeHandle) (data : Words) (n i : ℕ) :
    copyInts raw data n i =
      if privateHandleNumFds ≤ i ∧ i < privateHandleNumFds + n then raw.data i else data i := by
  induction n with
  | zero => rw [copyInts, if_neg (by omega)]
  | succ n ih =>
    rw [copyInts]
    by_cases hi : i = privateHandleNumFds + n
    · rw [hi, Words.set_self, if_pos (by omega)]
    · rw [Words.set_of_ne _ _ hi, ih]
      exact if_congr (by omega) rfl rfl

/-- What a word holds before anything is assigned: what was copied, or what was in memory. -/
def received (l : HandleLayout) (raw : NativeHandle) (mem : Words) (i : ℕ) : BitVec 32 :=
  if l.Copied i then raw.data i else mem i

/-- **The words of a clone** behind its descriptors. -/
theorem makeImportedHandle_data (hmem : env.create = some mem)
    (hm : makeImportedHandle l env raw = some h) {i : ℕ} (hi : privateHandleNumFds ≤ i) :
    h.data i = if i = l.type then handleTypeImported else received l raw mem i := by
  unfold makeImportedHandle at hm
  rw [hmem] at hm
  obtain ⟨_, hsome, hm⟩ := Option.bind_eq_some_iff.mp hm
  cases hsome
  obtain ⟨d, hd, hm⟩ := Option.bind_eq_some_iff.mp hm
  cases hm
  by_cases ht : i = l.type
  · rw [if_pos ht, ht]
    exact Words.set_self _ _ _
  · rw [if_neg ht]
    refine (Words.set_of_ne _ _ ht).trans ?_
    rw [copyInts_apply, received, cloneFds_of_le hd hi]
    rfl

/-- **The words of an imported handle.** -/
theorem importBuffer_data (hmem : env.create = some mem)
    (hi : importBuffer l env raw = .ok h) :
    ∃ address, env.mmap = some address ∧ h.data.ptr l.attrBase = address ∧
      h.data l.importPid = env.pid ∧ h.data.ptr l.base = 0#64 ∧ h.data l.cpuWrite = 0#32 ∧
      ∀ i, privateHandleNumFds ≤ i →
        i ∉ l.assigned →
        h.data i = if i = l.type then handleTypeImported else received l raw mem i := by
  unfold importBuffer at hi
  split_ifs at hi
  cases hm : makeImportedHandle l env raw with
  | none =>
    rw [hm] at hi
    cases hi
  | some h₀ =>
    rw [hm] at hi
    cases ha : env.mmap with
    | none =>
      rw [ha] at hi
      cases hi
    | some address =>
      rw [ha] at hi
      cases hi
      have hdata := fun i => makeImportedHandle_data (i := i) hmem hm
      have hn := l.nodup_assigned
      simp only [HandleLayout.assigned, List.nodup_cons, List.mem_cons, List.not_mem_nil, or_false,
        not_or] at hn
      dsimp only
      refine ⟨address, rfl, ?_, ?_, ?_, ?_, fun i hi hni => ?_⟩
      · refine (Words.ptr_congr ?_ ?_).trans (Words.ptr_setPtr h₀.data l.attrBase address) <;>
          rw [Words.set_of_ne _ _ (by omega), Words.setPtr_of_ne _ _ (by omega) (by omega),
            Words.set_of_ne _ _ (by omega)]
      · rw [Words.set_of_ne _ _ (by omega), Words.setPtr_of_ne _ _ (by omega) (by omega),
          Words.set_self]
      · have hptr := Words.ptr_setPtr
          ((h₀.data.setPtr l.attrBase address).set l.importPid env.pid) l.base 0#64
        refine (Words.ptr_congr ?_ ?_).trans hptr <;> rw [Words.set_of_ne _ _ (by omega)]
      · rw [Words.set_self]
      · simp only [HandleLayout.assigned, List.mem_cons, List.not_mem_nil, or_false, not_or] at hni
        rw [Words.set_of_ne _ _ (by omega), Words.setPtr_of_ne _ _ (by omega) (by omega),
          Words.set_of_ne _ _ (by omega), Words.setPtr_of_ne _ _ (by omega) (by omega), hdata i hi]

/-! ### The fields of the process -/

namespace HandleLayout

/-- The lock counter in a block of words. -/
def getLockCount (l : HandleLayout) (w : Words) : ℤ := (w l.lockCount).toInt

/-- The flag of invalid write locks: a byte. -/
def getInvalidWriteLocks (l : HandleLayout) (w : Words) : Bool :=
  (w l.invalidWriteLocks).setWidth 8 != 0#8

end HandleLayout

/-- **A handle in which every field of the process is initialised**, and whose shared
integers are those of the raw handle. -/
structure FullyInitialised (l : HandleLayout) (env : ImportEnv) (raw h : NativeHandle) : Prop where
  lockCount : l.getLockCount h.data = 0
  invalidWriteLocks : l.getInvalidWriteLocks h.data = false
  cpuWrite : h.data l.cpuWrite = 0#32
  base : h.data.ptr l.base = 0#64
  importPid : h.data l.importPid = env.pid
  attrBase : some (h.data.ptr l.attrBase) = env.mmap
  type : h.data l.type = handleTypeImported
  shared : ∀ i, l.Copied i → i ≠ l.type → h.data i = raw.data i

/-- A word that nothing is assigned to is the one that was received. -/
theorem importBuffer_received (hmem : env.create = some mem)
    (hi : importBuffer l env raw = .ok h) :
    h.data l.lockCount = received l raw mem l.lockCount ∧
      h.data l.invalidWriteLocks = received l raw mem l.invalidWriteLocks := by
  obtain ⟨-, -, -, -, -, -, hdata⟩ := importBuffer_data hmem hi
  constructor
  · rw [hdata _ (l.three_le _ (by simp)) (l.not_mem_assigned (by simp)),
      if_neg l.lockCount_ne_type]
  · rw [hdata _ (l.three_le _ (by simp)) (l.not_mem_assigned (by simp)),
      if_neg l.invalidWriteLocks_ne_type]

/-- **When an import initialises the whole handle**: the words of the lock counter and of the
flag of invalid write locks, which are never assigned, are received as zero. -/
theorem fullyInitialised_iff (hmem : env.create = some mem)
    (hi : importBuffer l env raw = .ok h) :
    FullyInitialised l env raw h ↔
      received l raw mem l.lockCount = 0#32 ∧
        (received l raw mem l.invalidWriteLocks).setWidth 8 = 0#8 := by
  obtain ⟨hlock, hinv⟩ := importBuffer_received hmem hi
  rw [← hlock, ← hinv]
  constructor
  · rintro ⟨h₁, h₂, -⟩
    refine ⟨BitVec.eq_of_toInt_eq h₁, ?_⟩
    simpa [HandleLayout.getInvalidWriteLocks] using h₂
  · rintro ⟨h₁, h₂⟩
    obtain ⟨address, hmap, hattr, hpid, hbase, hcpu, hdata⟩ := importBuffer_data hmem hi
    refine ⟨?_, ?_, hcpu, hbase, hpid, by rw [hattr, hmap], ?_, fun i hi ht => ?_⟩
    · rw [HandleLayout.getLockCount, h₁]
      rfl
    · simp [HandleLayout.getInvalidWriteLocks, h₂]
    · rw [hdata _ (l.three_le _ (by simp)) (l.not_mem_assigned (by simp)), if_pos rfl]
    · rw [hdata _ hi.1 hi.not_mem_assigned, if_neg ht, received, if_pos hi]

/-- Two imports of one raw handle agree on the fields that are not assigned exactly when
what was in memory there agrees. -/
theorem importBuffer_congr_iff {env' : ImportEnv} {mem' : Words} {h' : NativeHandle}
    (hmem : env.create = some mem) (hmem' : env'.create = some mem')
    (hi : importBuffer l env raw = .ok h) (hi' : importBuffer l env' raw = .ok h') :
    h.data l.lockCount = h'.data l.lockCount ∧
        h.data l.invalidWriteLocks = h'.data l.invalidWriteLocks ↔
      (l.Copied l.lockCount ∨ mem l.lockCount = mem' l.lockCount) ∧
        (l.Copied l.invalidWriteLocks ∨ mem l.invalidWriteLocks = mem' l.invalidWriteLocks) := by
  have hiff : ∀ i, received l raw mem i = received l raw mem' i ↔ l.Copied i ∨ mem i = mem' i := by
    intro i
    by_cases hc : l.Copied i
    · rw [received, received, if_pos hc, if_pos hc]
      exact ⟨fun _ => Or.inl hc, fun _ => rfl⟩
    · rw [received, received, if_neg hc, if_neg hc]
      exact ⟨Or.inr, fun h => h.resolve_left hc⟩
  obtain ⟨hlock, hinv⟩ := importBuffer_received hmem hi
  obtain ⟨hlock', hinv'⟩ := importBuffer_received hmem' hi'
  rw [hlock, hinv, hlock', hinv', hiff, hiff]

/-! ### Unlocking what was never locked -/

/-- The handle that the mapper works on: the fields of the process as the words have them. -/
def HandleLayout.toImported (l : HandleLayout) (w : Words) (hnd : ImportedHandle) :
    ImportedHandle :=
  { hnd with
    lockCount := l.getLockCount w
    invalidWriteLocks := l.getInvalidWriteLocks w
    cpuWrite := w l.cpuWrite != 0#32
    importPid := (w l.importPid).toInt
    base := if w.ptr l.base = 0#64 then none else some (w.ptr l.base).toNat }

/-- **An imported buffer cannot be unlocked** exactly when its counter was received as
zero. -/
theorem unlockBuffer_imported_iff (hmem : env.create = some mem)
    (hi : importBuffer l env raw = .ok h) (k : Kernel) (hnd : ImportedHandle) :
    (unlockBuffer k (l.toImported h.data hnd)).1 = .error .badBuffer ↔
      received l raw mem l.lockCount = 0#32 := by
  have hcount : (l.toImported h.data hnd).lockCount = 0 ↔
      received l raw mem l.lockCount = 0#32 := by
    rw [← (importBuffer_received hmem hi).1]
    exact ⟨fun h0 => BitVec.eq_of_toInt_eq h0, fun h0 => congrArg BitVec.toInt h0⟩
  rw [← hcount]
  rcases unlockBuffer_cases k (l.toImported h.data hnd) with ⟨h0, h⟩ | ⟨h0, -, -, h⟩ | ⟨h0, -, h⟩
  · rw [h]
    exact ⟨fun _ => h0, fun _ => rfl⟩
  · rw [h]
    exact ⟨fun hno => (nomatch hno), fun hno => absurd hno h0⟩
  · rw [h]
    exact ⟨fun hno => (nomatch hno), fun hno => absurd hno h0⟩

end

/-! ### A 64-bit process -/

/-- The words of a handle on a 64-bit machine: the lock counter lies in the padding behind
the last shared field. -/
def HandleLayout.lp64 : HandleLayout where
  numInts := 46
  magic := 3
  type := 47
  lockCount := 48
  invalidWriteLocks := 49
  cpuWrite := 50
  importPid := 51
  base := 53
  attrBase := 55
  nodup := by decide
  three_le := by decide
  type_lt := by decide
  le := by decide

/-- A raw handle whose padding holds a one, as `native_handle_create` left it. -/
def rawPadded : NativeHandle where
  version := 12
  numFds := 3
  numInts := 46
  data := fun i => if i = 3 then sMagic else if i = 48 then 1#32 else 0#32

/-- An import into memory that holds ones. -/
def onesEnv : ImportEnv where
  create := some fun _ => 0xffffffff#32
  dup := fun i => some (BitVec.ofNat 32 (10 + i))
  mmap := some 0x7000#64
  pid := 42#32

/-- The equivalence, at the padded handle. -/
theorem fullyInitialised_iff_rawPadded :
    ∃ h, importBuffer .lp64 onesEnv rawPadded = .ok h ∧
      (FullyInitialised .lp64 onesEnv rawPadded h ↔
        received .lp64 rawPadded (fun _ => 0xffffffff#32) 48 = 0#32 ∧
          (received .lp64 rawPadded (fun _ => 0xffffffff#32) 49).setWidth 8 = 0#8) :=
  ⟨_, rfl, fullyInitialised_iff rfl rfl⟩

/-- **The imported handle counts a lock** that nobody holds, and has invalid write locks. -/
theorem not_fullyInitialised_rawPadded :
    ∃ h, importBuffer .lp64 onesEnv rawPadded = .ok h ∧
      HandleLayout.lp64.getLockCount h.data = 1 ∧
      HandleLayout.lp64.getInvalidWriteLocks h.data = true ∧
      ¬FullyInitialised .lp64 onesEnv rawPadded h := by
  refine ⟨_, rfl, by decide, by decide, fun h => ?_⟩
  exact absurd h.lockCount (by decide)

end Mapper

end Gralloc
