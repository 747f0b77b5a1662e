import Gralloc.Mapper.Planes

/-!
# Locking a buffer for the CPU

A client that reads or writes a buffer with the CPU locks it first and unlocks it when it
is done. The first lock maps the buffer; every lock announces the access to the kernel, and
an unlock flushes the caches when there was something to write.

One counter, `lockCount`, stands for all the locks of a handle, and one flag, `cpuWrite`,
for the direction of their accesses. A call of `lockBuffer` or `unlockBuffer` returns its
result, the handle it leaves behind and the synchronisations it asked the kernel for
(`Gralloc.Mapper.Sync`). What the kernel answers is a parameter of the call
(`Gralloc.Mapper.Kernel`): any of its operations may fail.

The sums and differences of a region are `int`s that wrap around. The source leaves their overflow
undefined, and an optimising compiler may drop the test for it; what is said of regions here is
said of a build that does not.

Each function has one lemma that says all that it can do (`Gralloc.Mapper.lockBuffer_cases`,
`Gralloc.Mapper.unlockBuffer_cases`); the runs of a handle are built on these.
-/

namespace Gralloc

namespace Mapper

/-! ### Handles and the kernel -/

/-- A handle that was imported into a process. -/
structure ImportedHandle extends PrivateHandle where
  /-- The memory is not there yet. -/
  ionDelayAlloc : BitVec 32
  /-- The memory may be mapped. -/
  needMmap : Bool
  /-- The locks that were not released. -/
  lockCount : ℤ
  invalidWriteLocks : Bool
  /-- The buffer is locked for CPU write. -/
  cpuWrite : Bool
  importPid : ℤ
  /-- Where the buffer is mapped. -/
  base : Option ℕ
  deriving DecidableEq, Repr

/-- The usage a buffer was allocated with. -/
def ImportedHandle.usage (hnd : ImportedHandle) : Usage := hnd.consumerUsage ||| hnd.producerUsage

/-- What the kernel answers during a call: statuses, negative for a failure, and the address
of a mapping of some size or an error number. -/
structure Kernel where
  syncStart : ℤ
  syncEnd : ℤ
  mmap : ℤ → Except ℕ ℕ
  pageSize : ℤ

/-- A synchronisation of the CPU's caches. -/
inductive Sync where
  | start (read write : Bool)
  | finish (read write : Bool)
  deriving DecidableEq, Repr

/-- A part of a buffer, as `int`s. -/
structure ARect where
  left : BitVec 32
  top : BitVec 32
  right : BitVec 32
  bottom : BitVec 32
  deriving DecidableEq, Repr

/-- Why a lock was refused. -/
inductive LockError where
  | unsupported
  | errno (code : ℕ)
  deriving DecidableEq, Repr

def LockError.einval : LockError := .errno 22

/-- Counting up an `int`, which wraps around. -/
def increment (n : ℤ) : ℤ := (n + 1).bmod (2 ^ 32)

theorem increment_of_lt {n : ℤ} (h₀ : 0 ≤ n) (h : n < 2 ^ 31 - 1) : increment n = n + 1 :=
  Int.bmod_eq_of_le_mul_two (by omega) (by omega)

/-! ### Mapping -/

section

variable (k : Kernel) (hnd : ImportedHandle)

/-- Mapping some bytes. -/
def mapBytes (size : ℤ) : Except LockError ImportedHandle :=
  match k.mmap size with
  | .error e => .error (.errno e)
  | .ok address => .ok { hnd with base := some address }

/-- Buffers without memory of their own are not mapped, and replaced ones hold a page. -/
def allocatorMap : Except LockError ImportedHandle :=
  if hnd.ionDelayAlloc ≠ 0#32 then .ok hnd
  else if !hnd.needMmap then .ok hnd
  else if hnd.usage.isVideoDecoderQuarter || hnd.usage.isVideoDecoderOneSixteenth then .ok hnd
  else mapBytes k hnd (if hnd.usage.isVideoDecoderReplace then k.pageSize else hnd.size)

/-- A buffer is mapped once. -/
def maliMapBuffer : Except LockError ImportedHandle :=
  if hnd.base.isNone then allocatorMap k hnd else .ok hnd

variable {k hnd} {hnd' : ImportedHandle}

theorem mapBytes_eq_ok {size : ℤ} (h : mapBytes k hnd size = .ok hnd') :
    ∃ address, hnd' = { hnd with base := some address } := by
  unfold mapBytes at h
  cases hm : k.mmap size with
  | error e =>
    rw [hm] at h
    cases h
  | ok address =>
    rw [hm] at h
    exact ⟨address, (Except.ok.inj h).symm⟩

/-- **Mapping only writes the base.** -/
theorem maliMapBuffer_eq_ok (h : maliMapBuffer k hnd = .ok hnd') :
    ∃ base, hnd' = { hnd with base := base } := by
  have hsame (heq : (.ok hnd : Except LockError ImportedHandle) = .ok hnd') :
      ∃ base, hnd' = { hnd with base := base } :=
    ⟨hnd.base, (Except.ok.inj heq).symm⟩
  simp only [maliMapBuffer, allocatorMap] at h
  split_ifs at h
  · exact hsame h
  · exact hsame h
  · exact hsame h
  · obtain ⟨address, rfl⟩ := mapBytes_eq_ok h
    exact ⟨some address, rfl⟩
  · obtain ⟨address, rfl⟩ := mapBytes_eq_ok h
    exact ⟨some address, rfl⟩
  · exact hsame h

/-- **A buffer with its own memory has its own mapping.** -/
structure OwnMemory (hnd : ImportedHandle) : Prop where
  ionDelayAlloc : hnd.ionDelayAlloc = 0#32
  needMmap : hnd.needMmap = true
  quarter : hnd.usage.isVideoDecoderQuarter = false
  oneSixteenth : hnd.usage.isVideoDecoderOneSixteenth = false

/-- Once it is mapped, it has a base. -/
theorem OwnMemory.base_isSome (ho : OwnMemory hnd) (h : maliMapBuffer k hnd = .ok hnd') :
    hnd'.base.isSome = true := by
  unfold maliMapBuffer at h
  split_ifs at h with hb
  · simp only [allocatorMap, ho.ionDelayAlloc, ho.needMmap, ho.quarter, ho.oneSixteenth, ne_eq,
      not_true_eq_false, Bool.not_true, Bool.or_self, Bool.false_eq_true, if_false] at h
    obtain ⟨address, rfl⟩ := mapBytes_eq_ok h
    rfl
  · rw [← Except.ok.inj h]
    exact Option.isSome_iff_ne_none.mpr fun hn => hb (by rw [hn]; rfl)

end

/-! ### Synchronising -/

section

/-- The direction of an access. -/
inductive TxDirection where
  | none
  | toDevice
  | fromDevice
  | both
  deriving DecidableEq, Repr

def getTxDirection (usage : Usage) : TxDirection :=
  let read := usage.has Usage.swReadMask
  let write := usage.has Usage.swWriteMask
  if read && write then .both
  else if write then .toDevice
  else if read then .fromDevice
  else .none

def TxDirection.writes : TxDirection → Bool
  | .toDevice | .both => true
  | .none | .fromDevice => false

def TxDirection.reads : TxDirection → Bool
  | .fromDevice | .both => true
  | .none | .toDevice => false

variable (k : Kernel) (hnd : ImportedHandle)

/-- The accounting of a lock, or of an unlock when there is no direction. -/
def bufferSync (direction : TxDirection) : ImportedHandle × List Sync :=
  if direction ≠ .none then
    -- nothing is left to do when the start succeeds, so that its status makes no difference
    ({ hnd with lockCount := increment hnd.lockCount, cpuWrite := direction.writes },
      [.start direction.reads direction.writes])
  else if hnd.cpuWrite = true ∧ k.syncEnd < 0 then (hnd, [.finish false true])
  else
    let lockCount := if 0 < hnd.lockCount then hnd.lockCount - 1 else 0
    ({ hnd with
        lockCount := lockCount
        cpuWrite := if lockCount = 0 then false else hnd.cpuWrite },
      if hnd.cpuWrite then [.finish false true] else [])

/-! ### Validation -/

/-- The checks of a request by the process `pid`, for `w × h` pixels at `(l, t)`. The sums wrap
around: a negative one is an overflow. -/
def validateLockInputParameters (pid : ℤ) (l t w h : BitVec 32) (usage : Usage) :
    Except LockError Unit :=
  if l.toInt < 0 ∨ t.toInt < 0 ∨ w.toInt < 0 ∨ h.toInt < 0 then .error .einval
  else if (l + w).toInt < 0 ∨ (t + h).toInt < 0 then .error .einval
  else if hnd.height < (t + h).toInt ∨ hnd.width < (l + w).toInt then .error .einval
  else if !usage.hasCpu || (hnd.allocFormat.getBase != .blob && !usage.has hnd.usage) then
    .error .einval
  else if hnd.importPid ≠ pid then .error .einval
  else if hnd.allocFormat.hasModifiers then .error .unsupported
  else .ok ()

/-! ### Locks -/

/-- Locking a valid region: the address, if there is one, with the handle and the
synchronisations. -/
def maliGrallocLock (pid : ℤ) (usage : Usage) (l t w h : BitVec 32) :
    Except LockError (Option ℕ × ImportedHandle × List Sync) := do
  validateLockInputParameters hnd pid l t w h usage
  if hnd.allocFormat.getBaseInfo.isNone then .error .einval
  else if usage.hasCpu then do
    let mapped ← maliMapBuffer k hnd
    .ok (mapped.base, bufferSync k mapped (getTxDirection usage))
  else .ok (none, hnd, [])

/-- A write lock on a buffer that is locked for writing, which is let through unchecked. -/
def isInvalidWriteLock (cpuUsage : Usage) : Bool :=
  hnd.cpuWrite && cpuUsage.has Usage.swWriteMask && hnd.allocFormat.getBase != .blob

/-- **Locking a buffer.** -/
def lockBuffer (pid : ℤ) (cpuUsage : Usage) (accessRegion : ARect) :
    Except MapperError (Option ℕ) × ImportedHandle × List Sync :=
  if isInvalidWriteLock hnd cpuUsage then
    (.ok none, { hnd with invalidWriteLocks := true, lockCount := increment hnd.lockCount }, [])
  else
    match maliGrallocLock k hnd pid cpuUsage accessRegion.left accessRegion.top
      (accessRegion.right - accessRegion.left) (accessRegion.bottom - accessRegion.top) with
    | .error .unsupported => (.error .badBuffer, hnd, [])
    | .error (.errno e) =>
      (.error (if LockError.errno e = .einval then .badValue else .noResources), hnd, [])
    | .ok (data, hnd, syncs) => (.ok data, hnd, syncs)

/-- **Unlocking a buffer.** -/
def unlockBuffer : Except MapperError Unit × ImportedHandle × List Sync :=
  if hnd.lockCount = 0 then (.error .badBuffer, hnd, [])
  else (.ok (), bufferSync k hnd .none)

end

/-! ### What a lock can do -/

section

variable {k : Kernel} {hnd : ImportedHandle} {pid : ℤ} {usage : Usage} {region : ARect}

/-- **A valid access** of the process `pid`: a part of the buffer, by the CPU, for a usage
that the buffer has something of, to pixels that are not compressed. -/
structure ValidAccess (hnd : ImportedHandle) (pid : ℤ) (usage : Usage) (region : ARect) :
    Prop where
  columns : 0 ≤ region.left.toInt ∧ region.left.toInt ≤ region.right.toInt ∧
    region.right.toInt ≤ hnd.width
  rows : 0 ≤ region.top.toInt ∧ region.top.toInt ≤ region.bottom.toInt ∧
    region.bottom.toInt ≤ hnd.height
  hasCpu : usage.hasCpu = true
  compatible : hnd.allocFormat.getBase = .blob ∨ usage.has hnd.usage = true
  importer : hnd.importPid = pid
  linear : hnd.allocFormat.hasModifiers = false

/-- A side of a region that passes the checks is ordered: its length did not wrap. -/
theorem le_of_sub_nonneg {a b : BitVec 32} (ha : 0 ≤ a.toInt) (hb : 0 ≤ b.toInt)
    (h : 0 ≤ (b - a).toInt) : a.toInt ≤ b.toInt := by
  rw [BitVec.toInt_sub] at h
  have ha' := BitVec.toInt_lt (x := a)
  have hb' := BitVec.toInt_lt (x := b)
  rw [Int.bmod_eq_of_le_mul_two (by omega) (by omega)] at h
  omega

/-- **Validation** accepts valid accesses only. -/
theorem validAccess_of_validate
    (h : validateLockInputParameters hnd pid region.left region.top (region.right - region.left)
      (region.bottom - region.top) usage = .ok ()) : ValidAccess hnd pid usage region := by
  have hr : region.left + (region.right - region.left) = region.right := by
    rw [BitVec.add_comm, BitVec.sub_add_cancel]
  have hb : region.top + (region.bottom - region.top) = region.bottom := by
    rw [BitVec.add_comm, BitVec.sub_add_cancel]
  simp only [validateLockInputParameters, hr, hb] at h
  split_ifs at h with h₁ h₂ h₃ h₄ h₅ h₆
  simp only [not_or, not_lt] at h₁ h₂ h₃
  obtain ⟨hl, ht, hw, hh⟩ := h₁
  refine ⟨⟨hl, le_of_sub_nonneg hl h₂.1 hw, h₃.2⟩, ⟨ht, le_of_sub_nonneg ht h₂.2 hh, h₃.1⟩, ?_, ?_,
    not_not.mp h₅, Bool.eq_false_of_not_eq_true h₆⟩
  · by_contra hcpu
    exact h₄ (by simp [hcpu])
  · by_contra! hne
    exact h₄ (by simp [hne])

/-- **A request is admitted**: it passes the checks, the format of the buffer is known and
the kernel can map it. -/
structure Admitted (k : Kernel) (hnd : ImportedHandle) (pid : ℤ) (usage : Usage)
    (region : ARect) : Prop where
  valid : validateLockInputParameters hnd pid region.left region.top
    (region.right - region.left) (region.bottom - region.top) usage = .ok ()
  info : hnd.allocFormat.getBaseInfo.isSome = true
  mapped : ∃ mapped, maliMapBuffer k hnd = .ok mapped

theorem writes_getTxDirection (usage : Usage) :
    (getTxDirection usage).writes = usage.has Usage.swWriteMask := by
  unfold getTxDirection
  cases usage.has Usage.swReadMask <;> cases usage.has Usage.swWriteMask <;> rfl

theorem reads_getTxDirection (usage : Usage) :
    (getTxDirection usage).reads = usage.has Usage.swReadMask := by
  unfold getTxDirection
  cases usage.has Usage.swReadMask <;> cases usage.has Usage.swWriteMask <;> rfl

/-- A direction has an access in it. -/
theorem getTxDirection_ne_none (h : usage.hasCpu = true) : getTxDirection usage ≠ .none := by
  rw [Usage.hasCpu_eq] at h
  unfold getTxDirection
  cases hr : usage.has Usage.swReadMask <;> cases hw : usage.has Usage.swWriteMask <;>
    simp [hr, hw] at h ⊢

/-- The handle that a lock leaves behind. -/
def locked (hnd : ImportedHandle) (usage : Usage) (base : Option ℕ) : ImportedHandle :=
  { hnd with
    base := base
    lockCount := increment hnd.lockCount
    cpuWrite := usage.has Usage.swWriteMask }

/-- The handle that an unchecked write lock leaves behind. -/
def invalidLocked (hnd : ImportedHandle) : ImportedHandle :=
  { hnd with invalidWriteLocks := true, lockCount := increment hnd.lockCount }

/-- **An admitted request** locks the buffer. -/
theorem maliGrallocLock_of_admitted {m : ImportedHandle}
    (hv : validateLockInputParameters hnd pid region.left region.top (region.right - region.left)
      (region.bottom - region.top) usage = .ok ())
    (hi : hnd.allocFormat.getBaseInfo.isSome = true) (hm : maliMapBuffer k hnd = .ok m) :
    maliGrallocLock k hnd pid usage region.left region.top (region.right - region.left)
        (region.bottom - region.top) =
      .ok (m.base, locked hnd usage m.base,
        [.start (usage.has Usage.swReadMask) (usage.has Usage.swWriteMask)]) := by
  obtain ⟨base, rfl⟩ := maliMapBuffer_eq_ok hm
  have hcpu := (validAccess_of_validate hv).hasCpu
  have hn : hnd.allocFormat.getBaseInfo.isNone = false := by simpa using hi
  simp only [maliGrallocLock, hv, hn, hcpu, hm, Bool.false_eq_true, if_true, if_false, bind,
    Except.bind, bufferSync, getTxDirection_ne_none hcpu, ne_eq, not_false_eq_true,
    writes_getTxDirection, reads_getTxDirection]
  rfl

/-- A request that is not admitted is an error. -/
theorem maliGrallocLock_of_not_admitted (h : ¬Admitted k hnd pid usage region) :
    ∃ e, maliGrallocLock k hnd pid usage region.left region.top (region.right - region.left)
      (region.bottom - region.top) = .error e := by
  cases hv : validateLockInputParameters hnd pid region.left region.top
    (region.right - region.left) (region.bottom - region.top) usage with
  | error e => exact ⟨e, by simp only [maliGrallocLock, hv, bind, Except.bind]⟩
  | ok =>
    cases hi : hnd.allocFormat.getBaseInfo.isNone with
    | true => exact ⟨.einval, by simp only [maliGrallocLock, hv, hi, bind, Except.bind, if_true]⟩
    | false =>
      cases hm : maliMapBuffer k hnd with
      | error e =>
        have hcpu := (validAccess_of_validate hv).hasCpu
        exact ⟨e, by simp only [maliGrallocLock, hv, hi, hcpu, hm, bind, Except.bind,
          Bool.false_eq_true, if_true, if_false]⟩
      | ok m => exact absurd ⟨hv, by simpa using hi, m, hm⟩ h

/-- **Everything that a lock can do**: let a second write lock through unchecked, refuse, or
lock an admitted request. -/
theorem lockBuffer_cases (k : Kernel) (hnd : ImportedHandle) (pid : ℤ) (usage : Usage)
    (region : ARect) :
    (isInvalidWriteLock hnd usage = true ∧
        lockBuffer k hnd pid usage region = (.ok none, invalidLocked hnd, [])) ∨
      (isInvalidWriteLock hnd usage = false ∧ ¬Admitted k hnd pid usage region ∧
        ∃ e, lockBuffer k hnd pid usage region = (.error e, hnd, [])) ∨
      (isInvalidWriteLock hnd usage = false ∧ Admitted k hnd pid usage region ∧
        ∃ m, maliMapBuffer k hnd = .ok m ∧
          lockBuffer k hnd pid usage region = (.ok m.base, locked hnd usage m.base,
            [.start (usage.has Usage.swReadMask) (usage.has Usage.swWriteMask)])) := by
  cases hinv : isInvalidWriteLock hnd usage with
  | true =>
    refine Or.inl ⟨rfl, ?_⟩
    rw [lockBuffer, if_pos hinv]
    rfl
  | false =>
    refine Or.inr ?_
    have hn : ¬isInvalidWriteLock hnd usage = true := by simp [hinv]
    by_cases ha : Admitted k hnd pid usage region
    · obtain ⟨m, hm⟩ := ha.mapped
      refine Or.inr ⟨rfl, ha, m, hm, ?_⟩
      rw [lockBuffer, if_neg hn, maliGrallocLock_of_admitted ha.valid ha.info hm]
    · obtain ⟨e, he⟩ := maliGrallocLock_of_not_admitted ha
      refine Or.inl ⟨rfl, ha, ?_⟩
      rw [lockBuffer, if_neg hn, he]
      cases e with
      | unsupported => exact ⟨_, rfl⟩
      | errno e => exact ⟨_, rfl⟩

/-- The handle that an unlock leaves behind. -/
def unlocked (hnd : ImportedHandle) : ImportedHandle :=
  let lockCount := if 0 < hnd.lockCount then hnd.lockCount - 1 else 0
  { hnd with lockCount := lockCount, cpuWrite := if lockCount = 0 then false else hnd.cpuWrite }

/-- **Everything that an unlock can do**: refuse, fail to flush without saying so, or
release. -/
theorem unlockBuffer_cases (k : Kernel) (hnd : ImportedHandle) :
    (hnd.lockCount = 0 ∧ unlockBuffer k hnd = (.error .badBuffer, hnd, [])) ∨
      (hnd.lockCount ≠ 0 ∧ hnd.cpuWrite = true ∧ k.syncEnd < 0 ∧
        unlockBuffer k hnd = (.ok (), hnd, [.finish false true])) ∨
      (hnd.lockCount ≠ 0 ∧ (hnd.cpuWrite = true → 0 ≤ k.syncEnd) ∧
        unlockBuffer k hnd =
          (.ok (), unlocked hnd, if hnd.cpuWrite then [.finish false true] else [])) := by
  by_cases h₀ : hnd.lockCount = 0
  · exact Or.inl ⟨h₀, if_pos h₀⟩
  · refine Or.inr ?_
    rw [unlockBuffer, if_neg h₀]
    by_cases hf : hnd.cpuWrite = true ∧ k.syncEnd < 0
    · refine Or.inl ⟨h₀, hf.1, hf.2, ?_⟩
      simp only [bufferSync, ne_eq, not_true_eq_false, if_false, hf, and_self, if_true]
    · refine Or.inr ⟨h₀, fun hw => not_lt.mp fun hs => hf ⟨hw, hs⟩, ?_⟩
      simp only [bufferSync, ne_eq, not_true_eq_false, if_false, hf]
      rfl

end

end Mapper

end Gralloc
