import Gralloc.Mapper.Lock
import Gralloc.Transition.Reach

/-!
# The runs of a lock

A handle is locked and unlocked any number of times, nested in any way. What the counter
and the flag of the handle are for is written down beside them, in a ledger that no code
reads (`Gralloc.Mapper.Ledger`): which of the granted locks are held, and whether something
was written since the last flush. An unlock does not say which lock it releases; that is a
choice of the client, and of the run.

Two things are wanted of the handle. The counter is the number of locks that were granted
and not released (`Gralloc.Mapper.Accounted`). And while a write lock is held the flag says
so, and what it wrote is flushed before the buffer is unlocked
(`Gralloc.Mapper.WritesFlushed`).

Neither holds of every run. A flush that fails leaves the lock in place and reports
success, and a counter of `int` wraps around; a lock for reading clears the flag of the
write locks under it. In every run without these steps both hold
(`Gralloc.Mapper.accounted_of_reach`, `Gralloc.Mapper.writesFlushed_of_reach`).
-/

namespace Gralloc

namespace Mapper

open CInt Transition

/-! ### The ledger -/

/-- What was granted to the clients of a handle. -/
structure Ledger where
  /-- The locks that are held: whether they write. -/
  held : List Bool
  /-- The number of locks that returned no error. -/
  granted : ℕ
  /-- The number of unlocks that returned no error. -/
  released : ℕ
  /-- A write lock is held, or was held and nothing was flushed since. -/
  dirty : Bool
  deriving DecidableEq, Repr

namespace Ledger

def empty : Ledger := ⟨[], 0, 0, false⟩

/-- The caches are flushed for writing. -/
def flushes (syncs : List Sync) : Bool :=
  syncs.any fun
    | .finish _ write => write
    | .start _ _ => false

variable (l : Ledger)

def grant (writes : Bool) : Ledger :=
  { l with held := writes :: l.held, granted := l.granted + 1 }

/-- The client releases one of the locks that are held. -/
def release (i : ℕ) : Ledger :=
  { l with held := l.held.eraseIdx (i % l.held.length), released := l.released + 1 }

/-- The end of a call that synchronised the caches. -/
def synced (syncs : List Sync) : Ledger :=
  { l with dirty := decide (true ∈ l.held) || (l.dirty && !flushes syncs) }

end Ledger

/-! ### Sessions -/

/-- A handle, with its ledger. -/
structure Session where
  handle : ImportedHandle
  ledger : Ledger

/-- A handle that nobody has locked. -/
def Session.start (hnd : ImportedHandle) : Session := ⟨hnd, .empty⟩

/-- A call, with the kernel's answers; an unlock names the lock that the client releases. -/
inductive Call where
  | lock (k : Kernel) (usage : Usage) (region : ARect)
  | unlock (k : Kernel) (i : ℕ)

/-- **One call** of the process `pid`. -/
def step (pid : ℤ) (s : Session) : Call → Session
  | .lock k usage region =>
    match lockBuffer k s.handle pid usage region with
    | (.ok _, hnd, syncs) => ⟨hnd, (s.ledger.grant (usage.has Usage.swWriteMask)).synced syncs⟩
    | (.error _, hnd, syncs) => ⟨hnd, s.ledger.synced syncs⟩
  | .unlock k i =>
    match unlockBuffer k s.handle with
    | (.ok _, hnd, syncs) => ⟨hnd, (s.ledger.release i).synced syncs⟩
    | (.error _, hnd, syncs) => ⟨hnd, s.ledger.synced syncs⟩

/-! ### What a call can do to a session -/

section

variable {pid : ℤ} {s : Session} {k : Kernel} {usage : Usage} {region : ARect} {i : ℕ}

/-- **A lock** is refused, or granted with one of two handles. -/
theorem step_lock_cases (pid : ℤ) (s : Session) (k : Kernel) (usage : Usage) (region : ARect) :
    step pid s (.lock k usage region) = ⟨s.handle, s.ledger.synced []⟩ ∨
      (isInvalidWriteLock s.handle usage = true ∧
        step pid s (.lock k usage region) =
          ⟨invalidLocked s.handle, (s.ledger.grant (usage.has Usage.swWriteMask)).synced []⟩) ∨
      (Admitted k s.handle pid usage region ∧ ∃ base read write,
        step pid s (.lock k usage region) =
          ⟨locked s.handle usage base,
            (s.ledger.grant (usage.has Usage.swWriteMask)).synced [.start read write]⟩) := by
  rcases lockBuffer_cases k s.handle pid usage region with
    ⟨hinv, h⟩ | ⟨-, -, e, h⟩ | ⟨-, ha, m, -, h⟩
  · exact Or.inr (Or.inl ⟨hinv, by rw [step, h]⟩)
  · exact Or.inl (by rw [step, h])
  · exact Or.inr (Or.inr ⟨ha, m.base, _, _, by rw [step, h]⟩)

/-- **An unlock** is refused, does nothing but say that it did, or releases. -/
theorem step_unlock_cases (pid : ℤ) (s : Session) (k : Kernel) (i : ℕ) :
    (s.handle.lockCount = 0 ∧
        step pid s (.unlock k i) = ⟨s.handle, s.ledger.synced []⟩) ∨
      (s.handle.lockCount ≠ 0 ∧ s.handle.cpuWrite = true ∧ k.syncEnd < 0 ∧
        step pid s (.unlock k i) =
          ⟨s.handle, (s.ledger.release i).synced [.finish false true]⟩) ∨
      (s.handle.lockCount ≠ 0 ∧
        step pid s (.unlock k i) =
          ⟨unlocked s.handle, (s.ledger.release i).synced
            (if s.handle.cpuWrite then [.finish false true] else [])⟩) := by
  rcases unlockBuffer_cases k s.handle with ⟨h₀, h⟩ | ⟨h₀, hw, hs, h⟩ | ⟨h₀, -, h⟩
  · exact Or.inl ⟨h₀, by rw [step, h]⟩
  · exact Or.inr (Or.inl ⟨h₀, hw, hs, by rw [step, h]⟩)
  · exact Or.inr (Or.inr ⟨h₀, by rw [step, h]⟩)

/-- A release of a lock that is counted. -/
theorem unlocked_lockCount {hnd : ImportedHandle} (h : 0 < hnd.lockCount) :
    (unlocked hnd).lockCount = hnd.lockCount - 1 :=
  if_pos h

theorem unlocked_cpuWrite {hnd : ImportedHandle} (h : 1 < hnd.lockCount) :
    (unlocked hnd).cpuWrite = hnd.cpuWrite := by
  simp only [unlocked, if_pos (show 0 < hnd.lockCount by omega)]
  exact if_neg (by omega)

theorem locked_lockCount {hnd : ImportedHandle} (h₀ : 0 ≤ hnd.lockCount)
    (h : hnd.lockCount < 2 ^ 31 - 1) (usage : Usage) (base : Option ℕ) :
    (locked hnd usage base).lockCount = hnd.lockCount + 1 :=
  increment_of_lt h₀ h

theorem invalidLocked_lockCount {hnd : ImportedHandle} (h₀ : 0 ≤ hnd.lockCount)
    (h : hnd.lockCount < 2 ^ 31 - 1) : (invalidLocked hnd).lockCount = hnd.lockCount + 1 :=
  increment_of_lt h₀ h

/-- A request that a lock grants, checked or not. -/
def Grants (k : Kernel) (hnd : ImportedHandle) (pid : ℤ) (usage : Usage) (region : ARect) : Prop :=
  isInvalidWriteLock hnd usage = true ∨ Admitted k hnd pid usage region

end

/-! ### Calls on a small buffer -/

/-- A handle of three planes, just imported. -/
def imported : ImportedHandle :=
  { yv12Handle with
    ionDelayAlloc := 0#32
    needMmap := true
    lockCount := 0
    invalidWriteLocks := false
    cpuWrite := false
    importPid := 1
    base := none }

/-- A kernel that does what it is asked. -/
def willing : Kernel := ⟨0, 0, fun _ => .ok 4096, 4096⟩

/-- The whole buffer. -/
def whole : ARect := ⟨0#32, 0#32, 16#32, 16#32⟩

/-- A lock for writing. -/
def lockWrite : Call := .lock willing 0x30#64 whole

/-- A lock for reading only. -/
def lockRead : Call := .lock willing 0x3#64 whole

/-- An unlock whose flush fails. -/
def unlockFailing : Call := .unlock { willing with syncEnd := -5 } 0

theorem imported_ownMemory : OwnMemory imported := ⟨rfl, rfl, by decide, by decide⟩

/-- The session in which the buffer is locked for writing. -/
def written : Session := step 1 (.start imported) lockWrite

/-! ### The counter -/

section

variable {pid : ℤ} {hnd : ImportedHandle} {s : Session} {c : Call}

/-- **A call that the counter follows**: a lock that is granted has a number left to count
it, and an unlock with something to flush can. -/
def Counts (pid : ℤ) (s : Session) : Call → Prop
  | .lock k usage region =>
    Grants k s.handle pid usage region → s.handle.lockCount < 2 ^ 31 - 1
  | .unlock k _ => s.handle.lockCount ≠ 0 → s.handle.cpuWrite = true → 0 ≤ k.syncEnd

/-- The counter is that of the ledger. -/
structure CountInv (s : Session) : Prop where
  count : s.handle.lockCount = s.ledger.granted - s.ledger.released
  nonneg : 0 ≤ s.handle.lockCount

/-- **A call keeps the counter**, in each of the things it can do. -/
theorem CountInv.step (hi : CountInv s) (hc : Counts pid s c) : CountInv (step pid s c) := by
  obtain ⟨hcount, hnonneg⟩ := hi
  cases c with
  | lock k usage region =>
    rcases step_lock_cases pid s k usage region with h | ⟨hinv, h⟩ | ⟨ha, base, r, w, h⟩
    · rw [h]
      exact ⟨hcount, hnonneg⟩
    · rw [h]
      have hn := invalidLocked_lockCount hnonneg (hc (Or.inl hinv))
      simp only [Ledger.synced, Ledger.grant]
      exact ⟨by push_cast; omega, by dsimp only; omega⟩
    · rw [h]
      have hn := locked_lockCount hnonneg (hc (Or.inr ha)) usage base
      simp only [Ledger.synced, Ledger.grant]
      exact ⟨by push_cast; omega, by dsimp only; omega⟩
  | unlock k i =>
    rcases step_unlock_cases pid s k i with ⟨-, h⟩ | ⟨h₀, hw, hs, -⟩ | ⟨h₀, h⟩
    · rw [h]
      exact ⟨hcount, hnonneg⟩
    · exact absurd (hc h₀ hw) (not_le.mpr hs)
    · rw [h]
      have hn : (unlocked s.handle).lockCount = s.handle.lockCount - 1 :=
        unlocked_lockCount (by omega)
      simp only [Ledger.synced, Ledger.release]
      exact ⟨by push_cast; omega, by dsimp only; omega⟩

/-- **The counter accounts for the locks**: it is the number of those that were granted and
not released, a refused lock leaves the state of the handle alone, and an unlock without a
lock is rejected. -/
structure Accounted (pid : ℤ) (s : Session) : Prop where
  count : s.handle.lockCount = s.ledger.granted - s.ledger.released
  nonneg : 0 ≤ s.handle.lockCount
  refused : ∀ k usage region e hnd syncs,
    lockBuffer k s.handle pid usage region = (.error e, hnd, syncs) →
      hnd.lockCount = s.handle.lockCount ∧ hnd.cpuWrite = s.handle.cpuWrite ∧
        hnd.invalidWriteLocks = s.handle.invalidWriteLocks
  unmatched : s.ledger.granted = s.ledger.released →
    ∀ k, (unlockBuffer k s.handle).1 = .error .badBuffer

/-- A refused lock leaves the whole handle alone. -/
theorem handle_of_refused {k : Kernel} {usage : Usage} {region : ARect} {e : MapperError}
    {hnd' : ImportedHandle} {syncs : List Sync}
    (h : lockBuffer k hnd pid usage region = (.error e, hnd', syncs)) : hnd' = hnd := by
  rcases lockBuffer_cases k hnd pid usage region with
    ⟨-, h'⟩ | ⟨-, -, e', h'⟩ | ⟨-, -, m, -, h'⟩
  · cases h.symm.trans h'
  · cases h.symm.trans h'
    rfl
  · cases h.symm.trans h'

theorem CountInv.accounted (hi : CountInv s) (pid : ℤ) : Accounted pid s where
  count := hi.count
  nonneg := hi.nonneg
  refused k usage region e hnd syncs h := by
    rw [handle_of_refused h]
    exact ⟨rfl, rfl, rfl⟩
  unmatched heq k := by
    have h₀ : s.handle.lockCount = 0 := by
      rw [hi.count, heq, Int.sub_self]
    rw [unlockBuffer, if_pos h₀]

/-- **The counter accounts for the locks in every run whose calls it follows.** -/
theorem accounted_of_reach (h₀ : hnd.lockCount = 0)
    (hr : Reach (step pid) (Counts pid) (.start hnd) s) : Accounted pid s := by
  refine CountInv.accounted ?_ pid
  refine hr.invariant ⟨?_, ?_⟩ fun s c hi hc => hi.step hc
  · exact h₀
  · exact h₀.ge

/-- The counter follows a write lock and its release. -/
theorem accounted_of_reach_lockWrite :
    Accounted 1 (step 1 written (.unlock willing 0)) := by
  refine accounted_of_reach rfl (.next (.next .start fun _ => ?_) fun _ _ => ?_)
  · decide
  · decide

/-- **A failing flush is reported as a success**: one lock and one unlock leave a count of
one. -/
theorem not_accounted_unlockFailing :
    Reach (step 1) (fun _ _ => True) (.start imported) (step 1 written unlockFailing) ∧
      imported.lockCount = 0 ∧ ¬Accounted 1 (step 1 written unlockFailing) := by
  refine ⟨.next (.next .start trivial) trivial, rfl, fun h => ?_⟩
  have h₁ : (step 1 written unlockFailing).handle.lockCount = 1 := by decide
  have h₀ : (step 1 written unlockFailing).ledger.granted =
      (step 1 written unlockFailing).ledger.released := by
    decide
  have hcount := h.count
  rw [h₁, h₀, Int.sub_self] at hcount
  exact absurd hcount (by decide)

end

/-! ### The flag -/

section

variable {pid : ℤ} {hnd : ImportedHandle} {s : Session} {c : Call}

/-- The kernel synchronises the caches when it is asked to. -/
def SyncsSucceed : Call → Prop
  | .lock k _ _ => 0 ≤ k.syncStart
  | .unlock k _ => 0 ≤ k.syncEnd

/-- **A call that keeps the writes**: a lock that is granted has a number left to count it,
and does not read only while a write lock is held. -/
def KeepsWrites (pid : ℤ) (s : Session) : Call → Prop
  | .lock k usage region =>
    Grants k s.handle pid usage region → s.handle.lockCount < 2 ^ 31 - 1 ∧
      (usage.has Usage.swWriteMask = false → true ∉ s.ledger.held)
  | .unlock _ _ => True

/-- **Writes are flushed**: the flag is set while a write lock is held, and once the buffer
is unlocked nothing is left to flush. -/
structure WritesFlushed (s : Session) : Prop where
  flagged : true ∈ s.ledger.held → s.handle.cpuWrite = true
  flushed : s.handle.lockCount = 0 → s.ledger.dirty = false

/-- The counter is the number of locks that are held, the flag covers those that write, and
nothing else is left to flush. -/
structure FlushInv (s : Session) : Prop where
  count : s.handle.lockCount = s.ledger.held.length
  flagged : true ∈ s.ledger.held → s.handle.cpuWrite = true
  dirty : s.ledger.dirty = true → true ∈ s.ledger.held

theorem FlushInv.writesFlushed (hi : FlushInv s) : WritesFlushed s where
  flagged := hi.flagged
  flushed h₀ := by
    have hlen : s.ledger.held.length = 0 := by
      have := hi.count
      omega
    rw [← Bool.not_eq_true]
    intro hd
    have := hi.dirty hd
    rw [List.length_eq_zero_iff.mp hlen] at this
    exact absurd this List.not_mem_nil

/-- What is left to flush after a call: the locks that are held, or what was there. -/
theorem Ledger.synced_dirty (l : Ledger) (syncs : List Sync)
    (h : l.dirty = true → flushes syncs = false → true ∈ l.held) :
    (l.synced syncs).dirty = true → true ∈ (l.synced syncs).held := by
  intro hd
  simp only [synced, Bool.or_eq_true, decide_eq_true_eq, Bool.and_eq_true,
    Bool.not_eq_true'] at hd ⊢
  rcases hd with hd | ⟨hd, hf⟩
  · exact hd
  · exact h hd hf

/-- **A lock that is granted keeps the writes**: the handle counts it, and its flag covers
the lock and those under it. -/
theorem FlushInv.grant (hi : FlushInv s) {hnd' : ImportedHandle} {write : Bool}
    (hn : hnd'.lockCount = s.handle.lockCount + 1) (hw : write = true → hnd'.cpuWrite = true)
    (hu : true ∈ s.ledger.held → hnd'.cpuWrite = true) (syncs : List Sync) :
    FlushInv ⟨hnd', (s.ledger.grant write).synced syncs⟩ where
  count := by
    have := hi.count
    simp only [Ledger.synced, Ledger.grant, List.length_cons]
    push_cast
    omega
  flagged := by
    simp only [Ledger.synced, Ledger.grant, List.mem_cons]
    rintro (h | h)
    · exact hw h.symm
    · exact hu h
  dirty := by
    refine Ledger.synced_dirty _ _ fun hd _ => ?_
    exact List.mem_cons_of_mem _ (hi.dirty hd)

/-- **A release keeps the writes**: with a write lock there is something to flush, and it is
flushed; without one there is nothing. -/
theorem FlushInv.release (hi : FlushInv s) (h₀ : s.handle.lockCount ≠ 0) (i : ℕ) :
    FlushInv ⟨unlocked s.handle, (s.ledger.release i).synced
      (if s.handle.cpuWrite then [.finish false true] else [])⟩ := by
  have hcount := hi.count
  have hpos : 0 < s.ledger.held.length := by omega
  have hlen : (s.ledger.held.eraseIdx (i % s.ledger.held.length)).length + 1 =
      s.ledger.held.length := by
    rw [List.length_eraseIdx_of_lt (Nat.mod_lt i hpos)]
    omega
  have hsub : true ∈ s.ledger.held.eraseIdx (i % s.ledger.held.length) → true ∈ s.ledger.held :=
    fun h => List.mem_of_mem_eraseIdx h
  refine ⟨?_, ?_, ?_⟩
  · rw [unlocked_lockCount (by omega)]
    simp only [Ledger.synced, Ledger.release]
    omega
  · simp only [Ledger.synced, Ledger.release]
    intro h
    -- a lock is left, so that the counter does not reach zero and the flag stays
    have hleft := List.length_pos_of_mem h
    rw [unlocked_cpuWrite (by omega)]
    exact hi.flagged (hsub h)
  · refine Ledger.synced_dirty _ _ fun hd hf => ?_
    -- what was dirty was held, hence flagged, hence flushed
    rw [hi.flagged (hi.dirty hd), if_pos rfl] at hf
    exact absurd hf (by decide)

/-- **A call keeps the writes**, in each of the things it can do. -/
theorem FlushInv.step (hi : FlushInv s) (hs : SyncsSucceed c) (hc : KeepsWrites pid s c) :
    FlushInv (step pid s c) := by
  have hnonneg : 0 ≤ s.handle.lockCount := by
    rw [hi.count]
    omega
  have hrefused : FlushInv ⟨s.handle, s.ledger.synced []⟩ :=
    ⟨hi.count, hi.flagged, Ledger.synced_dirty _ _ fun hd _ => hi.dirty hd⟩
  cases c with
  | lock k usage region =>
    rcases step_lock_cases pid s k usage region with h | ⟨hinv, h⟩ | ⟨ha, base, r, w, h⟩
    · rw [h]
      exact hrefused
    · rw [h]
      have hflag : s.handle.cpuWrite = true := by
        simp only [isInvalidWriteLock, Bool.and_eq_true] at hinv
        exact hinv.1.1
      exact hi.grant (invalidLocked_lockCount hnonneg (hc (Or.inl hinv)).1) (fun _ => hflag)
        (fun _ => hflag) _
    · rw [h]
      obtain ⟨hlt, hread⟩ := hc (Or.inr ha)
      refine hi.grant (locked_lockCount hnonneg hlt usage base) (fun hw => hw) (fun hu => ?_) _
      -- under a write lock, the lock that is granted writes too
      rw [← Bool.not_eq_false]
      exact fun hw => hread hw hu
  | unlock k i =>
    rcases step_unlock_cases pid s k i with ⟨-, h⟩ | ⟨-, -, hlt, -⟩ | ⟨h₀, h⟩
    · rw [h]
      exact hrefused
    · exact absurd hs (not_le.mpr hlt)
    · rw [h]
      exact hi.release h₀ i

/-- **Writes are flushed in every run that keeps them.** -/
theorem writesFlushed_of_reach (h₀ : hnd.lockCount = 0)
    (hr : Reach (step pid) (fun s c => SyncsSucceed c ∧ KeepsWrites pid s c) (.start hnd) s) :
    WritesFlushed s := by
  refine FlushInv.writesFlushed ?_
  refine hr.invariant ⟨?_, ?_, ?_⟩ fun s c hi hc => hi.step hc.1 hc.2
  · exact h₀
  · exact fun h => absurd h List.not_mem_nil
  · exact fun h => nomatch h

/-- A write lock and its release are flushed. -/
theorem writesFlushed_of_reach_lockWrite :
    WritesFlushed (step 1 written (.unlock willing 0)) := by
  refine writesFlushed_of_reach rfl
    (.next (.next .start ⟨?_, fun _ => ⟨?_, ?_⟩⟩) ⟨?_, trivial⟩)
  · exact le_rfl
  · decide
  · decide
  · exact le_rfl

/-- **A lock for reading hides the write lock under it**, and what that writes is never
flushed. -/
theorem not_writesFlushed_lockRead :
    Reach (step 1) (fun _ c => SyncsSucceed c) (.start imported) (step 1 written lockRead) ∧
      imported.lockCount = 0 ∧ imported.cpuWrite = false ∧
      ¬WritesFlushed (step 1 written lockRead) := by
  refine ⟨.next (.next .start ?_) ?_, rfl, rfl, fun h => ?_⟩
  · exact le_rfl
  · exact le_rfl
  · have hflag : (step 1 written lockRead).handle.cpuWrite = false := by decide
    rw [h.flagged (by decide)] at hflag
    exact absurd hflag (by decide)

end

/-! ### What a lock gives -/

/-- **A lock that returns no error** is a valid access to the mapping of the buffer, or a
second write lock, which is given no mapping. -/
theorem lockBuffer_eq_ok {pid : ℤ} {k : Kernel} {hnd hnd' : ImportedHandle} {usage : Usage}
    {region : ARect} {data : Option ℕ} {syncs : List Sync} (ho : OwnMemory hnd)
    (h : lockBuffer k hnd pid usage region = (.ok data, hnd', syncs)) :
    (isInvalidWriteLock hnd usage = true ∧ data = none ∧ hnd' = invalidLocked hnd) ∨
      (ValidAccess hnd pid usage region ∧ data = hnd'.base ∧ data.isSome = true) := by
  rcases lockBuffer_cases k hnd pid usage region with
    ⟨hinv, h'⟩ | ⟨-, -, e, h'⟩ | ⟨-, ha, m, hm, h'⟩
  · cases h.symm.trans h'
    exact Or.inl ⟨hinv, rfl, rfl⟩
  · cases h.symm.trans h'
  · cases h.symm.trans h'
    exact Or.inr ⟨validAccess_of_validate ha.valid, rfl, ho.base_isSome hm⟩

/-- The first lock of the buffer. -/
theorem lockBuffer_eq_ok_imported :
    (isInvalidWriteLock imported 0x30#64 = true ∧ some 4096 = none ∧
        locked imported 0x30#64 (some 4096) = invalidLocked imported) ∨
      (ValidAccess imported 1 0x30#64 whole ∧
        some 4096 = (locked imported 0x30#64 (some 4096)).base ∧
        (some 4096).isSome = true) :=
  lockBuffer_eq_ok imported_ownMemory
    (show lockBuffer willing imported 1 0x30#64 whole =
      (.ok (some 4096), locked imported 0x30#64 (some 4096), [.start false true]) by decide)

/-- 16 × 16 pixels of RGBA_8888 that the GPU reads and renders to. -/
def texture : BufferDescriptor := .request 16#32 16#32 0x300#64 1#64 1#32

/-- The handle that is allocated, just imported. -/
def importedTexture : ImportedHandle where
  size := 1024
  consumerUsage := 0x300#64
  producerUsage := 0x300#64
  reqFormat := 1
  allocFormat := ⟨.unorm, 1#32, 0#32⟩
  width := 16
  height := 16
  layerCount := 1
  planeInfo := PlaneLayout.zero.set 0 ⟨0, 64, 16, 16⟩
  stride := 16
  isMultiPlane := false
  ionDelayAlloc := 0#32
  needMmap := true
  lockCount := 0
  invalidWriteLocks := false
  cpuWrite := false
  importPid := 1
  base := none

/-- The two ways in which a lock gives more than the buffer permits. **A second write lock is
let through** for a region that is no part of the buffer, and gets no mapping. And a buffer
that was allocated without any CPU usage is locked for reading, by a request that names its
GPU usage as well. -/
theorem not_forall_validAccess_imported :
    OwnMemory imported ∧
      (¬∀ s, Reach (step 1) (fun _ _ => True) (.start imported) s →
        ∀ k usage region data hnd syncs,
          lockBuffer k s.handle 1 usage region = (.ok data, hnd, syncs) →
            ValidAccess s.handle 1 usage region ∧
              Usage.hasCpu (usage &&& s.handle.usage) = true ∧ data = hnd.base) ∧
      bufferAllocate wrapping fullHd (fun _ => true) .gpuOnly noDecoder texture =
        .ok (some importedTexture.toPrivateHandle) ∧
      OwnMemory importedTexture ∧
      (lockBuffer willing importedTexture 1 0x303#64 whole).1 = .ok (some 4096) ∧
      Usage.hasCpu (0x303#64 &&& importedTexture.usage) = false := by
  refine ⟨imported_ownMemory, fun hall => ?_, by decide +kernel,
    ⟨rfl, rfl, by decide, by decide⟩, by decide, by decide⟩
  have hlock : lockBuffer willing written.handle 1 0x30#64 ⟨-1#32, 0#32, 16#32, 16#32⟩ =
      (.ok none, invalidLocked written.handle, []) := by
    decide
  have hvalid := hall written (.next .start trivial) willing 0x30#64 _ _ _ _ hlock
  exact absurd hvalid.1.columns.1 (by decide)

end Mapper

end Gralloc
