import Gralloc.Mapper.Import

/-!
# Imports that fail

An import makes a handle before it knows whether it will succeed: it asks for a block, duplicates
three descriptors into it, and maps the shared metadata. Each of these may fail, and what was
obtained until then is given back by a deleter that closes as many descriptors as the handle
counts (`Gralloc.Mapper.Process.deleteHandle`).

Here an import runs in a process (`Gralloc.Mapper.Process`), with its blocks, its open
descriptors and its pool of registered handles, and a log of what it closed. The count follows the
loop, one behind the slot that is being written: wherever an import fails, it closes the
descriptors that it duplicated, once each, and the process is as it was before
(`Gralloc.Mapper.importIn_of_failsAt`). An import that succeeds leaves the handle of
`Gralloc.Mapper.importBuffer` in its block (`Gralloc.Mapper.importIn_of_ok`).
-/

namespace Gralloc

namespace Mapper

/-! ### Processes -/

/-- What an import changes of a process. -/
structure Process where
  /-- The handles that were created, each at the address of its block. -/
  handles : ℕ → Option NativeHandle
  /-- The open descriptors. -/
  fds : Finset (BitVec 32)
  /-- The registered handles. -/
  pool : Finset ℕ
  /-- The descriptors that were closed, in order. -/
  closed : List (BitVec 32)

namespace Process

/-- A block is written, or freed. -/
def put (s : Process) (a : ℕ) (h : Option NativeHandle) : Process :=
  { s with handles := Function.update s.handles a h }

def modify (s : Process) (a : ℕ) (f : NativeHandle → NativeHandle) : Process :=
  s.put a ((s.handles a).map f)

/-- The first descriptors in some words are closed, in order. -/
def nativeHandleClose (data : Words) : ℕ → Process → Process
  | 0, s => s
  | n + 1, s =>
    let s := nativeHandleClose data n s
    { s with fds := s.fds.erase (data n), closed := s.closed ++ [data n] }

/-- **The end of a handle**: the descriptors that it counts are closed, and its block is freed. -/
def deleteHandle (s : Process) (a : ℕ) : Process :=
  match s.handles a with
  | none => s
  | some h => (nativeHandleClose h.data h.numFds.toNat s).put a none

end Process

/-- **What the kernel and the C library answer** to an import of a process: a block that is not
in use, and descriptors that are not, and that are not -1. -/
structure FreshEnv (s : Process) extends ImportEnv where
  /-- Where the block is, if there is one. -/
  address : ℕ
  address_fresh : s.handles address = none
  dup_fresh : ∀ i fd, dup i = some fd → fd ∉ s.fds
  dup_inj : ∀ i j fd, dup i = some fd → dup j = some fd → i = j
  dup_ne : ∀ i, dup i ≠ some (-1)

/-! ### The import, in a process -/

section

variable (l : HandleLayout) (env : ImportEnv) (a : ℕ)

/-- The loop over the descriptors, and whether it came to its end. -/
def cloneLoop : ℕ → Process → Bool × Process
  | 0, s => (true, s)
  | n + 1, s =>
    match cloneLoop n s with
    | (false, s) => (false, s)
    | (true, s) =>
      let fd := (env.dup n).getD (-1)
      -- the slot is written first, and counted only if there is a descriptor in it
      let s := s.modify a fun h => { h with data := h.data.set n fd }
      if fd = -1 then (false, s)
      else
        let s := s.modify a fun h => { h with numFds := h.numFds + 1 }
        (true, { s with fds := insert fd s.fds })

/-- A handle for this process, from a raw one, and whether there is one. -/
def makeImported (raw : NativeHandle) (s : Process) : Bool × Process :=
  match env.create with
  | none => (false, s)
  | some mem =>
    let s := s.put a (some ⟨12, 0, l.numInts, mem⟩)
    match cloneLoop env a privateHandleNumFds s with
    | (false, s) => (false, s.deleteHandle a)
    | (true, s) =>
      let s := s.modify a fun h => { h with data := copyInts raw h.data l.numInts }
      (true, s.modify a fun h => { h with data := h.data.set l.type handleTypeImported })

/-- **The import of the handle at an address**, and where the imported one is. -/
def importIn (r : ℕ) (s : Process) : Except MapperError ℕ × Process :=
  match s.handles r with
  | none => (.error .badBuffer, s)
  | some raw =>
    if !l.handleCast handleTypeRaw raw then (.error .badBuffer, s)
    else
      match makeImported l env a raw s with
      | (false, s) => (.error .noResources, s)
      | (true, s) =>
        match env.mmap with
        | none =>
          let s := s.modify a fun h => { h with data := h.data.setPtr l.attrBase (-1) }
          (.error .noResources, s.deleteHandle a)
        | some address =>
          let s := s.modify a fun h =>
            { h with
              data := (((h.data.setPtr l.attrBase address).set l.importPid env.pid).setPtr l.base
                0#64).set l.cpuWrite 0#32 }
          (.ok a, { s with pool := insert a s.pool })

/-- The first descriptors that are duplicated. -/
def descriptors (n : ℕ) : List (BitVec 32) := (List.range n).filterMap env.dup

/-- Where an import may fail, once it has a valid handle. -/
inductive FailurePoint where
  | create
  | dup (i : ℕ)
  | mmap
  deriving DecidableEq, Repr

/-- The descriptors that were duplicated by then. -/
def FailurePoint.dups : FailurePoint → ℕ
  | create => 0
  | dup i => i
  | mmap => privateHandleNumFds

/-- **The import fails there**, and did not before. -/
def FailsAt : FailurePoint → Prop
  | .create => env.create = none
  | .dup i => env.create.isSome = true ∧ i < privateHandleNumFds ∧
      (∀ j < i, (env.dup j).isSome = true) ∧ env.dup i = none
  | .mmap => env.create.isSome = true ∧
      (∀ j < privateHandleNumFds, (env.dup j).isSome = true) ∧ env.mmap = none

end

/-! ### Closing -/

namespace Process

theorem put_put (s : Process) (a : ℕ) (h h' : Option NativeHandle) :
    (s.put a h).put a h' = s.put a h' := by
  simp only [put, Function.update_idem]

/-- **The descriptors that are closed** are the first ones, once each. -/
theorem nativeHandleClose_eq (data : Words) (n : ℕ) (s : Process) :
    nativeHandleClose data n s =
      { s with
        fds := s.fds \ ((List.range n).map data).toFinset
        closed := s.closed ++ (List.range n).map data } := by
  induction n with
  | zero => simp [nativeHandleClose]
  | succ n ih =>
    have hfds : (s.fds \ ((List.range n).map data).toFinset).erase (data n) =
        s.fds \ ((List.range (n + 1)).map data).toFinset := by
      rw [List.range_succ, List.map_append, List.toFinset_append, Finset.union_comm,
        List.map_singleton, List.toFinset_cons, List.toFinset_nil, Finset.insert_union,
        Finset.empty_union, Finset.sdiff_insert]
    rw [nativeHandleClose, ih]
    dsimp only
    rw [hfds, List.append_assoc, List.range_succ, List.map_append, List.map_singleton]

end Process

/-! ### The loop -/

section

variable {l : HandleLayout} {env : ImportEnv} {a : ℕ} {s : Process} {h₀ : NativeHandle}
  {data : Words} {n : ℕ}

/-- The slots of the descriptors that were duplicated. -/
theorem cloneFds_apply {mem : Words} (hc : cloneFds env mem n = some data) {j : ℕ} (hj : j < n) :
    env.dup j = some (data j) := by
  induction n generalizing data with
  | zero => exact absurd hj (Nat.not_lt_zero j)
  | succ n ih =>
    obtain ⟨d, hd, hc⟩ := Option.bind_eq_some_iff.mp hc
    obtain ⟨fd, hfd, hc⟩ := Option.bind_eq_some_iff.mp hc
    cases hc
    rcases Nat.lt_succ_iff_lt_or_eq.mp hj with hlt | rfl
    · rw [Words.set_of_ne _ _ hlt.ne]
      exact ih hd hlt
    · rw [Words.set_self]
      exact hfd

/-- They are duplicated if each of them is. -/
theorem exists_cloneFds (mem : Words) (h : ∀ j < n, (env.dup j).isSome = true) :
    ∃ data, cloneFds env mem n = some data := by
  induction n with
  | zero => exact ⟨mem, rfl⟩
  | succ n ih =>
    obtain ⟨data, hd⟩ := ih fun j hj => h j (by omega)
    obtain ⟨fd, hfd⟩ := Option.isSome_iff_exists.mp (h n (by omega))
    exact ⟨data.set n fd, by rw [cloneFds, hd, Option.bind_eq_bind, Option.bind_some, hfd]; rfl⟩

/-- The slots hold the descriptors, in order. -/
theorem map_slots_eq {slots : Words} (h : ∀ j < n, env.dup j = some (slots j)) :
    (List.range n).map slots = descriptors env n := by
  rw [descriptors, ← List.filterMap_eq_map]
  refine List.filterMap_congr fun j hj => ?_
  rw [h j (List.mem_range.mp hj), Function.comp_apply]

theorem descriptors_succ {fd : BitVec 32} (h : env.dup n = some fd) :
    descriptors env (n + 1) = descriptors env n ++ [fd] := by
  rw [descriptors, List.range_succ, List.filterMap_append, descriptors]
  simp [h]

/-- **As long as there are descriptors** the loop counts them in the handle, which has them in
its slots; they are open. -/
theorem cloneLoop_of_some (hne : ∀ i, env.dup i ≠ some (-1)) (h₀s : s.handles a = some h₀)
    (hc : cloneFds env h₀.data n = some data) :
    cloneLoop env a n s =
      (true, { s.put a (some { h₀ with numFds := h₀.numFds + n, data := data }) with
        fds := s.fds ∪ (descriptors env n).toFinset }) := by
  induction n generalizing data with
  | zero =>
    cases hc
    have hkept : s.put a (some h₀) = s := by rw [Process.put, ← h₀s, Function.update_eq_self]
    simp [cloneLoop, descriptors, hkept]
  | succ n ih =>
    obtain ⟨d, hd, hc⟩ := Option.bind_eq_some_iff.mp hc
    obtain ⟨fd, hfd, hc⟩ := Option.bind_eq_some_iff.mp hc
    cases hc
    have hfd' : (env.dup n).getD (-1) = fd := by rw [hfd, Option.getD_some]
    have hne' : fd ≠ -1 := fun h => hne n (h ▸ hfd)
    have hfds : insert fd (s.fds ∪ (descriptors env n).toFinset) =
        s.fds ∪ (descriptors env (n + 1)).toFinset := by
      rw [descriptors_succ hfd, List.toFinset_append, ← Finset.union_assoc, List.toFinset_cons,
        List.toFinset_nil, Finset.union_comm _ (insert fd ∅), Finset.insert_union,
        Finset.empty_union]
    rw [cloneLoop, ih hd]
    simp only [hfd', if_neg hne', hfds, Process.modify, Process.put, Function.update_self,
      Option.map_some, Function.update_idem, Nat.cast_succ, add_assoc]

/-- **Where there is no descriptor** the loop ends: the slot holds -1 and is not counted. -/
theorem cloneLoop_of_none (hne : ∀ i, env.dup i ≠ some (-1)) (h₀s : s.handles a = some h₀)
    {i : ℕ} (hc : cloneFds env h₀.data i = some data) (hi : env.dup i = none) (hin : i < n) :
    cloneLoop env a n s =
      (false, { s.put a (some { h₀ with numFds := h₀.numFds + i, data := data.set i (-1) }) with
        fds := s.fds ∪ (descriptors env i).toFinset }) := by
  induction n with
  | zero => exact absurd hin (Nat.not_lt_zero i)
  | succ n ih =>
    rcases Nat.lt_succ_iff_lt_or_eq.mp hin with hlt | rfl
    · rw [cloneLoop, ih hlt]
    · have hfd : (env.dup i).getD (-1) = -1 := by rw [hi, Option.getD_none]
      rw [cloneLoop, cloneLoop_of_some hne h₀s hc]
      simp only [hfd, if_pos, Process.modify, Process.put, Function.update_self,
        Option.map_some, Function.update_idem]

/-! ### What is given back -/

/-- The first descriptors are not open before, and no two are the same. -/
theorem FreshEnv.disjoint (env : FreshEnv s) (n : ℕ) :
    Disjoint s.fds (descriptors env.toImportEnv n).toFinset := by
  refine Finset.disjoint_right.mpr fun fd hfd => ?_
  obtain ⟨i, -, hi⟩ := List.mem_filterMap.mp (List.mem_toFinset.mp hfd)
  exact env.dup_fresh i fd hi

theorem FreshEnv.nodup (env : FreshEnv s) (n : ℕ) :
    (descriptors env.toImportEnv n).Nodup := by
  refine List.Nodup.filterMap ?_ List.nodup_range
  intro i j fd hi hj
  exact env.dup_inj i j fd hi hj

/-- **A handle in the making is given back**: of what was obtained, only the log is left. -/
theorem deleteHandle_eq (env : FreshEnv s) {h : NativeHandle} (hn : h.numFds = n)
    (hslots : ∀ j < n, env.dup j = some (h.data j)) :
    Process.deleteHandle
        { s.put env.address (some h) with
          fds := s.fds ∪ (descriptors env.toImportEnv n).toFinset } env.address =
      { s with closed := s.closed ++ descriptors env.toImportEnv n } := by
  have hat : ({ s.put env.address (some h) with
      fds := s.fds ∪ (descriptors env.toImportEnv n).toFinset } : Process).handles env.address =
        some h := Function.update_self ..
  have hfds : (s.fds ∪ (descriptors env.toImportEnv n).toFinset) \
      (descriptors env.toImportEnv n).toFinset = s.fds :=
    Finset.union_sdiff_cancel_right (env.disjoint n)
  have hhandles : Function.update (Function.update s.handles env.address (some h)) env.address
      none = s.handles := by
    rw [Function.update_idem, ← env.address_fresh, Function.update_eq_self]
  rw [Process.deleteHandle, hat]
  simp only [Process.nativeHandleClose_eq, hn, Int.toNat_natCast, map_slots_eq hslots,
    Process.put, hfds, hhandles]

/-! ### Where an import fails -/

variable {r : ℕ} {raw : NativeHandle}

/-- The import of a handle that is a valid one. -/
theorem importIn_of_handleCast (env : ImportEnv) (hr : s.handles r = some raw)
    (hcast : l.handleCast handleTypeRaw raw = true) :
    importIn l env a r s =
      match makeImported l env a raw s with
      | (false, s) => (.error .noResources, s)
      | (true, s) =>
        match env.mmap with
        | none =>
          let s := s.modify a fun h => { h with data := h.data.setPtr l.attrBase (-1) }
          (.error .noResources, s.deleteHandle a)
        | some address =>
          let s := s.modify a fun h =>
            { h with
              data := (((h.data.setPtr l.attrBase address).set l.importPid env.pid).setPtr l.base
                0#64).set l.cpuWrite 0#32 }
          (.ok a, { s with pool := insert a s.pool }) := by
  rw [importIn, hr]
  simp only [hcast, Bool.not_true, Bool.false_eq_true, if_false]

/-- A clone that is complete: the words behind the descriptors are copied, and the type is
overwritten. -/
theorem makeImported_of_some (env : FreshEnv s) {mem : Words} (hmem : env.create = some mem)
    (hc : cloneFds env.toImportEnv mem privateHandleNumFds = some data) :
    makeImported l env.toImportEnv env.address raw s =
      (true, { s.put env.address (some ⟨12, privateHandleNumFds, l.numInts,
          (copyInts raw data l.numInts).set l.type handleTypeImported⟩) with
        fds := s.fds ∪ (descriptors env.toImportEnv privateHandleNumFds).toFinset }) := by
  have hput : (s.put env.address (some ⟨12, 0, l.numInts, mem⟩)).handles env.address =
      some ⟨12, 0, l.numInts, mem⟩ := Function.update_self ..
  have hloop := cloneLoop_of_some env.dup_ne hput hc
  rw [Process.put_put, zero_add] at hloop
  rw [makeImported, hmem]
  dsimp only
  rw [hloop]
  simp only [Process.modify, Process.put, Function.update_self, Option.map_some,
    Function.update_idem]

/-- Nothing is written to the slots of the descriptors once they are duplicated. -/
theorem copied_slots (hc : ∀ j < privateHandleNumFds, env.dup j = some (data j))
    (address : BitVec 64) {j : ℕ} (hj : j < privateHandleNumFds) :
    env.dup j = some ((((copyInts raw data l.numInts).set l.type handleTypeImported).setPtr
      l.attrBase address) j) := by
  have htype := l.three_le l.type (by simp)
  have hattr := l.le l.attrBase (by simp)
  rw [Words.setPtr_of_ne _ _ (by omega) (by omega), Words.set_of_ne _ _ (by omega), copyInts_apply,
    if_neg (by omega)]
  exact hc j hj

/-- **Wherever an import fails**, it closes what it duplicated until then, and leaves nothing
behind. -/
theorem importIn_of_failsAt (env : FreshEnv s) (hr : s.handles r = some raw)
    (hcast : l.handleCast handleTypeRaw raw = true) {p : FailurePoint}
    (hp : FailsAt env.toImportEnv p) :
    importIn l env.toImportEnv env.address r s =
      (.error .noResources,
        { s with closed := s.closed ++ descriptors env.toImportEnv p.dups }) := by
  rw [importIn_of_handleCast env.toImportEnv hr hcast]
  cases p with
  | create =>
    have hcreate : env.create = none := hp
    rw [makeImported, hcreate]
    simp [FailurePoint.dups, descriptors]
  | dup i =>
    obtain ⟨hcreate, hlt, hbefore, hnone⟩ := hp
    obtain ⟨mem, hmem⟩ := Option.isSome_iff_exists.mp hcreate
    obtain ⟨slots, hslots⟩ := exists_cloneFds mem hbefore
    have hput : (s.put env.address (some ⟨12, 0, l.numInts, mem⟩)).handles env.address =
        some ⟨12, 0, l.numInts, mem⟩ := Function.update_self ..
    have hloop := cloneLoop_of_none env.dup_ne hput hslots hnone hlt
    have hend := deleteHandle_eq env (n := i)
      (h := ⟨12, i, l.numInts, slots.set i (-1)⟩) rfl fun j hj => by
        show env.dup j = some (slots.set i (-1) j)
        rw [Words.set_of_ne _ _ hj.ne]
        exact cloneFds_apply hslots hj
    rw [Process.put_put, zero_add] at hloop
    rw [makeImported, hmem]
    dsimp only
    rw [hloop]
    exact congrArg (Prod.mk _) hend
  | mmap =>
    obtain ⟨hcreate, hall, hmap⟩ := hp
    obtain ⟨mem, hmem⟩ := Option.isSome_iff_exists.mp hcreate
    obtain ⟨slots, hslots⟩ := exists_cloneFds mem hall
    rw [makeImported_of_some env hmem hslots]
    dsimp only
    rw [hmap]
    have hend := deleteHandle_eq env (n := privateHandleNumFds)
      (h := ⟨12, privateHandleNumFds, l.numInts, ((copyInts raw slots l.numInts).set l.type
        handleTypeImported).setPtr l.attrBase (-1)⟩) rfl fun j hj =>
        copied_slots (fun j hj => cloneFds_apply hslots hj) (-1) hj
    refine congrArg (Prod.mk _) (Eq.trans ?_ hend)
    simp only [Process.modify, Process.put, Function.update_self, Option.map_some,
      Function.update_idem]

/-- A clone that is complete, as a value. -/
theorem makeImportedHandle_of_some {mem : Words} (hmem : env.create = some mem)
    (hc : cloneFds env mem privateHandleNumFds = some data) :
    makeImportedHandle l env raw = some ⟨12, privateHandleNumFds, l.numInts,
      (copyInts raw data l.numInts).set l.type handleTypeImported⟩ := by
  rw [makeImportedHandle, hmem, Option.bind_eq_bind, Option.bind_some, hc]
  rfl

/-- **An import that succeeds** leaves the handle of `importBuffer` in its block, with its
descriptors open, and registers it. -/
theorem importIn_of_ok (env : FreshEnv s) (hr : s.handles r = some raw) {h : NativeHandle}
    (hi : importBuffer l env.toImportEnv raw = .ok h) :
    importIn l env.toImportEnv env.address r s =
      (.ok env.address, { s.put env.address (some h) with
        fds := s.fds ∪ (descriptors env.toImportEnv privateHandleNumFds).toFinset
        pool := insert env.address s.pool }) := by
  unfold importBuffer at hi
  split_ifs at hi with hcast
  have hcast' : l.handleCast handleTypeRaw raw = true := by simpa using hcast
  cases hmem : env.create with
  | none =>
    rw [makeImportedHandle, hmem] at hi
    cases hi
  | some mem =>
    cases hc : cloneFds env.toImportEnv mem privateHandleNumFds with
    | none =>
      rw [makeImportedHandle, hmem, Option.bind_eq_bind, Option.bind_some, hc] at hi
      cases hi
    | some slots =>
      rw [makeImportedHandle_of_some hmem hc] at hi
      rw [importIn_of_handleCast env.toImportEnv hr hcast', makeImported_of_some env hmem hc]
      cases hmap : env.mmap with
      | none =>
        rw [hmap] at hi
        cases hi
      | some address =>
        rw [hmap] at hi
        cases hi
        simp only [Process.modify, Process.put, Function.update_self, Option.map_some,
          Function.update_idem]

/-- The import of a valid handle fails somewhere, or succeeds. -/
theorem exists_failsAt_or_ok (env : ImportEnv) (hcast : l.handleCast handleTypeRaw raw = true) :
    (∃ p, FailsAt env p) ∨ ∃ h, importBuffer l env raw = .ok h := by
  by_cases hcreate : env.create.isSome = true
  · by_cases hall : ∀ j < privateHandleNumFds, (env.dup j).isSome = true
    · cases hmap : env.mmap with
      | none => exact Or.inl ⟨.mmap, hcreate, hall, hmap⟩
      | some address =>
        obtain ⟨mem, hmem⟩ := Option.isSome_iff_exists.mp hcreate
        obtain ⟨slots, hslots⟩ := exists_cloneFds mem hall
        rw [importBuffer, makeImportedHandle_of_some hmem hslots, hmap, hcast]
        exact Or.inr ⟨_, rfl⟩
    · -- the first descriptor that is not duplicated
      have hex : ∃ j, j < privateHandleNumFds ∧ env.dup j = none := by
        by_contra! hno
        exact hall fun j hj => Option.isSome_iff_ne_none.mpr (hno j hj)
      refine Or.inl ⟨.dup (Nat.find hex), hcreate, (Nat.find_spec hex).1, fun j hj => ?_,
        (Nat.find_spec hex).2⟩
      have hbefore := Nat.find_min hex hj
      refine Option.isSome_iff_ne_none.mpr fun hnone => hbefore ⟨?_, hnone⟩
      exact hj.trans (Nat.find_spec hex).1
  · exact Or.inl ⟨.create, Option.not_isSome_iff_eq_none.mp hcreate⟩

/-- **A failed import leaks nothing.** Wherever it fails, it returns an error, and has closed the
descriptors that it duplicated until then, all different and once each; the blocks (with the raw
handle), the open descriptors and the pool are as before. There is no other error for a valid
handle. -/
theorem importIn_fails (env : FreshEnv s) (hr : s.handles r = some raw)
    (hcast : l.handleCast handleTypeRaw raw = true) :
    (∀ p, FailsAt env.toImportEnv p →
      importIn l env.toImportEnv env.address r s =
          (.error .noResources,
            { s with closed := s.closed ++ descriptors env.toImportEnv p.dups }) ∧
        (descriptors env.toImportEnv p.dups).Nodup ∧
        (descriptors env.toImportEnv p.dups).length = p.dups) ∧
    ∀ e s', importIn l env.toImportEnv env.address r s = (.error e, s') →
      ∃ p, FailsAt env.toImportEnv p := by
  refine ⟨fun p hp => ⟨importIn_of_failsAt env hr hcast hp, env.nodup _, ?_⟩, ?_⟩
  · have hall : ∀ j < p.dups, (env.dup j).isSome = true := by
      cases p with
      | create => exact fun j hj => absurd hj (Nat.not_lt_zero j)
      | dup i => exact hp.2.2.1
      | mmap => exact hp.2.1
    obtain ⟨slots, hslots⟩ := exists_cloneFds (fun _ => 0#32) hall
    rw [← map_slots_eq fun j hj => cloneFds_apply hslots hj, List.length_map, List.length_range]
  · intro e s' he
    refine (exists_failsAt_or_ok env.toImportEnv hcast).resolve_right ?_
    rintro ⟨h, hi⟩
    rw [importIn_of_ok env hr hi] at he
    cases he

end

/-! ### An import whose last descriptor fails -/

/-- A process with the raw handle at 1 and its descriptors open. -/
def client : Process where
  handles := fun a => if a = 1 then some rawPadded else none
  fds := {7#32, 8#32, 9#32}
  pool := ∅
  closed := []

/-- Two descriptors are to be had. -/
def twoDescriptors : FreshEnv client where
  create := some fun _ => 0xffffffff#32
  dup := fun i => if i < 2 then some (BitVec.ofNat 32 (10 + i)) else none
  mmap := some 0x7000#64
  pid := 42#32
  address := 2
  address_fresh := rfl
  dup_fresh i fd h := by
    have hi : i = 0 ∨ i = 1 := by
      by_contra hno
      rw [if_neg (by omega)] at h
      cases h
    rcases hi with rfl | rfl <;> cases h <;> decide
  dup_inj i j fd hi hj := by
    split_ifs at hi hj with h h'
    have heq := (Option.some.inj hi).trans (Option.some.inj hj).symm
    have hnat := congrArg BitVec.toNat heq
    rw [BitVec.toNat_ofNat, BitVec.toNat_ofNat] at hnat
    omega
  dup_ne i h := by
    have hi : i = 0 ∨ i = 1 := by
      by_contra hno
      rw [if_neg (by omega)] at h
      cases h
    rcases hi with rfl | rfl <;> exact absurd h (by decide)

/-- Both are closed again. -/
theorem importIn_fails_twoDescriptors :
    importIn .lp64 twoDescriptors.toImportEnv 2 1 client =
      (.error .noResources, { client with closed := [10#32, 11#32] }) :=
  ((importIn_fails twoDescriptors rfl (by decide)).1 (.dup 2)
    ⟨rfl, by decide, by decide, rfl⟩).1

end Mapper

end Gralloc
