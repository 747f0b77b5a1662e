import Gralloc.Sharing.Sound

/-!
# How handles come and go

A handle is received, or imported from one that was, and ends. Each of these calls either leaves
a sound process as it is, or changes one handle and what it owns
(`Gralloc.Sharing.ChangesAt`), provided that the kernel and the C library give out what is not
in use.

An import that fails has closed what it opened. The end of a handle leaves nothing of it: the
memory is unmapped, since a handle that has it mapped is of a buffer with its own memory, and was
imported by this process (`Gralloc.Sharing.freeBuffer_eq`).
-/

namespace Gralloc

namespace Sharing

open Mapper Resource

/-! ### What is not in use -/

/-- Descriptors that are not in use. -/
structure Fds.Fresh (fds : Fds) (p : Process) : Prop where
  nodup : fds.toList.Nodup
  unused : ∀ n ∈ fds.toList, p.files (.fd n) = none

/-- An import is given what is not in use. -/
structure ImportAnswers.Fresh (ans : ImportAnswers) (p : Process) : Prop where
  block : ∀ b, ans.block = some b → p.handles b.1 = none
  dup : ∀ i n, ans.dup i = some n → p.files (.fd n) = none
  dup_inj : ∀ i j n, ans.dup i = some n → ans.dup j = some n → i = j
  mmap : ∀ m size, ans.mmap = some m → p.files (.mapping m size) = none

/-- A lock is given an address that is not in use. -/
def LockAnswers.Fresh (k : LockAnswers) (p : Process) : Prop :=
  ∀ m size, k.mmap = .ok m → p.files (.mapping m size) = none

/-- The descriptors of a handle, duplicated. -/
def Process.cloned (p : Process) (src dst : Fds) : Process :=
  ((p.dup src.shareFd dst.shareFd).dup src.shareAttrFd dst.shareAttrFd).dup src.amExtendFd
    dst.amExtendFd

/-! ### Descriptors -/

section

variable {p : Process} {src dst : Fds}

/-- Processes that differ in nothing. -/
theorem Process.ext_files {p p' : Process} (hpid : p'.pid = p.pid)
    (hhandles : p'.handles = p.handles) (hpool : p'.pool = p.pool)
    (hfiles : ∀ r, p'.files r = p.files r) : p' = p := by
  obtain ⟨pid, handles, pool, files⟩ := p
  obtain ⟨pid', handles', pool', files'⟩ := p'
  cases hpid
  cases hhandles
  cases hpool
  rw [show files' = files from funext hfiles]

/-- Closing some descriptors. -/
theorem Process.files_foldl_close (p : Process) (l : List ℕ) (r : Res) :
    (l.foldl Process.close p).files r = if ∃ n ∈ l, r = .fd n then none else p.files r := by
  induction l generalizing p with
  | nil => simp
  | cons n l ih =>
    rw [List.foldl_cons, ih]
    simp only [Process.close]
    by_cases hl : ∃ m ∈ l, r = .fd m
    · rw [if_pos hl, if_pos (by obtain ⟨m, hm, hr⟩ := hl; exact ⟨m, by simp [hm], hr⟩)]
    · rw [if_neg hl]
      by_cases hr : r = .fd n
      · rw [hr, Function.update_self, if_pos ⟨n, by simp, rfl⟩]
      · rw [Function.update_of_ne hr, if_neg]
        rintro ⟨m, hm, hrm⟩
        rcases List.mem_cons.mp hm with rfl | hm
        · exact hr hrm
        · exact hl ⟨m, hm, hrm⟩

theorem Process.foldl_close (p : Process) (l : List ℕ) :
    (l.foldl Process.close p).pid = p.pid ∧ (l.foldl Process.close p).handles = p.handles ∧
      (l.foldl Process.close p).pool = p.pool := by
  induction l generalizing p with
  | nil => exact ⟨rfl, rfl, rfl⟩
  | cons n l ih => exact ih (p.close n)

/-- Nothing else has changed. -/
theorem Process.files_cloned_of_notMem {r : Res} (hr : ∀ n ∈ dst.toList, r ≠ .fd n) :
    (p.cloned src dst).files r = p.files r := by
  simp only [Fds.toList, List.forall_mem_cons] at hr
  obtain ⟨h₀, h₁, h₂, -⟩ := hr
  simp only [Process.cloned, Process.dup, Function.update_of_ne h₀, Function.update_of_ne h₁,
    Function.update_of_ne h₂]

/-- **The duplicates** are of the same files: the descriptors are not overwritten. -/
theorem Process.files_cloned (hf : dst.Fresh p)
    (hattr : p.files (.fd src.shareAttrFd) ≠ none)
    (hextend : p.files (.fd src.amExtendFd) ≠ none) :
    (p.cloned src dst).files (.fd dst.shareFd) = p.files (.fd src.shareFd) ∧
      (p.cloned src dst).files (.fd dst.shareAttrFd) = p.files (.fd src.shareAttrFd) ∧
      (p.cloned src dst).files (.fd dst.amExtendFd) = p.files (.fd src.amExtendFd) := by
  have hne {n m : ℕ} (hn : p.files (.fd n) ≠ none) (hm : m ∈ dst.toList) :
      Res.fd n ≠ Res.fd m := by
    intro heq
    rw [heq] at hn
    exact hn (hf.unused m hm)
  have h₀ : dst.shareFd ∈ dst.toList := by simp [Fds.toList]
  have h₁ : dst.shareAttrFd ∈ dst.toList := by simp [Fds.toList]
  have hnodup := hf.nodup
  simp only [Fds.toList, List.nodup_cons, List.mem_cons, List.not_mem_nil, or_false, not_or]
    at hnodup
  obtain ⟨⟨h01, h02⟩, h12, -⟩ := hnodup
  have hfd {n m : ℕ} (h : n ≠ m) : Res.fd n ≠ Res.fd m := fun heq => h (Res.fd.inj heq)
  simp only [Process.cloned, Process.dup]
  refine ⟨?_, ?_, ?_⟩
  · rw [Function.update_of_ne (hfd h02), Function.update_of_ne (hfd h01), Function.update_self]
  · rw [Function.update_of_ne (hfd h12), Function.update_self, Function.update_of_ne (hne hattr h₀)]
  · rw [Function.update_self, Function.update_of_ne (hne hextend h₁),
      Function.update_of_ne (hne hextend h₀)]

/-- **Duplicates that are closed again** leave no trace. -/
theorem Process.close_cloned (hf : dst.Fresh p) :
    dst.toList.foldl Process.close (p.cloned src dst) = p := by
  obtain ⟨hpid, hhandles, hpool⟩ := Process.foldl_close (p.cloned src dst) dst.toList
  refine Process.ext_files hpid hhandles hpool fun r => ?_
  rw [Process.files_foldl_close]
  split_ifs with hr
  · obtain ⟨n, hn, rfl⟩ := hr
    exact (hf.unused n hn).symm
  · exact Process.files_cloned_of_notMem fun n hn heq => hr ⟨n, hn, heq⟩

/-- **Everything that duplicating the descriptors can do.** -/
theorem cloneFds_cases {ans : ImportAnswers} (hf : ans.Fresh p) (src : Fds) :
    cloneFds p src ans.dup = .error p ∨
      ∃ dst : Fds, dst.Fresh p ∧ cloneFds p src ans.dup = .ok (dst, p.cloned src dst) := by
  unfold cloneFds
  cases h₀ : ans.dup 0 with
  | none => exact Or.inl rfl
  | some n₀ =>
    have hn₀ := hf.dup 0 n₀ h₀
    cases h₁ : ans.dup 1 with
    | none =>
      refine Or.inl (congrArg Except.error (Process.ext_files rfl rfl rfl fun r => ?_))
      simp only [Process.close, Process.dup, Function.update_idem]
      rw [← hn₀, Function.update_eq_self]
    | some n₁ =>
      have hn₁ := hf.dup 1 n₁ h₁
      have h01 : n₀ ≠ n₁ := by
        rintro rfl
        cases hf.dup_inj 0 1 n₀ h₀ h₁
      cases h₂ : ans.dup 2 with
      | none =>
        refine Or.inl (congrArg Except.error (Process.ext_files rfl rfl rfl fun r => ?_))
        simp only [Process.close, Process.dup]
        by_cases hr₁ : r = .fd n₁
        · rw [hr₁, Function.update_self, hn₁]
        · by_cases hr₀ : r = .fd n₀
          · rw [Function.update_of_ne hr₁, hr₀, Function.update_self, hn₀]
          · rw [Function.update_of_ne hr₁, Function.update_of_ne hr₀, Function.update_of_ne hr₁,
              Function.update_of_ne hr₀]
      | some n₂ =>
        have hn₂ := hf.dup 2 n₂ h₂
        refine Or.inr ⟨⟨n₀, n₁, n₂⟩, ⟨?_, ?_⟩, rfl⟩
        · have h02 : n₀ ≠ n₂ := by
            rintro rfl
            cases hf.dup_inj 0 2 n₀ h₀ h₂
          have h12 : n₁ ≠ n₂ := by
            rintro rfl
            cases hf.dup_inj 1 2 n₁ h₁ h₂
          simp [Fds.toList, h01, h02, h12]
        · simp only [Fds.toList, List.forall_mem_cons, List.not_mem_nil, false_implies,
            implies_true, and_true]
          exact ⟨hn₀, hn₁, hn₂⟩

end

/-! ### Importing -/

/-- What is new in a handle that was imported. -/
structure Parts where
  fds : Fds
  lockCount : ℤ
  invalidWriteLocks : Bool
  attrBase : ℕ

/-- Parts that are not in use. -/
structure Parts.Fresh (x : Parts) (p : Process) : Prop where
  fds : x.fds.Fresh p
  attrBase : ∀ size, p.files (.mapping x.attrBase size) = none

/-- **A handle that was imported**, from the handle `h`. -/
def importedHandle (p : Process) (h : Handle) (x : Parts) : Handle where
  ints := { h.ints with type := .imported }
  fds := x.fds
  mine := some
    { lockCount := x.lockCount
      invalidWriteLocks := x.invalidWriteLocks
      cpuWrite := false
      importPid := p.pid
      base := none
      attrBase := some x.attrBase }

/-- The process with another imported handle. -/
def Process.withImported (p : Process) (h : Handle) (a : ℕ) (x : Parts) : Process :=
  (((p.cloned h.fds x.fds).mmap x.fds.shareAttrFd h.attrBytes x.attrBase).put a
    (some (importedHandle p h x))).register a

section

variable {pageSize : ℤ} {p₀ p : Process} {h : Handle} {a : ℕ} {x : Parts}

/-- **Everything that an import can do**: fail and leave the process as it was, or add a handle
with new parts. -/
theorem importBuffer_cases {ans : ImportAnswers} (hf : ans.Fresh p) (raw : ℕ) :
    (∃ e, importBuffer p raw ans = (.error e, p)) ∨
      ∃ h a x, p.handles raw = some h ∧ p.handles a = none ∧ x.Fresh p ∧
        importBuffer p raw ans = (.ok a, p.withImported h a x) := by
  unfold importBuffer
  cases hraw : p.handles raw with
  | none => exact Or.inl ⟨_, rfl⟩
  | some h =>
    cases hblock : ans.block with
    | none => exact Or.inl ⟨_, rfl⟩
    | some b =>
      obtain ⟨a, lockCount, invalidWriteLocks⟩ := b
      rcases cloneFds_cases hf h.fds with herr | ⟨fds, hfresh, hok⟩
      · exact Or.inl ⟨.noResources, by simp only [herr]⟩
      · cases hmmap : ans.mmap with
        | none => exact Or.inl ⟨.noResources, by simp only [hok, Process.close_cloned hfresh]⟩
        | some m =>
          exact Or.inr ⟨h, a, ⟨fds, lockCount, invalidWriteLocks, m⟩, rfl, hf.block _ hblock,
            ⟨hfresh, fun size => hf.mmap m size hmmap⟩, by simp only [hok]; rfl⟩

theorem owns_importedHandle :
    (importedHandle p h x).owns pageSize =
      x.fds.toList.map .fd ++ [.mapping x.attrBase h.attrBytes] := rfl

/-- What is open after an import: the duplicates and the mapping, besides what was. -/
structure ImportedFiles (p p' : Process) (h : Handle) (x : Parts) : Prop where
  share : p'.files (.fd x.fds.shareFd) = p.files (.fd h.fds.shareFd)
  attr : p'.files (.fd x.fds.shareAttrFd) = p.files (.fd h.fds.shareAttrFd)
  extend : p'.files (.fd x.fds.amExtendFd) = p.files (.fd h.fds.amExtendFd)
  mapping : p'.files (.mapping x.attrBase h.attrBytes) = p.files (.fd h.fds.shareAttrFd)
  same : ∀ r, r ∉ x.fds.toList.map Res.fd ++ [.mapping x.attrBase h.attrBytes] →
    p'.files r = p.files r

theorem importedFiles (hw : Wired pageSize p h) (hx : x.Fresh p) :
    ImportedFiles p (p.withImported h a x) h x := by
  obtain ⟨hshare, hattr, hextend⟩ :=
    Process.files_cloned hx.fds hw.attr (hw.extend ▸ hw.share)
  have hfd (n : ℕ) : Res.fd n ≠ Res.mapping x.attrBase h.attrBytes := Res.noConfusion
  have hfiles : (p.withImported h a x).files =
      Function.update (p.cloned h.fds x.fds).files (.mapping x.attrBase h.attrBytes)
        ((p.cloned h.fds x.fds).files (.fd x.fds.shareAttrFd)) := by
    unfold Process.withImported Process.register
    split_ifs <;> rfl
  refine ⟨?_, ?_, ?_, ?_, fun r hr => ?_⟩
  · rw [hfiles, Function.update_of_ne (hfd _), hshare]
  · rw [hfiles, Function.update_of_ne (hfd _), hattr]
  · rw [hfiles, Function.update_of_ne (hfd _), hextend]
  · rw [hfiles, Function.update_self, hattr]
  · rw [List.mem_append, not_or, List.mem_singleton] at hr
    rw [hfiles, Function.update_of_ne hr.2]
    refine Process.files_cloned_of_notMem fun n hn heq => hr.1 ?_
    exact heq ▸ List.mem_map_of_mem hn

/-- A handle that is added to the pool. -/
theorem mem_register {b : ℕ} : b ∈ (p.register a).pool ↔ b = a ∨ b ∈ p.pool := by
  unfold Process.register
  split_ifs with ha
  · exact ⟨Or.inr, fun hb => hb.elim (fun heq => heq ▸ ha) id⟩
  · exact List.mem_cons

theorem nodup_register (hp : p.pool.Nodup) : (p.register a).pool.Nodup := by
  unfold Process.register
  split_ifs with ha
  · exact hp
  · exact List.nodup_cons.mpr ⟨ha, hp⟩

/-- **An import adds a handle**, about the same buffer. -/
theorem changesAt_withImported (hs : Sound pageSize p₀ p) (hw : Wired pageSize p h)
    (ha : p.handles a = none) (hx : x.Fresh p) :
    ChangesAt pageSize p (p.withImported h a x) a (some (importedHandle p h x)) ∧
      describe (p.withImported h a x) (importedHandle p h x) = describe p h := by
  have hfiles := importedFiles (a := a) hw hx
  have hnone : p.ownsAt pageSize a = [] := ownedAt_of_none ha
  have hfresh : ∀ r ∈ (importedHandle p h x).owns pageSize, p.files r = none := by
    intro r hr
    rw [owns_importedHandle, List.mem_append, List.mem_map, List.mem_singleton] at hr
    rcases hr with ⟨n, hn, rfl⟩ | rfl
    · exact hx.fds.unused n hn
    · exact hx.attrBase _
  have hopened : ∀ r ∈ (importedHandle p h x).owns pageSize,
      (p.withImported h a x).files r ≠ none := by
    intro r hr
    rw [owns_importedHandle, List.mem_append, List.mem_singleton] at hr
    simp only [Fds.toList, List.map_cons, List.map_nil, List.mem_cons, List.not_mem_nil,
      or_false] at hr
    rcases hr with (rfl | rfl | rfl) | rfl
    · exact hfiles.share ▸ hw.share
    · exact hfiles.attr ▸ hw.attr
    · exact hfiles.extend ▸ hw.extend ▸ hw.share
    · exact hfiles.mapping ▸ hw.attr
  have hwired : Wired pageSize (p.withImported h a x) (importedHandle p h x) := by
    refine ⟨hfiles.share ▸ hw.share, hfiles.attr ▸ hw.attr, ?_, ?_⟩
    · exact hfiles.extend.trans (hw.extend.trans hfiles.share.symm)
    · rintro l ⟨⟩
      refine ⟨rfl, ?_, ⟨x.attrBase, rfl, hfiles.mapping.trans hfiles.attr.symm⟩, ?_⟩
      · unfold Process.withImported Process.register
        rfl
      · rintro m ⟨⟩
  refine ⟨⟨rfl, rfl, fun r _ hr => hfiles.same r hr, fun r hr => Or.inr (hfresh r hr), hopened,
    fun r hr => ?_, ?_, ?_, nodup_register hs.nodup, fun b => ?_⟩, ?_⟩
  · rw [hnone] at hr
    exact absurd hr List.not_mem_nil
  · rw [Option.elim_some, owns_importedHandle, List.nodup_append]
    refine ⟨hx.fds.nodup.map fun _ _ heq => Res.fd.inj heq, List.nodup_singleton _, ?_⟩
    intro r hr r' hr' heq
    obtain ⟨n, -, rfl⟩ := List.mem_map.mp hr
    rw [List.mem_singleton.mp hr'] at heq
    cases heq
  · rintro h' ⟨⟩
    exact hwired
  · show b ∈ (Process.register _ a).pool ↔ _
    rw [mem_register]
    split_ifs with hb
    · exact iff_of_true (Or.inl hb) ⟨_, rfl, rfl⟩
    · exact ⟨fun hb' => hb'.resolve_left hb, Or.inr⟩
  · rw [describe, describe, Description.mk.injEq]
    exact ⟨hfiles.share, hfiles.attr, rfl⟩

end

/-! ### Receiving -/

section

variable {pageSize : ℤ} {p₀ p : Process} {fds : Fds} {a : ℕ}

/-- **A handle that is received** is about the files that came with it. -/
theorem changesAt_receive (hs : Sound pageSize p₀ p) (ha : p.handles a = none)
    (hf : fds.Fresh p) (ints : Integers) (share attr : File) :
    ChangesAt pageSize p (p.receive a ints fds share attr) a (some ⟨ints, fds, none⟩) ∧
      describe (p.receive a ints fds share attr) ⟨ints, fds, none⟩ =
        ⟨some share, some attr, { ints with type := .raw }⟩ := by
  have howns : (⟨ints, fds, none⟩ : Handle).owns pageSize = fds.toList.map .fd :=
    List.append_nil _
  have hnodup := hf.nodup
  simp only [Fds.toList, List.nodup_cons, List.mem_cons, List.not_mem_nil, or_false, not_or]
    at hnodup
  obtain ⟨⟨h01, -⟩, h12, -⟩ := hnodup
  have hshare : (p.receive a ints fds share attr).files (.fd fds.shareFd) = some share :=
    if_pos (Or.inl rfl)
  have hextend : (p.receive a ints fds share attr).files (.fd fds.amExtendFd) = some share :=
    if_pos (Or.inr rfl)
  have hattr : (p.receive a ints fds share attr).files (.fd fds.shareAttrFd) = some attr := by
    refine (if_neg ?_).trans (if_pos rfl)
    rintro (heq | heq)
    · exact h01 (Res.fd.inj heq).symm
    · exact h12 (Res.fd.inj heq)
  refine ⟨⟨rfl, rfl, fun r _ hr => ?_, fun r hr => ?_, fun r hr => ?_, fun r hr => ?_, ?_, ?_,
    hs.nodup, fun b => ?_⟩, ?_⟩
  · simp only [Option.elim_some, howns, Fds.toList, List.map_cons, List.map_nil, List.mem_cons,
      List.not_mem_nil, or_false, not_or] at hr
    exact (if_neg (not_or.mpr ⟨hr.1, hr.2.2⟩)).trans (if_neg hr.2.1)
  · rw [Option.elim_some, howns] at hr
    obtain ⟨n, hn, rfl⟩ := List.mem_map.mp hr
    exact Or.inr (hf.unused n hn)
  · simp only [Option.elim_some, howns, Fds.toList, List.map_cons, List.map_nil, List.mem_cons,
      List.not_mem_nil, or_false] at hr
    rcases hr with rfl | rfl | rfl
    · rw [hshare]
      exact Option.some_ne_none _
    · rw [hattr]
      exact Option.some_ne_none _
    · rw [hextend]
      exact Option.some_ne_none _
  · rw [Process.ownsAt, ownedAt_of_none ha] at hr
    exact absurd hr List.not_mem_nil
  · rw [Option.elim_some, howns]
    exact hf.nodup.map fun _ _ heq => Res.fd.inj heq
  · rintro h ⟨⟩
    refine ⟨?_, ?_, hextend.trans hshare.symm, ?_⟩
    · rw [hshare]
      exact Option.some_ne_none _
    · rw [hattr]
      exact Option.some_ne_none _
    · rintro l ⟨⟩
  · show b ∈ p.pool ↔ _
    split_ifs with hb
    · rw [hb, hs.mem_pool_iff]
      refine iff_of_false ?_ ?_
      · rintro ⟨h, hh, -⟩
        rw [ha] at hh
        cases hh
      · rintro ⟨h, ⟨⟩, ⟨⟩⟩
    · exact Iff.rfl
  · rw [describe, Description.mk.injEq]
    exact ⟨hshare, hattr, rfl⟩

end

/-! ### The end of a handle -/

section

variable {pageSize : ℤ} {p₀ p : Process} {h : Handle} {l : LocalFields} {a : ℕ}

/-- **Memory of its own** is unmapped as it was mapped. -/
theorem allocatorUnmap_of_ownMemory {hnd : ImportedHandle} (ho : OwnMemory hnd) :
    (allocatorUnmap pageSize hnd).1 =
      some (if hnd.usage.isVideoDecoderReplace then pageSize else hnd.size) := by
  simp [allocatorUnmap, ho.needMmap, ho.ionDelayAlloc, ho.quarter, ho.oneSixteenth]

theorem Process.files_munmap (p : Process) (m : ℕ) (size : ℤ) (r : Res) :
    (p.munmap m size).files r = if r = .mapping m size then none else p.files r := by
  split_ifs with hr
  · rw [hr]
    exact Function.update_self ..
  · exact Function.update_of_ne hr ..

/-- The memory is unmapped, whatever it takes. -/
theorem unmapBuffer_eq (hw : WiredFields pageSize p h l) :
    unmapBuffer p pageSize h l =
      l.base.elim p fun m => p.munmap m (h.baseBytes pageSize) := by
  unfold unmapBuffer
  cases hm : l.base with
  | none => rfl
  | some m =>
    simp only [allocatorUnmap_of_ownMemory (hw.base m hm).1]
    rfl

/-- What is open after the end of a handle, without its descriptors. -/
theorem files_deleteHandle (p : Process) (a : ℕ) (h : Handle) (r : Res) :
    (deleteHandle p a h).files r =
      if r ∈ h.fds.toList.map Res.fd then none else p.files r := by
  refine (Process.files_foldl_close p h.fds.toList r).trans (if_congr ?_ rfl rfl)
  rw [List.mem_map]
  exact ⟨fun ⟨n, hn, hr⟩ => ⟨n, hn, hr.symm⟩, fun ⟨n, hn, hr⟩ => ⟨n, hn, hr.symm⟩⟩

/-- **The end of an imported handle** takes away what it owns, and nothing else. -/
theorem freeBuffer_eq (hs : Sound pageSize p₀ p) (ha : p.handles a = some h)
    (hl : h.mine = some l) :
    (freeBuffer p pageSize a).1 = .ok () ∧
      (freeBuffer p pageSize a).2 =
        { p with
          handles := Function.update p.handles a none
          pool := p.pool.erase a
          files := fun r => if r ∈ h.owns pageSize then none else p.files r } := by
  have hw := (hs.wired a h ha).mine l hl
  obtain ⟨m, hm, -⟩ := hw.attrBase
  have hcast : h.castImported = some l := by rw [Handle.castImported, if_pos hw.type, hl]
  have hw' : WiredFields pageSize (p.unregister a) h l :=
    ⟨hw.type, hw.importPid, hw.attrBase, hw.base⟩
  have hfree : freeBuffer p pageSize a = (.ok (), deleteHandle
      ((unmapBuffer (p.unregister a) pageSize h l).munmap m h.attrBytes) a h) := by
    simp only [freeBuffer, ha, hcast, unmapAttr, hm]
    rw [if_pos (show l.importPid = (p.unregister a).pid from hw.importPid)]
  rw [hfree]
  refine ⟨rfl, ?_⟩
  have hkept : ∀ q : Process, (deleteHandle (q.munmap m h.attrBytes) a h).pid = q.pid ∧
      (deleteHandle (q.munmap m h.attrBytes) a h).handles = Function.update q.handles a none ∧
      (deleteHandle (q.munmap m h.attrBytes) a h).pool = q.pool := by
    intro q
    obtain ⟨hpid, hhandles, hpool⟩ :=
      Process.foldl_close (q.munmap m h.attrBytes) h.fds.toList
    exact ⟨hpid, congrArg (fun f : ℕ → Option Handle => Function.update f a none) hhandles,
      hpool⟩
  have hmem (r : Res) : r ∈ h.owns pageSize ↔ r ∈ h.fds.toList.map Res.fd ∨
      r = .mapping m h.attrBytes ∨
        ∃ b, l.base = some b ∧ r = .mapping b (h.baseBytes pageSize) := by
    rw [Handle.owns, hl, Option.elim_some, List.mem_append, List.mem_append, hm,
      Option.toList_some, List.map_singleton, List.mem_singleton]
    cases l.base <;> simp
  rw [unmapBuffer_eq hw']
  cases hb : l.base with
  | none =>
    obtain ⟨hpid, hhandles, hpool⟩ := hkept (p.unregister a)
    refine Process.ext_files hpid hhandles hpool fun r => ?_
    simp only [Option.elim_none, files_deleteHandle, Process.files_munmap, hmem r, hb,
      reduceCtorEq, false_and, exists_false, or_false, ← ite_or]
    rfl
  | some b =>
    obtain ⟨hpid, hhandles, hpool⟩ :=
      hkept ((p.unregister a).munmap b (h.baseBytes pageSize))
    refine Process.ext_files hpid hhandles hpool fun r => ?_
    simp only [Option.elim_some, files_deleteHandle, Process.files_munmap, hmem r, hb,
      Option.some.injEq, exists_eq_left', ← ite_or]
    rfl

/-- A handle that ends, with all that it owns. -/
theorem changesAt_erase {p' : Process} (hs : Sound pageSize p₀ p) (ha : p.handles a = some h)
    (hpid : p'.pid = p.pid) (hhandles : p'.handles = Function.update p.handles a none)
    (hfiles : ∀ r, p'.files r = if r ∈ h.owns pageSize then none else p.files r)
    (hpool : p'.pool = p.pool.erase a) : ChangesAt pageSize p p' a none := by
  have howns : p.ownsAt pageSize a = h.owns pageSize := ownedAt_of_some ha
  refine ⟨hpid, hhandles, fun r hr _ => ?_, fun r hr => absurd hr List.not_mem_nil,
    fun r hr => absurd hr List.not_mem_nil, fun r hr _ => ?_, List.nodup_nil, ?_,
    hpool ▸ hs.nodup.erase a, fun b => ?_⟩
  · rw [hfiles, if_neg (howns ▸ hr)]
  · rw [hfiles, if_pos (howns ▸ hr)]
  · rintro h' ⟨⟩
  · rw [hpool, hs.nodup.mem_erase_iff]
    split_ifs with hb
    · refine iff_of_false (fun hb' => hb'.1 hb) ?_
      rintro ⟨h', ⟨⟩, -⟩
    · exact ⟨fun hb' => hb'.2, fun hb' => ⟨hb, hb'⟩⟩

theorem changesAt_freeBuffer (hs : Sound pageSize p₀ p) (ha : p.handles a = some h)
    (hl : h.mine = some l) : ChangesAt pageSize p (freeBuffer p pageSize a).2 a none := by
  rw [(freeBuffer_eq hs ha hl).2]
  exact changesAt_erase hs ha rfl rfl (fun _ => rfl) rfl

/-- **The end of a handle that was not imported here.** -/
theorem changesAt_closeHandle (hs : Sound pageSize p₀ p) (ha : p.handles a = some h)
    (hl : h.mine = none) : ChangesAt pageSize p (closeHandle p a) a none := by
  obtain ⟨hpid, hhandles, hpool⟩ := Process.foldl_close p h.fds.toList
  have heq : closeHandle p a = deleteHandle p a h := by rw [closeHandle, ha]
  have hmem : a ∉ p.pool := by
    rw [hs.mem_pool_iff]
    rintro ⟨h', ha', hsome⟩
    obtain rfl := Option.some.inj (ha.symm.trans ha')
    rw [hl] at hsome
    cases hsome
  rw [heq]
  refine changesAt_erase hs ha hpid
    (congrArg (fun f : ℕ → Option Handle => Function.update f a none) hhandles) (fun r => ?_) ?_
  · rw [files_deleteHandle, Handle.owns, hl, Option.elim_none, List.append_nil]
  · rw [List.erase_of_not_mem hmem]
    exact hpool

end

end Sharing

end Gralloc
