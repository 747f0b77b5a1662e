import Gralloc.Sharing.Process

/-!
# What the handles of a process own

A handle owns the descriptors that it names, and its mappings (`Gralloc.Sharing.Handle.owns`). A
process is *sound* if what is open in it is what was open before it had any handles, and what its
handles own, each resource by one of them (`Gralloc.Sharing.Sound`); and if a handle is wired
to the files that it is about: its mappings are of the files behind its descriptors, and the
memory is mapped only where the end of the handle will unmap it (`Gralloc.Sharing.Wired`).

Every call of the mapper changes one handle, and what that handle owns
(`Gralloc.Sharing.ChangesAt`). A process that is changed in this way stays sound
(`Gralloc.Sharing.Sound.of_changesAt`), and its other handles are about the same buffers.
-/

namespace Gralloc

namespace Sharing

open Mapper Resource

/-! ### Owners -/

namespace Handle

/-- What a handle owns, with pages of some size. -/
def owns (pageSize : ℤ) (h : Handle) : List Res :=
  h.fds.toList.map .fd ++ h.mine.elim [] fun l =>
    (l.attrBase.toList.map fun m => .mapping m h.attrBytes) ++
      l.base.toList.map fun m => .mapping m (h.baseBytes pageSize)

variable {pageSize : ℤ} {h : Handle} {l : LocalFields}

theorem share_mem_owns : Res.fd h.fds.shareFd ∈ h.owns pageSize :=
  List.mem_append_left _ (by simp [Fds.toList])

theorem attr_mem_owns : Res.fd h.fds.shareAttrFd ∈ h.owns pageSize :=
  List.mem_append_left _ (by simp [Fds.toList])

theorem extend_mem_owns : Res.fd h.fds.amExtendFd ∈ h.owns pageSize :=
  List.mem_append_left _ (by simp [Fds.toList])

theorem attrBase_mem_owns (hl : h.mine = some l) {m : ℕ} (hm : l.attrBase = some m) :
    Res.mapping m h.attrBytes ∈ h.owns pageSize := by
  rw [owns, hl]
  simp [hm]

theorem base_mem_owns (hl : h.mine = some l) {m : ℕ} (hm : l.base = some m) :
    Res.mapping m (h.baseBytes pageSize) ∈ h.owns pageSize := by
  rw [owns, hl]
  simp [hm]

end Handle

/-- **A handle that was imported** by the process with a number: its metadata is mapped, and its
memory if it has its own and was locked. -/
structure WiredFields (pageSize : ℤ) (p : Process) (h : Handle) (l : LocalFields) : Prop where
  type : h.ints.type = .imported
  importPid : l.importPid = p.pid
  attrBase : ∃ m, l.attrBase = some m ∧
    p.files (.mapping m h.attrBytes) = p.files (.fd h.fds.shareAttrFd)
  base : ∀ m, l.base = some m → OwnMemory (h.toImportedHandle l) ∧
    p.files (.mapping m (h.baseBytes pageSize)) = p.files (.fd h.fds.shareFd)

/-- **A handle is wired** to the files of a buffer. -/
structure Wired (pageSize : ℤ) (p : Process) (h : Handle) : Prop where
  share : p.files (.fd h.fds.shareFd) ≠ none
  attr : p.files (.fd h.fds.shareAttrFd) ≠ none
  extend : p.files (.fd h.fds.amExtendFd) = p.files (.fd h.fds.shareFd)
  mine : ∀ l, h.mine = some l → WiredFields pageSize p h l

/-- **What is open in a process** is what was, and what its handles own. -/
structure Sound (pageSize : ℤ) (p₀ p : Process) : Prop where
  pid : p.pid = p₀.pid
  owned : Owned (Handle.owns pageSize) p.handles {r | p.files r ≠ none ∧ p₀.files r = none}
  kept : ∀ r, p₀.files r ≠ none → p.files r = p₀.files r
  wired : ∀ a h, p.handles a = some h → Wired pageSize p h
  nodup : p.pool.Nodup
  mem_pool_iff : ∀ a, a ∈ p.pool ↔ ∃ h, p.handles a = some h ∧ h.mine.isSome = true

/-- What a handle is about: the files of its buffer, and what is said of it. -/
structure Description where
  share : Option File
  attr : Option File
  ints : Integers

def describe (p : Process) (h : Handle) : Description where
  share := p.files (.fd h.fds.shareFd)
  attr := p.files (.fd h.fds.shareAttrFd)
  -- the type says how the handle was made, and nothing of the buffer
  ints := { h.ints with type := .raw }

/-- What a process owns at an address. -/
abbrev Process.ownsAt (pageSize : ℤ) (p : Process) (a : ℕ) : List Res :=
  ownedAt (Handle.owns pageSize) p.handles a

/-- **One handle is changed**, and what it owns. -/
structure ChangesAt (pageSize : ℤ) (p p' : Process) (a : ℕ) (o : Option Handle) : Prop where
  pid : p'.pid = p.pid
  handles : p'.handles = Function.update p.handles a o
  same : ∀ r, r ∉ p.ownsAt pageSize a → r ∉ o.elim [] (Handle.owns pageSize) →
    p'.files r = p.files r
  fresh : ∀ r ∈ o.elim [] (Handle.owns pageSize), r ∈ p.ownsAt pageSize a ∨ p.files r = none
  opened : ∀ r ∈ o.elim [] (Handle.owns pageSize), p'.files r ≠ none
  closed : ∀ r ∈ p.ownsAt pageSize a, r ∉ o.elim [] (Handle.owns pageSize) → p'.files r = none
  nodup : (o.elim [] (Handle.owns pageSize)).Nodup
  wired : ∀ h, o = some h → Wired pageSize p' h
  pool_nodup : p'.pool.Nodup
  mem_pool_iff : ∀ b, b ∈ p'.pool ↔
    if b = a then ∃ h, o = some h ∧ h.mine.isSome = true else b ∈ p.pool

section

variable {pageSize : ℤ} {p₀ p p' : Process} {a : ℕ} {o : Option Handle} {h : Handle}

/-- What is owned is open. -/
theorem Sound.files_ne_none (hs : Sound pageSize p₀ p) {r : Res}
    (hr : r ∈ p.ownsAt pageSize a) : p.files r ≠ none :=
  (hs.owned.mem_held hr).1

/-- **A handle stays wired** as long as nothing happens to what it owns. -/
theorem Wired.congr (hw : Wired pageSize p h) (hpid : p'.pid = p.pid)
    (hfiles : ∀ r ∈ h.owns pageSize, p'.files r = p.files r) : Wired pageSize p' h := by
  have hshare := hfiles _ Handle.share_mem_owns
  have hattr := hfiles _ Handle.attr_mem_owns
  refine ⟨hshare ▸ hw.share, hattr ▸ hw.attr, ?_, fun l hl => ?_⟩
  · rw [hfiles _ Handle.extend_mem_owns, hshare, hw.extend]
  · obtain ⟨htype, himport, ⟨m, hm, hmap⟩, hbase⟩ := hw.mine l hl
    refine ⟨htype, himport.trans hpid.symm, ⟨m, hm, ?_⟩, fun b hb => ⟨(hbase b hb).1, ?_⟩⟩
    · rw [hfiles _ (Handle.attrBase_mem_owns hl hm), hattr, hmap]
    · rw [hfiles _ (Handle.base_mem_owns hl hb), hshare, (hbase b hb).2]

/-- What the other handles own is as it was. -/
theorem ChangesAt.files_eq (hc : ChangesAt pageSize p p' a o) (hs : Sound pageSize p₀ p) {b : ℕ}
    (hb : b ≠ a) {r : Res} (hr : r ∈ p.ownsAt pageSize b) : p'.files r = p.files r := by
  have hold : r ∉ p.ownsAt pageSize a := fun ha => hb (hs.owned.eq_of_mem b a r hr ha)
  refine hc.same r hold fun hnew => ?_
  rcases hc.fresh r hnew with ha | hnone
  · exact hold ha
  · exact hs.files_ne_none hr hnone

/-- **The other handles** are about the same buffers. -/
theorem ChangesAt.describe_eq (hc : ChangesAt pageSize p p' a o) (hs : Sound pageSize p₀ p)
    {b : ℕ} (hb : b ≠ a) (hh : p.handles b = some h) : describe p' h = describe p h := by
  have hfiles (r : Res) (hr : r ∈ h.owns pageSize) : p'.files r = p.files r :=
    hc.files_eq hs hb (by rwa [Process.ownsAt, ownedAt_of_some hh])
  rw [describe, describe, hfiles _ Handle.share_mem_owns, hfiles _ Handle.attr_mem_owns]

/-- **A sound process stays sound.** -/
theorem Sound.of_changesAt (hs : Sound pageSize p₀ p) (hc : ChangesAt pageSize p p' a o) :
    Sound pageSize p₀ p' := by
  have hzero : ∀ r, p₀.files r ≠ none → r ∉ p.ownsAt pageSize a ∧
      r ∉ o.elim [] (Handle.owns pageSize) := by
    intro r hr
    have hold : r ∉ p.ownsAt pageSize a := fun ha => hr (hs.owned.mem_held ha).2
    refine ⟨hold, fun hnew => ?_⟩
    rcases hc.fresh r hnew with ha | hnone
    · exact hold ha
    · exact hr ((hs.kept r hr).symm.trans hnone)
  refine ⟨hc.pid.trans hs.pid, ?_, fun r hr => ?_, fun b h hb => ?_, hc.pool_nodup, fun b => ?_⟩
  · rw [hc.handles]
    refine hs.owned.replace a hc.nodup (fun r hr => ?_) fun r => ?_
    · exact (hc.fresh r hr).imp_right fun hnone hheld => hheld.1 hnone
    · constructor
      · rintro ⟨hopen, hnone⟩
        by_cases hnew : r ∈ o.elim [] (Handle.owns pageSize)
        · exact Or.inl hnew
        · have hold : r ∉ p.ownsAt pageSize a := fun ha => hopen (hc.closed r ha hnew)
          exact Or.inr ⟨⟨hc.same r hold hnew ▸ hopen, hnone⟩, hold⟩
      · rintro (hnew | ⟨⟨hopen, hnone⟩, hold⟩)
        · exact ⟨hc.opened r hnew, by_contra fun hr => (hzero r hr).2 hnew⟩
        · have hnew : r ∉ o.elim [] (Handle.owns pageSize) := fun hnew =>
            (hc.fresh r hnew).elim hold hopen
          exact ⟨hc.same r hold hnew ▸ hopen, hnone⟩
  · rw [hc.same r (hzero r hr).1 (hzero r hr).2, hs.kept r hr]
  · rw [hc.handles] at hb
    rcases eq_or_ne b a with rfl | hne
    · rw [Function.update_self] at hb
      exact hc.wired h hb
    · rw [Function.update_of_ne hne] at hb
      refine (hs.wired b h hb).congr hc.pid fun r hr => hc.files_eq hs hne ?_
      rwa [Process.ownsAt, ownedAt_of_some hb]
  · rw [hc.mem_pool_iff b, hc.handles]
    rcases eq_or_ne b a with rfl | hne
    · rw [if_pos rfl, Function.update_self]
    · rw [if_neg hne, Function.update_of_ne hne, hs.mem_pool_iff b]

end

end Sharing

end Gralloc
