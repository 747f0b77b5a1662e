import Gralloc.Sharing.Calls
import Gralloc.Transition.Reach

/-!
# A handle from its import to its end

A lock may map the memory of a buffer, and so changes what its handle owns; an unlock only counts.
Both change one handle of a sound process, or none (`Gralloc.Sharing.lock_cases`,
`Gralloc.Sharing.unlock_cases`).

With this a handle can come and go without a trace: an import, any locks and unlocks of the handle
that was imported, whatever the kernel answers to them, and its end leave the process as it
was before the import (`Gralloc.Sharing.freeBuffer_of_reach`). Nobody has to unlock first.
-/

namespace Gralloc

namespace Sharing

open Mapper Resource Transition

/-! ### Locks -/

section

variable {pageSize : ℤ} {p₀ p : Process} {h : Handle} {l : LocalFields} {a : ℕ}

/-- **What a lock does to the mapping of the memory**: nothing, or it makes one, of a buffer with
its own memory. -/
theorem base_lockBuffer (k : Mapper.Kernel) (hnd : ImportedHandle) (pid : ℤ) (usage : Usage)
    (region : ARect) :
    (lockBuffer k hnd pid usage region).2.1.importPid = hnd.importPid ∧
      ((lockBuffer k hnd pid usage region).2.1.base = hnd.base ∨
        hnd.base = none ∧ OwnMemory hnd ∧ ∃ m size, k.mmap size = .ok m ∧
          (lockBuffer k hnd pid usage region).2.1.base = some m) := by
  rcases lockBuffer_cases k hnd pid usage region with ⟨-, h⟩ | ⟨-, -, e, h⟩ | ⟨-, -, m, hm, h⟩
  · rw [h]
    exact ⟨rfl, Or.inl rfl⟩
  · rw [h]
    exact ⟨rfl, Or.inl rfl⟩
  · rw [h]
    refine ⟨rfl, ?_⟩
    show m.base = hnd.base ∨ _
    have hmap (size : ℤ) (hb : mapBytes k hnd size = .ok m) :
        ∃ m' size, k.mmap size = .ok m' ∧ m.base = some m' := by
      unfold mapBytes at hb
      cases hk : k.mmap size with
      | error e =>
        rw [hk] at hb
        cases hb
      | ok m' =>
        rw [hk] at hb
        exact ⟨m', size, hk, by rw [← Except.ok.inj hb]⟩
    simp only [maliMapBuffer, allocatorMap] at hm
    split_ifs at hm with hbase hdelay hneed hquarter hreplace
    · exact Or.inl (by rw [← Except.ok.inj hm])
    · exact Or.inl (by rw [← Except.ok.inj hm])
    · exact Or.inl (by rw [← Except.ok.inj hm])
    · refine Or.inr ⟨Option.isNone_iff_eq_none.mp hbase, ?_, hmap _ hm⟩
      simp only [Bool.or_eq_true, not_or, Bool.not_eq_true] at hquarter
      exact ⟨not_not.mp hdelay, by simpa using hneed, hquarter.1, hquarter.2⟩
    · refine Or.inr ⟨Option.isNone_iff_eq_none.mp hbase, ?_, hmap _ hm⟩
      simp only [Bool.or_eq_true, not_or, Bool.not_eq_true] at hquarter
      exact ⟨not_not.mp hdelay, by simpa using hneed, hquarter.1, hquarter.2⟩
    · exact Or.inl (by rw [← Except.ok.inj hm])

/-- **An unlock** does nothing to it. -/
theorem base_unlockBuffer (k : Mapper.Kernel) (hnd : ImportedHandle) :
    (unlockBuffer k hnd).2.1.importPid = hnd.importPid ∧
      (unlockBuffer k hnd).2.1.base = hnd.base := by
  rcases unlockBuffer_cases k hnd with ⟨-, h⟩ | ⟨-, -, -, h⟩ | ⟨-, -, h⟩ <;> rw [h] <;>
    exact ⟨rfl, rfl⟩

/-- **What a call that locks may do** to a handle: change its counters, and map its memory. -/
structure Locks (pageSize : ℤ) (p : Process) (h : Handle) (l : LocalFields)
    (hnd : ImportedHandle) : Prop where
  importPid : hnd.importPid = l.importPid
  base : hnd.base = l.base ∨ l.base = none ∧ OwnMemory (h.toImportedHandle l) ∧
    ∃ m, hnd.base = some m ∧ ∀ size, p.files (.mapping m size) = none

theorem owns_after (h : Handle) (l : LocalFields) (hnd : ImportedHandle) :
    (h.after l hnd).owns pageSize =
      h.fds.toList.map .fd ++ ((l.attrBase.toList.map fun m => .mapping m h.attrBytes) ++
        hnd.base.toList.map fun m => .mapping m (h.baseBytes pageSize)) := rfl

/-- What is open after a call that locks: a mapping of the memory, if it is new, besides what
was. -/
theorem files_mapped (p : Process) (h : Handle) (l : LocalFields) (base : Option ℕ) (r : Res) :
    (mapped p pageSize h l base).files r =
      if l.base = none ∧ ∃ m, base = some m ∧ r = .mapping m (h.baseBytes pageSize) then
        p.files (.fd h.fds.shareFd)
      else p.files r := by
  unfold mapped
  cases hl : l.base with
  | some m => rw [if_neg (by simp)]
  | none =>
    cases base with
    | none => rw [if_neg (by simp)]
    | some m =>
      simp only [Option.some.injEq, exists_eq_left', true_and, Process.mmap]
      exact Function.update_apply ..

/-- A mapping changes what is open, and nothing else. -/
theorem mapped_rest (p : Process) (pageSize : ℤ) (h : Handle) (l : LocalFields)
    (base : Option ℕ) :
    (mapped p pageSize h l base).pid = p.pid ∧ (mapped p pageSize h l base).handles = p.handles ∧
      (mapped p pageSize h l base).pool = p.pool := by
  unfold mapped
  cases l.base <;> cases base <;> exact ⟨rfl, rfl, rfl⟩

section

variable {hnd : ImportedHandle}

/-- **What is open stays as it is**, since a new mapping is at a new address. -/
theorem files_mapped_of_ne_none (hx : Locks pageSize p h l hnd) {r : Res}
    (hr : p.files r ≠ none) : (mapped p pageSize h l hnd.base).files r = p.files r := by
  rw [files_mapped, if_neg]
  rintro ⟨hnone, b, hb, rfl⟩
  rcases hx.base with heq | ⟨-, -, b', hb', hfresh⟩
  · rw [heq, hnone] at hb
    cases hb
  · rw [hb] at hb'
    cases hb'
    exact hr (hfresh _)

/-- **What a handle owns after a lock**: what it owned, and the mapping if there is a new one. -/
theorem owns_after_eq_append (hl : h.mine = some l) (hx : Locks pageSize p h l hnd) :
    ∃ new, (h.after l hnd).owns pageSize = h.owns pageSize ++ new ∧ new.Nodup ∧
      (∀ r ∈ new, p.files r = none) ∧
      ∀ r ∈ new, ∃ b, hnd.base = some b ∧ r = .mapping b (h.baseBytes pageSize) := by
  rw [owns_after, Handle.owns, hl, Option.elim_some]
  rcases hx.base with heq | ⟨hnone, -, b, hb, hfresh⟩
  · refine ⟨[], ?_, List.nodup_nil, fun r hr => absurd hr List.not_mem_nil,
      fun r hr => absurd hr List.not_mem_nil⟩
    rw [heq, List.append_nil]
  · refine ⟨[.mapping b (h.baseBytes pageSize)], ?_, List.nodup_singleton _, ?_, ?_⟩
    · rw [hb, hnone]
      simp
    · intro r hr
      rw [List.mem_singleton.mp hr]
      exact hfresh _
    · intro r hr
      exact ⟨b, hb, List.mem_singleton.mp hr⟩

/-- **The mapping of the memory**, an old one or a new one, is of the file of the buffer. -/
theorem files_mapped_base (hs : Sound pageSize p₀ p) (ha : p.handles a = some h)
    (hl : h.mine = some l) (hx : Locks pageSize p h l hnd) {b : ℕ} (hb : hnd.base = some b) :
    OwnMemory (h.toImportedHandle l) ∧
      (mapped p pageSize h l hnd.base).files (.mapping b (h.baseBytes pageSize)) =
        p.files (.fd h.fds.shareFd) := by
  rcases hx.base with heq | ⟨hnone, hown, -, -, -⟩
  · have hlb : l.base = some b := heq ▸ hb
    obtain ⟨hown, hfile⟩ := ((hs.wired a h ha).mine l hl).base b hlb
    have hmem : Res.mapping b (h.baseBytes pageSize) ∈ p.ownsAt pageSize a := by
      rw [Process.ownsAt, ownedAt_of_some ha]
      exact Handle.base_mem_owns hl hlb
    exact ⟨hown, (files_mapped_of_ne_none hx (hs.files_ne_none hmem)).trans hfile⟩
  · refine ⟨hown, ?_⟩
    rw [files_mapped, if_pos ⟨hnone, b, hb, rfl⟩]

/-- **A handle stays wired** when it is locked, and about the same buffer. -/
theorem wired_after (hs : Sound pageSize p₀ p) (ha : p.handles a = some h)
    (hl : h.mine = some l) (hx : Locks pageSize p h l hnd) :
    Wired pageSize (mapped p pageSize h l hnd.base) (h.after l hnd) ∧
      describe (mapped p pageSize h l hnd.base) (h.after l hnd) = describe p h := by
  have hw := hs.wired a h ha
  obtain ⟨htype, himport, ⟨m, hm, hmap⟩, -⟩ := hw.mine l hl
  have hsame {r : Res} (hr : r ∈ h.owns pageSize) :
      (mapped p pageSize h l hnd.base).files r = p.files r := by
    refine files_mapped_of_ne_none hx (hs.files_ne_none (a := a) ?_)
    rwa [Process.ownsAt, ownedAt_of_some ha]
  have hshare := hsame Handle.share_mem_owns
  have hattr := hsame Handle.attr_mem_owns
  refine ⟨⟨hshare ▸ hw.share, hattr ▸ hw.attr, ?_, ?_⟩, ?_⟩
  · exact (hsame Handle.extend_mem_owns).trans (hw.extend.trans hshare.symm)
  · rintro l' ⟨⟩
    refine ⟨htype, ?_, ⟨m, hm, ?_⟩, fun b hb => ?_⟩
    · exact hx.importPid.trans (himport.trans (mapped_rest p pageSize h l hnd.base).1.symm)
    · exact (hsame (Handle.attrBase_mem_owns hl hm)).trans (hmap.trans hattr.symm)
    · obtain ⟨hown, hfile⟩ := files_mapped_base hs ha hl hx hb
      exact ⟨⟨hown.ionDelayAlloc, hown.needMmap, hown.quarter, hown.oneSixteenth⟩,
        hfile.trans hshare.symm⟩
  · rw [describe, describe, Description.mk.injEq]
    exact ⟨hshare, hattr, rfl⟩

end

/-- **A call that locks** changes one handle, which stays about the same buffer. -/
theorem changesAt_after (hs : Sound pageSize p₀ p) (ha : p.handles a = some h)
    (hl : h.mine = some l) {hnd : ImportedHandle} (hx : Locks pageSize p h l hnd) :
    ChangesAt pageSize p ((mapped p pageSize h l hnd.base).put a (some (h.after l hnd))) a
        (some (h.after l hnd)) ∧
      describe ((mapped p pageSize h l hnd.base).put a (some (h.after l hnd))) (h.after l hnd) =
        describe p h := by
  have howns : p.ownsAt pageSize a = h.owns pageSize := ownedAt_of_some ha
  have hopen {r : Res} (hr : r ∈ h.owns pageSize) : p.files r ≠ none :=
    hs.files_ne_none (howns ▸ hr)
  obtain ⟨hpid, hhandles, hpool⟩ := mapped_rest p pageSize h l hnd.base
  obtain ⟨hwired, hdescribe⟩ := wired_after hs ha hl hx
  obtain ⟨new, hnew, hnodup, hunused, hbaseOf⟩ := owns_after_eq_append hl hx
  refine ⟨⟨hpid, ?_, fun r hr hr' => ?_, fun r hr => ?_, fun r hr => ?_, fun r hr hr' => ?_, ?_,
    ?_, hpool ▸ hs.nodup, fun b => ?_⟩, hdescribe⟩
  · exact congrArg (fun f : ℕ → Option Handle => Function.update f a _) hhandles
  · show (mapped p pageSize h l hnd.base).files r = p.files r
    rw [files_mapped, if_neg]
    rintro ⟨-, b, hb, rfl⟩
    exact hr' (Handle.base_mem_owns (h := h.after l hnd) rfl hb)
  · rw [Option.elim_some, hnew, List.mem_append] at hr
    rw [howns]
    exact hr.imp_right (hunused r)
  · rw [Option.elim_some, hnew, List.mem_append] at hr
    show (mapped p pageSize h l hnd.base).files r ≠ none
    rcases hr with hr | hr
    · rw [files_mapped_of_ne_none hx (hopen hr)]
      exact hopen hr
    · obtain ⟨b, hb, rfl⟩ := hbaseOf r hr
      rw [(files_mapped_base hs ha hl hx hb).2]
      exact (hs.wired a h ha).share
  · rw [Option.elim_some, hnew, List.mem_append] at hr'
    exact absurd (Or.inl (howns ▸ hr)) hr'
  · rw [Option.elim_some, hnew, List.nodup_append]
    refine ⟨howns ▸ hs.owned.nodup a, hnodup, fun r hr r' hr' heq => ?_⟩
    exact hopen hr (heq ▸ hunused r' hr')
  · rintro h' ⟨⟩
    exact hwired.congr rfl fun _ _ => rfl
  · show b ∈ (mapped p pageSize h l hnd.base).pool ↔ _
    rw [hpool]
    split_ifs with hb
    · rw [hb, hs.mem_pool_iff]
      exact iff_of_true ⟨h, ha, hl ▸ rfl⟩ ⟨_, rfl, rfl⟩
    · exact Iff.rfl

/-- **Everything that a lock can do**: leave the process as it was, or change one handle. -/
theorem lock_cases {k : LockAnswers} (hf : k.Fresh p) (pageSize : ℤ) (a : ℕ) (usage : Usage)
    (region : ARect) :
    (lock p pageSize a k usage region).2 = p ∨ ∃ h l hnd, p.handles a = some h ∧
      h.mine = some l ∧ Locks pageSize p h l hnd ∧
      (lock p pageSize a k usage region).2 =
        (mapped p pageSize h l hnd.base).put a (some (h.after l hnd)) := by
  unfold lock
  cases ha : p.handles a with
  | none => exact Or.inl rfl
  | some h =>
    cases hcast : h.castImported with
    | none => exact Or.inl (by simp only [hcast])
    | some l =>
      refine Or.inr ⟨h, l,
        (lockBuffer (k.kernel pageSize) (h.toImportedHandle l) p.pid usage region).2.1, rfl, ?_, ?_,
        by simp only [hcast]⟩
      · unfold Handle.castImported at hcast
        split_ifs at hcast
        exact hcast
      · obtain ⟨hpid, hbase⟩ :=
          base_lockBuffer (k.kernel pageSize) (h.toImportedHandle l) p.pid usage region
        refine ⟨hpid, hbase.imp_right ?_⟩
        rintro ⟨hnone, hown, m, size, hm, hb⟩
        exact ⟨hnone, hown, m, hb, fun size => hf m size hm⟩

/-- **Everything that an unlock can do.** -/
theorem unlock_cases (p : Process) (pageSize : ℤ) (a : ℕ) (k : LockAnswers) :
    (unlock p pageSize a k).2 = p ∨ ∃ h l hnd, p.handles a = some h ∧
      h.mine = some l ∧ Locks pageSize p h l hnd ∧
      (unlock p pageSize a k).2 =
        (mapped p pageSize h l hnd.base).put a (some (h.after l hnd)) := by
  unfold unlock
  cases ha : p.handles a with
  | none => exact Or.inl rfl
  | some h =>
    cases hcast : h.castImported with
    | none => exact Or.inl (by simp only [hcast])
    | some l =>
      obtain ⟨hpid, hbase⟩ := base_unlockBuffer (k.kernel pageSize) (h.toImportedHandle l)
      have hmapped : mapped p pageSize h l
          (unlockBuffer (k.kernel pageSize) (h.toImportedHandle l)).2.1.base = p := by
        rw [hbase]
        show mapped p pageSize h l l.base = p
        unfold mapped
        cases l.base <;> rfl
      refine Or.inr ⟨h, l, _, rfl, ?_, ⟨hpid, Or.inl hbase⟩, ?_⟩
      · unfold Handle.castImported at hcast
        split_ifs at hcast
        exact hcast
      · rw [hmapped]
        simp only [hcast]

end

/-! ### One handle, from its import to its end -/

/-- A call with an imported handle. -/
inductive HandleCall where
  | lock (k : LockAnswers) (usage : Usage) (region : ARect)
  | unlock (k : LockAnswers)

namespace HandleCall

def run (pageSize : ℤ) (a : ℕ) (p : Process) : HandleCall → Process
  | lock k usage region => (Sharing.lock p pageSize a k usage region).2
  | unlock k => (Sharing.unlock p pageSize a k).2

def Fresh (p : Process) : HandleCall → Prop
  | lock k _ _ => k.Fresh p
  | unlock _ => True

end HandleCall

section

variable {pageSize : ℤ} {p₀ p p₁ p₂ : Process} {a : ℕ} {o₁ o₂ : Option Handle}

/-- **Changes of one handle** follow each other. -/
theorem ChangesAt.trans (h₁ : ChangesAt pageSize p p₁ a o₁) (h₂ : ChangesAt pageSize p₁ p₂ a o₂) :
    ChangesAt pageSize p p₂ a o₂ := by
  have howns : p₁.ownsAt pageSize a = o₁.elim [] (Handle.owns pageSize) := by
    rw [Process.ownsAt, h₁.handles, ownedAt_update_self]
  refine ⟨h₂.pid.trans h₁.pid, ?_, fun r hr hr' => ?_, fun r hr => ?_, h₂.opened,
    fun r hr hr' => ?_, h₂.nodup, h₂.wired, h₂.pool_nodup, fun b => ?_⟩
  · rw [h₂.handles, h₁.handles, Function.update_idem]
  · by_cases hmid : r ∈ o₁.elim [] (Handle.owns pageSize)
    · rw [h₂.closed r (howns ▸ hmid) hr', (h₁.fresh r hmid).resolve_left hr]
    · rw [h₂.same r (howns ▸ hmid) hr', h₁.same r hr hmid]
  · rcases h₂.fresh r hr with hmid | hnone
    · exact h₁.fresh r (howns ▸ hmid)
    · by_cases hold : r ∈ p.ownsAt pageSize a
      · exact Or.inl hold
      · have hmid : r ∉ o₁.elim [] (Handle.owns pageSize) := fun hmid => h₁.opened r hmid hnone
        exact Or.inr ((h₁.same r hold hmid).symm.trans hnone)
  · by_cases hmid : r ∈ o₁.elim [] (Handle.owns pageSize)
    · exact h₂.closed r (howns ▸ hmid) hr'
    · rw [h₂.same r (howns ▸ hmid) hr', h₁.closed r hr hmid]
  · rw [h₂.mem_pool_iff b]
    split_ifs with hb
    · exact Iff.rfl
    · rw [h₁.mem_pool_iff b, if_neg hb]

/-- **A call with a handle** changes nothing or that handle, and it stays imported. -/
theorem HandleCall.run_cases (hs : Sound pageSize p₀ p) {c : HandleCall} (hc : c.Fresh p) :
    c.run pageSize a p = p ∨ ∃ h, h.mine.isSome = true ∧
      ChangesAt pageSize p (c.run pageSize a p) a (some h) ∧
      (c.run pageSize a p).pool = p.pool ∧
      ∃ h₀, p.handles a = some h₀ ∧ describe (c.run pageSize a p) h = describe p h₀ := by
  have hchange {h : Handle} {l : LocalFields} {hnd : ImportedHandle} (ha : p.handles a = some h)
      (hl : h.mine = some l) (hx : Locks pageSize p h l hnd)
      (heq : c.run pageSize a p = (mapped p pageSize h l hnd.base).put a (some (h.after l hnd))) :
      ∃ h, h.mine.isSome = true ∧ ChangesAt pageSize p (c.run pageSize a p) a (some h) ∧
        (c.run pageSize a p).pool = p.pool ∧
        ∃ h₀, p.handles a = some h₀ ∧ describe (c.run pageSize a p) h = describe p h₀ := by
    obtain ⟨hchanges, hdescribe⟩ := changesAt_after hs ha hl hx
    rw [heq]
    exact ⟨_, rfl, hchanges, (mapped_rest p pageSize h l hnd.base).2.2, h, ha, hdescribe⟩
  cases c with
  | lock k usage region =>
    rcases lock_cases hc pageSize a usage region with
      heq | ⟨h, l, hnd, ha, hl, hx, heq⟩
    · exact Or.inl heq
    · exact Or.inr (hchange ha hl hx heq)
  | unlock k =>
    rcases unlock_cases p pageSize a k with heq | ⟨h, l, hnd, ha, hl, hx, heq⟩
    · exact Or.inl heq
    · exact Or.inr (hchange ha hl hx heq)

/-- **A handle comes and goes without a trace**: after an import, any calls with the handle that
was imported, and its end, the process is what it was. -/
theorem freeBuffer_of_reach (hs : Sound pageSize p₀ p) {raw : ℕ} {ans : ImportAnswers}
    (hans : ans.Fresh p) (hi : importBuffer p raw ans = (.ok a, p₁))
    (hr : Reach (HandleCall.run pageSize a) HandleCall.Fresh p₁ p₂) :
    freeBuffer p₂ pageSize a = (.ok (), p) := by
  rcases importBuffer_cases hans raw with ⟨e, herr⟩ | ⟨h, b, x, hraw, hb, hx, hok⟩
  · rw [herr] at hi
    cases hi
  rw [hok] at hi
  cases hi
  have hw := hs.wired raw h hraw
  obtain ⟨hchanges, -⟩ := changesAt_withImported hs hw hb hx
  have hnotMem : a ∉ p.pool := by
    rw [hs.mem_pool_iff]
    rintro ⟨h', hh', -⟩
    rw [hb] at hh'
    cases hh'
  have hinv : (∃ h, h.mine.isSome = true ∧ ChangesAt pageSize p p₂ a (some h)) ∧
      p₂.pool = a :: p.pool := by
    refine hr.invariant (I := fun q => (∃ h, h.mine.isSome = true ∧
      ChangesAt pageSize p q a (some h)) ∧ q.pool = a :: p.pool) ⟨⟨_, rfl, hchanges⟩, ?_⟩ ?_
    · show (Process.register _ a).pool = _
      unfold Process.register
      exact if_neg hnotMem
    · rintro q c ⟨⟨h, hsome, hq⟩, hpool⟩ hc
      rcases HandleCall.run_cases (a := a) (hs.of_changesAt hq) hc with
        heq | ⟨h', hsome', hq', hpool', -⟩
      · rw [heq]
        exact ⟨⟨h, hsome, hq⟩, hpool⟩
      · exact ⟨⟨h', hsome', hq.trans hq'⟩, hpool'.trans hpool⟩
  obtain ⟨⟨h, hsome, hq⟩, hpool⟩ := hinv
  obtain ⟨l, hl⟩ := Option.isSome_iff_exists.mp hsome
  have ha : p₂.handles a = some h := by rw [hq.handles, Function.update_self]
  have hs₂ := hs.of_changesAt hq
  have hend := hq.trans (changesAt_freeBuffer hs₂ ha hl)
  obtain ⟨hfst, hsnd⟩ := freeBuffer_eq hs₂ ha hl
  have hnone : p.ownsAt pageSize a = [] := ownedAt_of_none hb
  refine Prod.ext hfst (Process.ext_files hend.pid ?_ ?_ fun r => ?_)
  · rw [hend.handles, Function.update_eq_self_iff, hb]
  · rw [hsnd]
    show p₂.pool.erase a = p.pool
    rw [hpool, List.erase_cons_head]
  · exact hend.same r (by rw [hnone]; exact List.not_mem_nil) List.not_mem_nil

/-- **A process without handles** is sound. -/
theorem sound_start (pageSize : ℤ) {p : Process} (hhandles : ∀ a, p.handles a = none)
    (hpool : p.pool = []) : Sound pageSize p p := by
  have hheld : {r | p.files r ≠ none ∧ p.files r = none} = (∅ : Set Res) :=
    Set.eq_empty_of_forall_notMem fun r hr => hr.1 hr.2
  refine ⟨rfl, ?_, fun _ _ => rfl, fun a h ha => ?_, hpool ▸ List.nodup_nil, fun a => ?_⟩
  · rw [hheld, show p.handles = fun _ => none from funext hhandles]
    exact .empty _
  · rw [hhandles] at ha
    cases ha
  · rw [hpool]
    refine iff_of_false List.not_mem_nil ?_
    rintro ⟨h, ha, -⟩
    rw [hhandles] at ha
    cases ha

end

/-! ### One process -/

/-- 16 × 16 pixels of RGBA_8888 for the CPU. -/
def cpuSquare : Integers where
  size := 1024
  consumerUsage := 0x33#64
  producerUsage := 0x33#64
  reqFormat := 1
  allocFormat := ⟨.unorm, 1#32, 0#32⟩
  width := 16
  height := 16
  layerCount := 1
  planeInfo := PlaneLayout.zero.set 0 ⟨0, 64, 16, 16⟩
  stride := 16
  isMultiPlane := false
  ionDelayAlloc := 0#32
  needMmap := true
  attrSize := 8192#64
  backingStoreId := 1#64
  type := .raw

/-- A process with a few files open. -/
def bareProcess (pid : ℤ) : Process where
  pid := pid
  handles _ := none
  pool := []
  files r := if r = .fd 0 ∨ r = .fd 1 ∨ r = .fd 2 then some 0 else none

theorem sound_bareProcess (pageSize pid : ℤ) :
    Sound pageSize (bareProcess pid) (bareProcess pid) :=
  sound_start pageSize (fun _ => rfl) rfl

/-- The same process with a handle. -/
def givenProcess (pid : ℤ) : Process := (bareProcess pid).receive 100 cpuSquare ⟨3, 4, 5⟩ 1 2

theorem fresh_given (pid : ℤ) : (⟨3, 4, 5⟩ : Fds).Fresh (bareProcess pid) :=
  ⟨by decide, by
    intro n hn
    simp only [Fds.toList, List.mem_cons, List.not_mem_nil, or_false] at hn
    rcases hn with rfl | rfl | rfl <;> rfl⟩

theorem sound_givenProcess (pageSize pid : ℤ) :
    Sound pageSize (bareProcess pid) (givenProcess pid) :=
  (sound_bareProcess pageSize pid).of_changesAt
    (changesAt_receive (sound_bareProcess pageSize pid) rfl (fresh_given pid) cpuSquare 1 2).1

/-- Descriptors from 6 on, a block with something in it, and a mapping. -/
def nextAnswers : ImportAnswers where
  block := some (200, 5, true)
  dup i := if i < 3 then some (6 + i) else none
  mmap := some 0x10000

theorem fresh_nextAnswers (pid : ℤ) (ints : Integers) :
    nextAnswers.Fresh ((bareProcess pid).receive 100 ints ⟨3, 4, 5⟩ 1 2) where
  block b hb := by
    cases hb
    rfl
  dup i n hn := by
    simp only [nextAnswers] at hn
    split_ifs at hn with hi
    cases hn
    interval_cases i <;> rfl
  dup_inj i j n hi hj := by
    simp only [nextAnswers] at hi hj
    split_ifs at hi hj
    cases hi
    have := Option.some.inj hj
    omega
  mmap m size hm := by
    cases hm
    rfl

/-- A lock of the whole buffer for writing, and where it is mapped. -/
def wholeLock : HandleCall :=
  .lock ⟨0, 0, .ok 0x20000⟩ 0x30#64 ⟨0#32, 0#32, 16#32, 16#32⟩

/-- An import, a lock that is not released, and the end of the handle. -/
theorem freeBuffer_of_reach_locked :
    freeBuffer (wholeLock.run 4096 200 (importBuffer (givenProcess 7) 100 nextAnswers).2) 4096 200 =
      (.ok (), givenProcess 7) :=
  freeBuffer_of_reach (sound_givenProcess 4096 7) (fresh_nextAnswers 7 cpuSquare)
    (show importBuffer (givenProcess 7) 100 nextAnswers =
      (.ok 200, (importBuffer (givenProcess 7) 100 nextAnswers).2) from rfl)
    (.next .start (by
      intro m size hm
      cases hm
      rfl))

end Sharing

end Gralloc
