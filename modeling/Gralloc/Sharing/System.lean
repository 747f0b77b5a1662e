import Gralloc.Aml.Ext
import Gralloc.Sharing.RoundTrip

/-!
# Processes that share buffers

A buffer is allocated for a process, which sends the handle to others, and they to others again;
every one of them imports what it received, locks, sets metadata and lets go of its handles when
it likes. A system is these processes, and the metadata behind their mappings
(`Gralloc.Sharing.System`); a run is any sequence of calls of theirs
(`Gralloc.Sharing.System.step`). The kernel gives out what is not in use, and a call gets
a handle that it can be made with (`Gralloc.Sharing.Fair`): a handle that crossed after it was
imported still says so, but ends before the fields that an import adds.

Every call changes at most one process, at one handle, which is then about a buffer that some
process had already, or about a new one (`Gralloc.Sharing.step_cases`). Two things follow for every
run. The processes stay sound, each for itself, so what is open in one of them is accounted
for by its handles (`Gralloc.Sharing.accounts_of_reach`). And handles that have the memory
or the metadata in common are about one buffer, wherever they are
(`Gralloc.Sharing.System.Coherent`).
-/

namespace Gralloc

namespace Sharing

open Mapper Resource Transition

/-! ### Systems -/

/-- **Some processes**, and the metadata that is in the files. -/
structure System (ι : Type*) where
  procs : ι → Process
  memory : File → SharedMetadata

/-- What the functions that get and set see of a handle. -/
def Process.client (p : Process) (h : Handle) : Aml.ClientHandle :=
  { h.ints.toPrivateHandle with
    shareFd := h.fds.shareFd
    backingStoreId := h.ints.backingStoreId
    inode := p.files (.fd h.fds.shareFd)
    region := h.mine.bind fun l => l.attrBase.bind fun m => p.files (.mapping m h.attrBytes) }

/-- Where there is no handle. -/
def nowhere : Aml.ClientHandle where
  size := 0
  consumerUsage := 0
  producerUsage := 0
  reqFormat := 0
  allocFormat := ⟨.unorm, 0#32, 0#32⟩
  width := 0
  height := 0
  layerCount := 0
  planeInfo := PlaneLayout.zero
  stride := 0
  isMultiPlane := false
  shareFd := -1
  backingStoreId := 0#64
  inode := none
  region := none

/-- A call in one of the processes. -/
inductive SystemCall (ι : Type*) where
  /-- A new buffer, with its metadata; the process receives a handle for it. -/
  | allocate (i : ι) (a : ℕ) (ints : Integers) (fds : Fds) (share attr : File) (m : SharedMetadata)
  /-- A handle of the first process is received by the second one. -/
  | transfer (i : ι) (a : ℕ) (j : ι) (b : ℕ) (fds : Fds)
  | importBuffer (i : ι) (raw : ℕ) (ans : ImportAnswers)
  | freeBuffer (i : ι) (a : ℕ)
  | closeHandle (i : ι) (a : ℕ)
  | handle (i : ι) (a : ℕ) (c : HandleCall)
  /-- A set, with the order in which the pool is gone through. -/
  | set (i : ι) (a : ℕ) (order : List ℕ) (c : SetCall)

/-- The buffer that a call adds to those that are known. -/
def SystemCall.adds {ι : Type*} : SystemCall ι → Option Description
  | .allocate _ _ ints _ share attr _ => some ⟨some share, some attr, { ints with type := .raw }⟩
  | _ => none

namespace System

variable {ι : Type*} (s : System ι)

/-- What the functions that get and set see of a process. -/
def view (i : ι) (order : List ℕ) : Aml.Process where
  handle a := ((s.procs i).handles a).elim nowhere (s.procs i).client
  pool := order
  memory := s.memory

/-- The handles that are alive, by what they are about. -/
def descriptions : Set Description :=
  {d | ∃ i a h, (s.procs i).handles a = some h ∧ describe (s.procs i) h = d}

/-- **Handles with a file in common** are about the same buffer. -/
def Coherent : Prop :=
  ∀ d ∈ s.descriptions, ∀ d' ∈ s.descriptions, d.share = d'.share ∨ d.attr = d'.attr → d = d'

/-- Nothing of a buffer is known. -/
def New (d : Description) : Prop :=
  ∀ d' ∈ s.descriptions, d.share ≠ d'.share ∧ d.attr ≠ d'.attr

variable [DecidableEq ι]

def replace (i : ι) (p : Process) : System ι := { s with procs := Function.update s.procs i p }

/-- Descriptors of the same files, and the integers, as they are. -/
def transfer (i : ι) (a : ℕ) (j : ι) (b : ℕ) (fds : Fds) : System ι :=
  match (s.procs i).handles a with
  | none => s
  | some h =>
    match (s.procs i).files (.fd h.fds.shareFd), (s.procs i).files (.fd h.fds.shareAttrFd) with
    | some share, some attr => s.replace j ((s.procs j).receive b h.ints fds share attr)
    | _, _ => s

/-- **A call.** -/
def step (pageSize : ℤ) (g : Aml.Gralloctypes) (s : System ι) : SystemCall ι → System ι
  | .allocate i a ints fds share attr m =>
    { s.replace i ((s.procs i).receive a ints fds share attr) with
      memory := Function.update s.memory attr m }
  | .transfer i a j b fds => s.transfer i a j b fds
  | .importBuffer i raw ans => s.replace i (Sharing.importBuffer (s.procs i) raw ans).2
  | .freeBuffer i a => s.replace i (Sharing.freeBuffer (s.procs i) pageSize a).2
  | .closeHandle i a => s.replace i (Sharing.closeHandle (s.procs i) a)
  | .handle i a c => s.replace i (c.run pageSize a (s.procs i))
  | .set i a order c => { s with memory := (Aml.set g (s.view i order) a c).2.memory }

end System

/-- A handle that is what it says. -/
def Handle.Usable (h : Handle) : Prop := h.ints.type = .imported → h.mine.isSome = true

/-- **A call that can be made**: it gets a handle, and the kernel gives out what is not in use. -/
def Fair {ι : Type*} (s : System ι) : SystemCall ι → Prop
  | .allocate i a _ fds share attr _ =>
    (s.procs i).handles a = none ∧ fds.Fresh (s.procs i) ∧
      ∀ j r, (s.procs j).files r ≠ some share ∧ (s.procs j).files r ≠ some attr
  | .transfer i a j b fds =>
    (s.procs i).handles a ≠ none ∧ (s.procs j).handles b = none ∧ fds.Fresh (s.procs j)
  | .importBuffer i _ ans => ans.Fresh (s.procs i)
  | .freeBuffer i a => ∃ h, (s.procs i).handles a = some h ∧ h.Usable
  | .closeHandle i a => ∃ h, (s.procs i).handles a = some h ∧ h.mine = none
  | .handle i a c => (∃ h, (s.procs i).handles a = some h ∧ h.Usable) ∧ c.Fresh (s.procs i)
  | .set i a order c =>
    (∃ h, (s.procs i).handles a = some h ∧ ((∀ t, c.type ≠ .aml t) → h.Usable)) ∧
      order.Perm (s.procs i).pool

/-! ### One step -/

/-- **One process is changed**, at one handle; if it has another then, it is about a buffer that is
known, or about the one that was added. -/
structure Changes {ι : Type*} (pageSize : ℤ) (s s' : System ι) (new : Option Description) (i : ι)
    (a : ℕ) (o : Option Handle) : Prop where
  others : ∀ j, j ≠ i → s'.procs j = s.procs j
  changesAt : ChangesAt pageSize (s.procs i) (s'.procs i) a o
  known : ∀ h, o = some h → describe (s'.procs i) h ∈ s.descriptions ∨
    new = some (describe (s'.procs i) h)

section

variable {ι : Type*} {pageSize : ℤ} {s₀ s s' : System ι} {new : Option Description} {i : ι} {a : ℕ}
  {o : Option Handle}

/-- **The buffer that is added** is a new one: no process has its files open. -/
theorem new_of_fair {c : SystemCall ι} (hf : Fair s c) {d : Description} (hd : c.adds = some d) :
    s.New d := by
  cases c with
  | allocate i a ints fds share attr m =>
    cases hd
    rintro d' ⟨j, b, h', -, rfl⟩
    obtain ⟨hshare, hattr⟩ := hf.2.2 j (.fd h'.fds.shareFd)
    exact ⟨hshare.symm, (hf.2.2 j (.fd h'.fds.shareAttrFd)).2.symm⟩
  | _ => cases hd

/-- **What is known** after a change was known before, or was added. -/
theorem Changes.descriptions (hs : ∀ j, Sound pageSize (s₀.procs j) (s.procs j))
    (hc : Changes pageSize s s' new i a o) {d : Description} (hd : d ∈ s'.descriptions) :
    d ∈ s.descriptions ∨ new = some d := by
  obtain ⟨j, b, h, hh, rfl⟩ := hd
  rcases eq_or_ne j i with rfl | hj
  · rw [hc.changesAt.handles] at hh
    rcases eq_or_ne b a with rfl | hb
    · rw [Function.update_self] at hh
      exact hc.known h hh
    · rw [Function.update_of_ne hb] at hh
      refine Or.inl ⟨j, b, h, hh, ?_⟩
      exact (hc.changesAt.describe_eq (hs j) hb hh).symm
  · rw [hc.others j hj] at hh
    exact Or.inl ⟨j, b, h, hh, by rw [hc.others j hj]⟩

/-- **Coherence is kept**: what is added has no file in common with what was known. -/
theorem System.Coherent.of_descriptions (hcoh : s.Coherent) (hnew : ∀ d, new = some d → s.New d)
    (hsub : ∀ d ∈ s'.descriptions, d ∈ s.descriptions ∨ new = some d) : s'.Coherent := by
  intro d hd d' hd' heq
  rcases hsub d hd with hold | hd <;> rcases hsub d' hd' with hold' | hd'
  · exact hcoh d hold d' hold' heq
  · obtain ⟨hshare, hattr⟩ := hnew d' hd' d hold
    exact absurd heq (not_or.mpr ⟨hshare.symm, hattr.symm⟩)
  · obtain ⟨hshare, hattr⟩ := hnew d hd d' hold'
    exact absurd heq (not_or.mpr ⟨hshare, hattr⟩)
  · exact Option.some.inj (hd.symm.trans hd')

/-- A process that was changed, among the others. -/
theorem changes_replace [DecidableEq ι] {p' : Process}
    (hc : ChangesAt pageSize (s.procs i) p' a o)
    (hknown : ∀ h, o = some h → describe p' h ∈ s.descriptions ∨ new = some (describe p' h)) :
    Changes pageSize s (s.replace i p') new i a o := by
  have heq : (s.replace i p').procs i = p' := Function.update_self ..
  refine ⟨fun j hj => Function.update_of_ne hj .., heq.symm ▸ hc, fun h ho => ?_⟩
  rw [heq]
  exact hknown h ho

/-- Processes without handles. -/
def System.Bare (s : System ι) : Prop :=
  ∀ i, (∀ a, (s.procs i).handles a = none) ∧ (s.procs i).pool = []

/-- **What every call keeps.** -/
structure Consistent (pageSize : ℤ) (s₀ s : System ι) : Prop where
  sound : ∀ i, Sound pageSize (s₀.procs i) (s.procs i)
  coherent : s.Coherent

theorem System.Bare.consistent (h₀ : s₀.Bare) : Consistent pageSize s₀ s₀ := by
  refine ⟨fun i => sound_start pageSize (h₀ i).1 (h₀ i).2, ?_⟩
  rintro d ⟨i, a, h, hh, -⟩
  rw [(h₀ i).1 a] at hh
  cases hh

end

section

variable {ι : Type*} [DecidableEq ι] {pageSize : ℤ} {g : Aml.Gralloctypes} {s₀ s : System ι} {i : ι}

/-- A process that is not changed. -/
theorem System.replace_self : s.replace i (s.procs i) = s := by
  rw [System.replace, Function.update_eq_self]

/-- **Everything that a call can do** to the processes: nothing, or a change of one handle. -/
theorem step_cases (hs : ∀ j, Sound pageSize (s₀.procs j) (s.procs j)) (c : SystemCall ι)
    (hf : Fair s c) :
    (s.step pageSize g c).procs = s.procs ∨
      ∃ i a o, Changes pageSize s (s.step pageSize g c) c.adds i a o := by
  cases c with
  | allocate i a ints fds share attr m =>
    obtain ⟨ha, hfds, -⟩ := hf
    obtain ⟨hchanges, hdescribe⟩ := changesAt_receive (hs i) ha hfds ints share attr
    have hc : Changes pageSize s (s.replace i _) _ i a _ := changes_replace hchanges fun h ho =>
      Or.inr (by cases ho; rw [hdescribe])
    exact Or.inr ⟨i, a, _, hc.others, hc.changesAt, hc.known⟩
  | transfer i a j b fds =>
    obtain ⟨ha, hb, hfds⟩ := hf
    obtain ⟨h, ha⟩ := Option.ne_none_iff_exists'.mp ha
    have hw := (hs i).wired a h ha
    obtain ⟨share, hshare⟩ := Option.ne_none_iff_exists'.mp hw.share
    obtain ⟨attr, hattr⟩ := Option.ne_none_iff_exists'.mp hw.attr
    have heq : s.step pageSize g (.transfer i a j b fds) =
        s.replace j ((s.procs j).receive b h.ints fds share attr) := by
      simp only [System.step, System.transfer, ha, hshare, hattr]
    obtain ⟨hchanges, hdescribe⟩ := changesAt_receive (hs j) hb hfds h.ints share attr
    rw [heq]
    refine Or.inr ⟨j, b, _, changes_replace hchanges fun h' ho => Or.inl ?_⟩
    cases ho
    refine ⟨i, a, h, ha, ?_⟩
    rw [hdescribe, describe, hshare, hattr]
  | importBuffer i raw ans =>
    rcases importBuffer_cases hf raw with ⟨e, herr⟩ | ⟨h, a, x, hraw, ha, hx, hok⟩
    · refine Or.inl ?_
      simp only [System.step, herr, System.replace_self]
    · obtain ⟨hchanges, hdescribe⟩ :=
        changesAt_withImported (hs i) ((hs i).wired raw h hraw) ha hx
      simp only [System.step, hok]
      refine Or.inr ⟨i, a, _, changes_replace hchanges fun h' ho => Or.inl ?_⟩
      cases ho
      exact ⟨i, raw, h, hraw, hdescribe.symm⟩
  | freeBuffer i a =>
    obtain ⟨h, ha, husable⟩ := hf
    cases hl : h.mine with
    | none =>
      have hcast : h.castImported = none := by
        rw [Handle.castImported]
        split_ifs
        · exact hl
        · rfl
      refine Or.inl ?_
      simp only [System.step, freeBuffer, ha, hcast, System.replace_self]
    | some l =>
      refine Or.inr ⟨i, a, none, changes_replace (changesAt_freeBuffer (hs i) ha hl) ?_⟩
      rintro h' ⟨⟩
  | closeHandle i a =>
    obtain ⟨h, ha, hl⟩ := hf
    refine Or.inr ⟨i, a, none, changes_replace (changesAt_closeHandle (hs i) ha hl) ?_⟩
    rintro h' ⟨⟩
  | handle i a c =>
    rcases HandleCall.run_cases (a := a) (hs i) hf.2 with
      heq | ⟨h, -, hchanges, -, h₀, ha, hdescribe⟩
    · refine Or.inl ?_
      simp only [System.step, heq, System.replace_self]
    · refine Or.inr ⟨i, a, _, changes_replace hchanges fun h' ho => Or.inl ?_⟩
      cases ho
      exact ⟨i, a, h₀, ha, hdescribe.symm⟩
  | set i a order c => exact Or.inl rfl

/-- **What is known** after a call was known before, or was added by it. -/
theorem descriptions_step (hs : ∀ j, Sound pageSize (s₀.procs j) (s.procs j)) {c : SystemCall ι}
    (hf : Fair s c) {d : Description} (hd : d ∈ (s.step pageSize g c).descriptions) :
    d ∈ s.descriptions ∨ c.adds = some d := by
  rcases step_cases (g := g) hs c hf with heq | ⟨i, a, o, hc⟩
  · refine Or.inl ?_
    unfold System.descriptions at hd
    rwa [heq] at hd
  · exact hc.descriptions hs hd

/-! ### Runs -/

theorem Consistent.step (hs : Consistent pageSize s₀ s) (c : SystemCall ι) (hf : Fair s c) :
    Consistent pageSize s₀ (s.step pageSize g c) := by
  refine ⟨fun j => ?_, hs.coherent.of_descriptions (fun d hd => new_of_fair hf hd) fun d hd =>
    descriptions_step hs.sound hf hd⟩
  rcases step_cases (g := g) hs.sound c hf with heq | ⟨i, a, o, hc⟩
  · rw [heq]
    exact hs.sound j
  · rcases eq_or_ne j i with rfl | hj
    · exact (hs.sound j).of_changesAt hc.changesAt
    · rw [hc.others j hj]
      exact hs.sound j

theorem consistent_of_reach (h₀ : s₀.Bare)
    (hr : Reach (System.step pageSize g) Fair s₀ s) : Consistent pageSize s₀ s :=
  hr.invariant h₀.consistent fun _ c hs hf => hs.step c hf

/-- **What is open in a process** after any run of all of them: what was open at the start,
untouched, and the descriptors and mappings of its handles, each belonging to one of them. When
the handles are gone, so is everything else. -/
theorem accounts_of_reach (h₀ : s₀.Bare) (hr : Reach (System.step pageSize g) Fair s₀ s) (i : ι) :
    (∀ r, (s₀.procs i).files r ≠ none → (s.procs i).files r = (s₀.procs i).files r) ∧
      Owned (Handle.owns pageSize) (s.procs i).handles
        {r | (s.procs i).files r ≠ none ∧ (s₀.procs i).files r = none} ∧
      ((∀ a, (s.procs i).handles a = none) → s.procs i = s₀.procs i) := by
  obtain ⟨hs, -⟩ := consistent_of_reach h₀ hr
  refine ⟨(hs i).kept, (hs i).owned, fun hnone => ?_⟩
  have hempty := (hs i).owned.eq_empty hnone
  refine Process.ext_files (hs i).pid ?_ ?_ fun r => ?_
  · funext a
    rw [hnone, (h₀ i).1]
  · rw [(h₀ i).2, List.eq_nil_iff_forall_not_mem]
    intro a ha
    obtain ⟨h, hh, -⟩ := ((hs i).mem_pool_iff a).mp ha
    rw [hnone] at hh
    cases hh
  · by_cases hr₀ : (s₀.procs i).files r = none
    · rw [hr₀]
      by_contra hr'
      have hmem : r ∈ {r | (s.procs i).files r ≠ none ∧ (s₀.procs i).files r = none} := ⟨hr', hr₀⟩
      rw [hempty] at hmem
      exact hmem
    · exact (hs i).kept r hr₀

end

/-! ### Two processes -/

/-- Two processes without handles. -/
def twoProcesses : System Bool where
  procs b := bareProcess (if b then 7 else 8)
  memory _ := .init [] 0#32 chromaSitingNone

theorem bare_twoProcesses : twoProcesses.Bare := fun _ => ⟨fun _ => rfl, rfl⟩

/-- A buffer for the first of them, which sends the handle to the second one. -/
def sentCalls : SystemCall Bool × SystemCall Bool :=
  (.allocate true 100 cpuSquare ⟨3, 4, 5⟩ 1 2 (.init [] 0#32 chromaSitingNone),
    .transfer true 100 false 100 ⟨3, 4, 5⟩)

/-- Then both import it. -/
def sharedSquare : System Bool :=
  (((twoProcesses.step 4096 Aml.numbersOnly sentCalls.1).step 4096 Aml.numbersOnly
    sentCalls.2).step 4096 Aml.numbersOnly (.importBuffer true 100 nextAnswers)).step 4096
      Aml.numbersOnly (.importBuffer false 100 nextAnswers)

theorem reach_sharedSquare :
    Reach (System.step 4096 Aml.numbersOnly) Fair twoProcesses sharedSquare := by
  refine .next (.next (.next (.next .start ?_) ?_) ?_) ?_
  · refine ⟨rfl, fresh_given 7, fun j r => ?_⟩
    show (if _ then some 0 else none) ≠ some 1 ∧ (if _ then some 0 else none) ≠ some 2
    split_ifs <;> decide
  · exact ⟨Option.some_ne_none _, rfl, fresh_given 8⟩
  · exact fresh_nextAnswers 7 cpuSquare
  · exact fresh_nextAnswers 8 cpuSquare

/-- The second process locks, and lets go of what it has: nothing is left of the buffer there. -/
theorem accounts_of_reach_square :
    (((sharedSquare.step 4096 Aml.numbersOnly (.handle false 200 wholeLock)).step 4096
      Aml.numbersOnly (.freeBuffer false 200)).step 4096
        Aml.numbersOnly (.closeHandle false 100)).procs false = twoProcesses.procs false := by
  refine (accounts_of_reach bare_twoProcesses (.next (.next (.next reach_sharedSquare ?_) ?_) ?_)
    false).2.2 fun a => ?_
  · refine ⟨⟨_, rfl, fun _ => rfl⟩, ?_⟩
    intro m size hm
    cases hm
    rfl
  · exact ⟨_, rfl, fun _ => rfl⟩
  · exact ⟨_, rfl, rfl⟩
  · by_cases h₁ : a = 100
    · rw [h₁]
      rfl
    · by_cases h₂ : a = 200
      · rw [h₂]
        rfl
      · show Function.update (Function.update (Function.update (Function.update (Function.update
          (fun _ => none) 100 _) 200 _) 200 _) 200 none) 100 none a = none
        simp only [Function.update_of_ne h₁, Function.update_of_ne h₂]

end Sharing

end Gralloc
