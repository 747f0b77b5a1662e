import Gralloc.Layout.Bits
import Gralloc.Layout.Ycbcr
import Gralloc.Sharing.Metadata

/-!
# Pixels of a shared buffer

A process that has locked a buffer has its memory mapped, and finds the components of the samples
where the reported planes say (`Gralloc.Mapper.componentPlace`). It reads and writes them there,
next to other processes that do the same, as the mapping stays after the lock.

The handles of a buffer are described alike, so they lead to the same places of the same file; and
of a linear buffer whose components are those of a pixel these places have nothing in common. So
a buffer is an image, of which each component is a variable of its own: what one process has stored
in it is what every process loads, until it is stored again
(`Gralloc.Sharing.load_after_store_of_reach`). No access is outside of the mapping.

A store is one step here, and changes the bits of its component only.
-/

namespace Gralloc

open Layout

namespace Mapper

/-- **Where a component is**: its first bit, and the number of its bits. -/
def SampleSite.place (ls : DescribedLayouts) (s : SampleSite) : Option (ℤ × ℤ) := do
  let p ← ls[s.plane]?
  let c ← p.1[s.component]?
  if s.row < p.2.grid.rows ∧ s.column < p.2.grid.cols then
    some (p.2.grid.cell s.row s.column + c.offsetInBits, c.sizeInBits)
  else none

section

variable {ls : DescribedLayouts} {s : SampleSite} {x : ℤ × ℤ}

theorem SampleSite.hasBits_of_place (h : s.place ls = some x) :
    s.HasBits ls (Set.Ico x.1 (x.1 + x.2)) := by
  obtain ⟨p, hp, h⟩ := Option.bind_eq_some_iff.mp h
  obtain ⟨c, hc, h⟩ := Option.bind_eq_some_iff.mp h
  split_ifs at h with hin
  cases h
  exact ⟨p, hp, c, hc, hin.1, hin.2, rfl⟩

end

/-- The place of a component, by what is reported of a buffer. -/
def componentPlace (hnd : PrivateHandle) (site : SampleSite) : Option (ℤ × ℤ) :=
  match describedPlaneLayouts hnd with
  | .ok (.ok ls) => site.place ls
  | _ => none

/-- **Every component is a variable of its own**, in the memory of the buffer. -/
structure ComponentsApart (hnd : PrivateHandle) : Prop where
  inside : ∀ (s : SampleSite) (x : ℤ × ℤ), componentPlace hnd s = some x → 0 < x.2 →
    0 ≤ x.1 ∧ x.1 + x.2 ≤ 8 * hnd.size
  apart : ∀ (s s' : SampleSite) (x x' : ℤ × ℤ), s ≠ s' → componentPlace hnd s = some x →
    componentPlace hnd s' = some x' →
    Disjoint (Set.Ico x.1 (x.1 + x.2)) (Set.Ico x'.1 (x'.1 + x'.2))

/-- A layer is part of the buffer. -/
theorem layerSize_le {hnd : PrivateHandle} (hl : 1 ≤ hnd.layerCount) (hlo : 0 ≤ hnd.size)
    (hhi : hnd.size < 2 ^ 31) : layerSize hnd ≤ hnd.size := by
  rw [layerSize_eq hl (by omega) hhi]
  exact Int.tdiv_le_self _ hlo

/-- **The components of a linear buffer**, of a format whose components are those of a pixel. -/
theorem LinearBuffer.componentsApart {displays : Displays} {caps : Capabilities}
    {node : ℕ → Option DecoderPara} {d d' : BufferDescriptor} {c : Choice d.usage d.height}
    {hnd : PrivateHandle} (hb : LinearBuffer displays caps node d d' c hnd)
    (hp : isPacked c.info = false) : ComponentsApart hnd := by
  have haddr := (hb.wellLaid hp).addressable
  have hsize : hnd.size = (d'.final displays).size := hb.handle_eq.2.2.1
  have hle : layerSize hnd ≤ hnd.size := by
    have hhi := hb.size
    exact layerSize_le hb.layers (by omega) (by omega)
  have hbits {s : SampleSite} {x : ℤ × ℤ} (h : componentPlace hnd s = some x) :
      s.HasBits ((List.range hnd.getNumPlanes).map fun i =>
        ((plainComponents c.info.id).getD i [], layoutAt hnd c.info i))
        (Set.Ico x.1 (x.1 + x.2)) := by
    rw [componentPlace, hb.describedPlaneLayouts_eq] at h
    exact SampleSite.hasBits_of_place h
  constructor
  · intro s x h hx
    have hsub := (Set.Ico_subset_Ico_iff (by omega)).mp (haddr.inside s _ (hbits h))
    exact ⟨hsub.1, hsub.2.trans (by omega)⟩
  · intro s s' x x' hne h h'
    exact haddr.apart s s' _ _ hne (hbits h) (hbits h')

end Mapper

namespace Sharing

open Mapper Resource Transition

/-! ### Accesses -/

/-- The memory is mapped. -/
def Handle.IsMapped (h : Handle) : Prop := (h.mine.bind LocalFields.base).isSome = true

/-- The file behind the mapping of the memory. -/
def Process.mappedFile (p : Process) (pageSize : ℤ) (h : Handle) : Option File :=
  (h.mine.bind LocalFields.base).bind fun m => p.files (.mapping m (h.baseBytes pageSize))

/-- **An access to a component**: the file and the place in it. What is not in the mapping cannot be
accessed. -/
def Process.access (p : Process) (pageSize : ℤ) (a : ℕ) (site : SampleSite) :
    Option (File × ℤ × ℤ) := do
  let h ← p.handles a
  let f ← p.mappedFile pageSize h
  let x ← componentPlace h.ints.toPrivateHandle site
  if x.2 ≤ 0 ∨ 0 ≤ x.1 ∧ x.1 + x.2 ≤ 8 * h.baseBytes pageSize then some (f, x) else none

/-- **Processes with what is in the memory** of the buffers. -/
structure PixelSystem (ι : Type*) extends System ι where
  pixels : File → Bits

/-- A call, or a store by a client. -/
inductive PixelCall (ι : Type*) where
  | call (c : SystemCall ι)
  | store (i : ι) (a : ℕ) (site : SampleSite) (v : ℕ)

namespace PixelSystem

variable {ι : Type*}

/-- **A load**, of a component that can be accessed. -/
def load (s : PixelSystem ι) (pageSize : ℤ) (i : ι) (a : ℕ) (site : SampleSite) : Option ℕ :=
  ((s.procs i).access pageSize a site).map fun x => (s.pixels x.1).load x.2.1 x.2.2

/-- **A step.** A store that is not an access does nothing. -/
def step [DecidableEq ι] (pageSize : ℤ) (g : Aml.Gralloctypes) (s : PixelSystem ι) :
    PixelCall ι → PixelSystem ι
  | .call c => { s with toSystem := s.toSystem.step pageSize g c }
  | .store i a site v =>
    match (s.procs i).access pageSize a site with
    | none => s
    | some (f, start, size) =>
      { s with pixels := Function.update s.pixels f ((s.pixels f).store start size v) }

end PixelSystem

/-- A call can be made, and a store always. -/
def PixelFair {ι : Type*} (s : PixelSystem ι) : PixelCall ι → Prop
  | .call c => Fair s.toSystem c
  | .store _ _ _ _ => True

/-- **A step leaves a component alone**: it does not store it, and does not use the file for another
buffer. -/
def LeavesSite {ι : Type*} (pageSize : ℤ) (f : File) (site : SampleSite) (s : PixelSystem ι) :
    PixelCall ι → Prop
  | .call (.allocate _ _ _ _ share _ _) => share ≠ f
  | .call _ => True
  | .store i a site' _ => ∀ x, (s.procs i).access pageSize a site' = some (f, x) → site' ≠ site

section

variable {pageSize : ℤ} {p p' : Process} {h h' : Handle} {f : File} {a : ℕ} {site : SampleSite}

/-- **The mapping of the memory** is one of the file that the handle is about. -/
theorem mappedFile_eq_some_iff (hw : Wired pageSize p h) :
    p.mappedFile pageSize h = some f ↔ h.IsMapped ∧ p.files (.fd h.fds.shareFd) = some f := by
  unfold Process.mappedFile Handle.IsMapped
  rcases hm : h.mine.bind LocalFields.base with - | m
  · exact iff_of_false (Option.some_ne_none _).symm fun h => Bool.noConfusion h.1
  · obtain ⟨l, hl, hbase⟩ := Option.bind_eq_some_iff.mp hm
    rw [Option.bind_some, (((hw.mine l hl).base m hbase).2)]
    exact (and_iff_right rfl).symm

theorem access_eq_some_iff (hw : Wired pageSize p h) (ha : p.handles a = some h) {x : ℤ × ℤ} :
    p.access pageSize a site = some (f, x) ↔
      (h.IsMapped ∧ p.files (.fd h.fds.shareFd) = some f) ∧
        componentPlace h.ints.toPrivateHandle site = some x ∧
        (x.2 ≤ 0 ∨ 0 ≤ x.1 ∧ x.1 + x.2 ≤ 8 * h.baseBytes pageSize) := by
  rw [← mappedFile_eq_some_iff hw, Process.access, ha]
  simp only [Option.bind_eq_bind, Option.bind_some, Option.bind_eq_some_iff,
    Option.ite_none_right_eq_some, Option.some.injEq, Prod.mk.injEq]
  constructor
  · rintro ⟨f', hf', x', hx', hin, rfl, rfl⟩
    exact ⟨hf', hx', hin⟩
  · rintro ⟨hf', hx', hin⟩
    exact ⟨f, hf', x, hx', hin, rfl, rfl⟩

/-- **No access is outside of the mapping**, of a buffer that is mapped as a whole. -/
theorem access_of_isMapped (hw : Wired pageSize p h) (ha : p.handles a = some h)
    (hapart : ComponentsApart h.ints.toPrivateHandle)
    (hreplace : h.usage.isVideoDecoderReplace = false) (hm : h.IsMapped)
    (hf : p.files (.fd h.fds.shareFd) = some f) {x : ℤ × ℤ}
    (hx : componentPlace h.ints.toPrivateHandle site = some x) :
    p.access pageSize a site = some (f, x) := by
  refine (access_eq_some_iff hw ha).mpr ⟨⟨hm, hf⟩, hx, ?_⟩
  have hbytes : h.baseBytes pageSize = h.ints.size := by
    rw [Handle.baseBytes, hreplace]
    exact if_neg Bool.false_ne_true
  rcases le_or_gt x.2 0 with hle | hlt
  · exact Or.inl hle
  · rw [hbytes]
    exact Or.inr (hapart.inside site x hx hlt)

end

/-! ### Runs -/

/-- **What stays of a component**, in the file of a buffer: the file is that of the buffer, and the
component has its value. -/
structure KeepsComponent {ι : Type*} (pageSize : ℤ) (s₀ : PixelSystem ι) (hnd : PrivateHandle)
    (f : File) (x : ℤ × ℤ) (n : ℕ) (s : PixelSystem ι) : Prop where
  consistent : Consistent pageSize s₀.toSystem s.toSystem
  handles : ∀ d ∈ s.descriptions, d.share = some f → d.ints.toPrivateHandle = hnd
  value : (s.pixels f).load x.1 x.2 = n

section

variable {ι : Type*} [DecidableEq ι] {pageSize : ℤ} {g : Aml.Gralloctypes} {s₀ s s' : PixelSystem ι}
  {hnd : PrivateHandle} {f : File} {site : SampleSite} {x : ℤ × ℤ} {n : ℕ} {i j : ι} {a b : ℕ}
  {h h' : Handle}

/-- The calls leave the processes consistent, and stores leave them as they are. -/
theorem consistent_pixelStep (hs : Consistent pageSize s₀.toSystem s.toSystem) (c : PixelCall ι)
    (hf : PixelFair s c) : Consistent pageSize s₀.toSystem (s.step pageSize g c).toSystem := by
  cases c with
  | call c => exact hs.step c hf
  | store i a site v =>
    simp only [PixelSystem.step]
    split
    · exact hs
    · exact hs

/-- **A component keeps its value** in every step that leaves it alone. -/
theorem KeepsComponent.step (hapart : ComponentsApart hnd)
    (hx : componentPlace hnd site = some x) (hs : KeepsComponent pageSize s₀ hnd f x n s)
    (c : PixelCall ι) (hfair : PixelFair s c) (hleaves : LeavesSite pageSize f site s c) :
    KeepsComponent pageSize s₀ hnd f x n (s.step pageSize g c) := by
  have hcons := consistent_pixelStep (g := g) hs.consistent c hfair
  cases c with
  | call c =>
    refine ⟨hcons, fun d hd hshare => ?_, hs.value⟩
    rcases descriptions_step hs.consistent.sound hfair hd with hold | hadds
    · exact hs.handles d hold hshare
    · -- a new buffer has another file
      cases c with
      | allocate i a ints fds share attr m =>
        cases hadds
        exact absurd (Option.some.inj hshare) hleaves
      | _ => cases hadds
  | store i a site' v =>
    rcases hacc : (s.procs i).access pageSize a site' with - | ⟨f', x'⟩
    · simp only [PixelSystem.step, hacc] at hcons ⊢
      exact hs
    · simp only [PixelSystem.step, hacc] at hcons ⊢
      refine ⟨hcons, hs.handles, ?_⟩
      show (Function.update s.pixels f' _ f).load x.1 x.2 = n
      rcases eq_or_ne f f' with rfl | hne
      · -- the same buffer: the place is that of another component
        obtain ⟨h, ha⟩ : ∃ h, (s.procs i).handles a = some h :=
          (Option.bind_eq_some_iff.mp hacc).imp fun _ h => h.1
        have hw := (hs.consistent.sound i).wired a h ha
        obtain ⟨⟨-, hfile⟩, hx', -⟩ := (access_eq_some_iff hw ha).mp hacc
        have hnd' : h.ints.toPrivateHandle = hnd :=
          hs.handles (describe (s.procs i) h) ⟨i, a, h, ha, rfl⟩ hfile
        rw [hnd'] at hx'
        rw [Function.update_self, Bits.load_store_of_disjoint, hs.value]
        exact hapart.apart site site' x x' (hleaves x' hacc).symm hx hx'
      · rw [Function.update_of_ne hne]
        exact hs.value

/-- **What is stored is what is loaded.** In every state that the processes can reach, after a store
of a component through a handle whose memory is mapped, and any calls and stores of all processes
that leave this component alone, a load of it through any mapped handle of the buffer, in any
process, returns what was stored, as far as the component has bits for it. -/
theorem load_after_store_of_reach {displays : Displays} {caps : Capabilities}
    {node : ℕ → Option DecoderPara} {d d' : BufferDescriptor} {c : Choice d.usage d.height}
    (hb : LinearBuffer displays caps node d d' c hnd) (hp : isPacked c.info = false)
    (hreplace : h.usage.isVideoDecoderReplace = false) (h₀ : s₀.Bare)
    (hr : Reach (PixelSystem.step pageSize g) PixelFair s₀ s)
    (ha : (s.procs i).handles a = some h) (hnd' : h.ints.toPrivateHandle = hnd)
    (hm : h.IsMapped) (hf : (s.procs i).files (.fd h.fds.shareFd) = some f)
    (hx : componentPlace hnd site = some x) (v : ℕ)
    (hr' : Reach (PixelSystem.step pageSize g)
      (fun s c => PixelFair s c ∧ LeavesSite pageSize f site s c)
      (s.step pageSize g (.store i a site v)) s')
    (hb' : (s'.procs j).handles b = some h') (hm' : h'.IsMapped)
    (hf' : (s'.procs j).files (.fd h'.fds.shareFd) = some f) :
    s'.load pageSize j b site = some (v % 2 ^ x.2.toNat) := by
  have hapart := hb.componentsApart hp
  have hs : Consistent pageSize s₀.toSystem s.toSystem :=
    hr.invariant (I := fun q => Consistent pageSize s₀.toSystem q.toSystem) h₀.consistent
      fun _ c hs hf => consistent_pixelStep hs c hf
  subst hnd'
  have hacc := access_of_isMapped ((hs.sound i).wired a h ha) ha hapart hreplace hm hf hx
  have hstored : KeepsComponent pageSize s₀ h.ints.toPrivateHandle f x (v % 2 ^ x.2.toNat)
      (s.step pageSize g (.store i a site v)) := by
    simp only [PixelSystem.step, hacc]
    refine ⟨hs, fun d hd hshare => ?_, ?_⟩
    · exact congrArg (fun d => d.ints.toPrivateHandle)
        (hs.coherent d hd _ ⟨i, a, h, ha, rfl⟩ (Or.inl (hshare.trans hf.symm)))
    · show (Function.update s.pixels f _ f).load x.1 x.2 = _
      rw [Function.update_self, Bits.load_store]
  have hkept : KeepsComponent pageSize s₀ h.ints.toPrivateHandle f x (v % 2 ^ x.2.toNat) s' :=
    hr'.invariant hstored fun _ c hq hc => hq.step hapart hx c hc.1 hc.2
  have hnd' : h'.ints.toPrivateHandle = h.ints.toPrivateHandle :=
    hkept.handles (describe (s'.procs j) h') ⟨j, b, h', hb', rfl⟩ hf'
  have hreplace' : h'.usage.isVideoDecoderReplace = false := by
    rw [Handle.usage, hnd']
    exact hreplace
  have hacc' := access_of_isMapped ((hkept.consistent.sound j).wired b h' hb') hb'
    (hnd'.symm ▸ hapart) hreplace' hm' hf' (hnd'.symm ▸ hx)
  rw [PixelSystem.load, hacc']
  exact congrArg some hkept.value

end

/-! ### A sample of chroma -/

/-- 16 × 16 pixels of YV12 for the CPU. -/
def sharedYv12 : Integers := { cpuSquare with toPrivateHandle := yv12Handle }

/-- Two processes, and memory that is empty. -/
def blankSystem : PixelSystem Bool := { twoProcesses with pixels := fun _ _ => false }

/-- A buffer for the first process, which sends the handle to the second one. -/
def sentYv12 : PixelSystem Bool :=
  (blankSystem.step 4096 Aml.numbersOnly (.call (.allocate true 100 sharedYv12 ⟨3, 4, 5⟩ 1 2
    (.init [] 0#32 chromaSitingNone)))).step 4096 Aml.numbersOnly
      (.call (.transfer true 100 false 100 ⟨3, 4, 5⟩))

/-- Both import it, and lock it. -/
def lockedYv12 : PixelSystem Bool :=
  (((sentYv12.step 4096 Aml.numbersOnly (.call (.importBuffer true 100 nextAnswers))).step 4096
    Aml.numbersOnly (.call (.importBuffer false 100 nextAnswers))).step 4096 Aml.numbersOnly
      (.call (.handle true 200 wholeLock))).step 4096 Aml.numbersOnly
        (.call (.handle false 200 wholeLock))

theorem reach_lockedYv12 :
    Reach (PixelSystem.step 4096 Aml.numbersOnly) PixelFair blankSystem lockedYv12 := by
  have hlock {p : Process} (h : ∀ size, p.files (.mapping 0x20000 size) = none) :
      wholeLock.Fresh p := by
    intro m size hm
    cases hm
    exact h size
  refine .next (.next (.next (.next (.next (.next .start ?_) ?_) ?_) ?_) ?_) ?_
  · refine ⟨rfl, fresh_given 7, fun j r => ?_⟩
    show (if _ then some 0 else none) ≠ some 1 ∧ (if _ then some 0 else none) ≠ some 2
    split_ifs <;> decide
  · exact ⟨Option.some_ne_none _, rfl, fresh_given 8⟩
  · exact fresh_nextAnswers 7 sharedYv12
  · exact fresh_nextAnswers 8 sharedYv12
  · exact ⟨⟨_, rfl, fun _ => rfl⟩, hlock fun _ => rfl⟩
  · exact ⟨⟨_, rfl, fun _ => rfl⟩, hlock fun _ => rfl⟩

/-- A chroma sample, and the next one in its row. -/
def chromaSite (column : ℕ) : SampleSite := ⟨1, 2, column, 0⟩

/-- The first process stores a sample, and the second one the next; then it loads the first. -/
theorem load_after_store_of_reach_yv12 :
    ((lockedYv12.step 4096 Aml.numbersOnly (.store true 200 (chromaSite 3) 300)).step 4096
      Aml.numbersOnly (.store false 200 (chromaSite 4) 7)).load 4096 false 200 (chromaSite 3) =
        some 44 := by
  refine load_after_store_of_reach linearBuffer_yv12 (by decide) (by decide) bare_twoProcesses
    reach_lockedYv12 (a := 200) rfl rfl (by rfl) (f := 1) rfl (x := (2328, 8)) (by decide +kernel)
    300 (.next .start ⟨trivial, ?_⟩) rfl (by rfl) rfl
  intro x _ heq
  exact absurd (congrArg SampleSite.column heq) (by decide)

end Sharing

end Gralloc
