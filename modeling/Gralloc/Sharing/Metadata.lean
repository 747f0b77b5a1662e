import Gralloc.Sharing.System

/-!
# One buffer, one record

The handles of a buffer are in several processes, imported or not, and every process has its own
pool of the imported ones. There is one record of metadata behind them all.

A get through any imported handle of a buffer returns the same
(`Gralloc.Sharing.get_eq_of_reach`), except for the descriptors of the planes, which are numbers of
the process. A set through an imported handle changes that record and no other one. A number of the
vendor's can be set through a handle that was not imported, too: the pool is searched for another
handle of the same memory, whichever is found last, and the record that changes is that of the
right buffer, whatever the order (`Gralloc.Sharing.set_of_reach`).

What was set is what every process reads, until it is set again or the file is given to another
buffer (`Gralloc.Sharing.get_after_set_of_reach`).
-/

namespace Gralloc

namespace Sharing

open Mapper Resource Transition

/-! ### The pool -/

/-- **The last of a list** that passes a test, if there is one. -/
theorem foldl_found {α : Type*} (P : α → Bool) (l : List α) (found : Option α) :
    (∃ b ∈ l, P b = true ∧ l.foldl (fun found b => if P b then some b else found) found = some b) ∨
      (∀ b ∈ l, P b = false) ∧
        l.foldl (fun found b => if P b then some b else found) found = found := by
  induction l generalizing found with
  | nil => exact Or.inr ⟨fun b hb => absurd hb List.not_mem_nil, rfl⟩
  | cons b l ih =>
    rw [List.foldl_cons]
    rcases ih (if P b then some b else found) with ⟨b', hb', hP, heq⟩ | ⟨hnone, heq⟩
    · exact Or.inl ⟨b', List.mem_cons_of_mem _ hb', hP, heq⟩
    · rw [heq]
      by_cases hb : P b = true
      · exact Or.inl ⟨b, List.mem_cons_self, hb, if_pos hb⟩
      · refine Or.inr ⟨?_, if_neg hb⟩
        rintro b' (_ | ⟨_, hb'⟩)
        · exact Bool.not_eq_true _ ▸ hb
        · exact hnone b' hb'

section

variable {pageSize : ℤ} {p : Process} {h h' : Handle}

/-- **The metadata that a handle maps** is that of its descriptor. -/
theorem region_client (hw : Wired pageSize p h) :
    (p.client h).region =
      if h.mine.isSome = true then p.files (.fd h.fds.shareAttrFd) else none := by
  cases hl : h.mine with
  | none => simp [Process.client, hl]
  | some l =>
    obtain ⟨m, hm, hmap⟩ := (hw.mine l hl).attrBase
    simp [Process.client, hl, hm, hmap]

/-- **Two descriptors of one file** are found to be so. -/
theorem amlCompareFd_client (hw : Wired pageSize p h) :
    Aml.amlCompareFd (p.client h) (p.client h') = true ↔
      p.files (.fd h'.fds.shareFd) = p.files (.fd h.fds.shareFd) := by
  obtain ⟨share, hshare⟩ := Option.ne_none_iff_exists'.mp hw.share
  have hinode (k : Handle) : (p.client k).inode = p.files (.fd k.fds.shareFd) := rfl
  rw [Aml.amlCompareFd, hinode, hinode, hshare]
  cases p.files (.fd h'.fds.shareFd) with
  | none => exact iff_of_false Bool.noConfusion (Option.some_ne_none _).symm
  | some share' =>
    show (share == share') = true ↔ _
    rw [beq_iff_eq, Option.some_inj, eq_comm]

end

/-! ### What is set -/

/-- **A set is taken** through a handle that was imported here; for the numbers of the vendor, also
through one that shares its memory with such a handle. -/
def Takes (p : Process) (h : Handle) (t : MetadataType) : Prop :=
  h.mine.isSome = true ∨ (∃ n, t = .aml n) ∧ ∃ b h', p.handles b = some h' ∧
    h'.mine.isSome = true ∧ p.files (.fd h'.fds.shareFd) = p.files (.fd h.fds.shareFd)

section

variable {ι : Type*} {pageSize : ℤ} {g : Aml.Gralloctypes} {s₀ s : System ι} {i j : ι}
  {a b : ℕ} {h h' : Handle} {order order' : List ℕ} {f : File}

theorem handle_view (ha : (s.procs i).handles a = some h) :
    (s.view i order).handle a = (s.procs i).client h := by
  simp only [System.view, ha, Option.elim_some]

/-- Handles that share a file are described alike. -/
theorem Consistent.describe_eq (hs : Consistent pageSize s₀ s)
    (ha : (s.procs i).handles a = some h) (hb : (s.procs j).handles b = some h')
    (hsame : (s.procs i).files (.fd h.fds.shareFd) = (s.procs j).files (.fd h'.fds.shareFd) ∨
      (s.procs i).files (.fd h.fds.shareAttrFd) = (s.procs j).files (.fd h'.fds.shareAttrFd)) :
    describe (s.procs i) h = describe (s.procs j) h' :=
  hs.coherent _ ⟨i, a, h, ha, rfl⟩ _ ⟨j, b, h', hb, rfl⟩ hsame

/-- **The handle that a set is for**: one of the same buffer that was imported here, or none. -/
theorem resolve_view (hs : Consistent pageSize s₀ s) (ha : (s.procs i).handles a = some h)
    (horder : order.Perm (s.procs i).pool) (t : MetadataType) :
    (Takes (s.procs i) h t → ∃ b h', Aml.resolve (s.view i order) a t = some b ∧
      (s.procs i).handles b = some h' ∧ h'.mine.isSome = true ∧
      describe (s.procs i) h' = describe (s.procs i) h) ∧
    (¬Takes (s.procs i) h t → Aml.resolve (s.view i order) a t = none ∨
      Aml.resolve (s.view i order) a t = some a) := by
  have hpool (b : ℕ) : b ∈ (s.view i order).pool ↔
      ∃ h, (s.procs i).handles b = some h ∧ h.mine.isSome = true :=
    horder.mem_iff.trans ((hs.sound i).mem_pool_iff b)
  have hself (hl : h.mine.isSome = true) (hres : Aml.resolve (s.view i order) a t = some a) :
      ∃ b h', Aml.resolve (s.view i order) a t = some b ∧ (s.procs i).handles b = some h' ∧
        h'.mine.isSome = true ∧ describe (s.procs i) h' = describe (s.procs i) h :=
    ⟨a, h, hres, ha, hl, rfl⟩
  have hother (hres : Aml.resolve (s.view i order) a t = some a) (hn : ∀ n, t ≠ .aml n) :
      (Takes (s.procs i) h t → ∃ b h', Aml.resolve (s.view i order) a t = some b ∧
        (s.procs i).handles b = some h' ∧ h'.mine.isSome = true ∧
        describe (s.procs i) h' = describe (s.procs i) h) ∧
      (¬Takes (s.procs i) h t → Aml.resolve (s.view i order) a t = none ∨
        Aml.resolve (s.view i order) a t = some a) := by
    refine ⟨?_, fun _ => Or.inr hres⟩
    rintro (hl | ⟨⟨n, hn'⟩, -⟩)
    · exact hself hl hres
    · exact absurd hn' (hn n)
  cases t with
  | standard n => exact hother rfl fun _ => MetadataType.noConfusion
  | arm n => exact hother rfl fun _ => MetadataType.noConfusion
  | other => exact hother rfl fun _ => MetadataType.noConfusion
  | aml n =>
    by_cases hl : h.mine.isSome = true
    · have hres : Aml.resolve (s.view i order) a (.aml n) = some a :=
        if_pos ((hpool a).mpr ⟨h, ha, hl⟩)
      exact ⟨fun _ => hself hl hres, fun _ => Or.inr hres⟩
    · have hres : Aml.resolve (s.view i order) a (.aml n) = Aml.amlGet (s.view i order) a := by
        refine if_neg fun hmem => ?_
        obtain ⟨h', ha', hl'⟩ := (hpool a).mp hmem
        rw [Option.some.inj (ha.symm.trans ha')] at hl
        exact hl hl'
      have hw := (hs.sound i).wired a h ha
      -- the pool is searched for the same memory
      have hcompare {b : ℕ} {h' : Handle} (hb : (s.procs i).handles b = some h') :
          Aml.amlCompareFd ((s.view i order).handle a) ((s.view i order).handle b) = true ↔
            (s.procs i).files (.fd h'.fds.shareFd) = (s.procs i).files (.fd h.fds.shareFd) := by
        rw [handle_view ha, handle_view hb, amlCompareFd_client hw]
      rw [hres]
      rcases foldl_found (fun b => Aml.amlCompareFd ((s.view i order).handle a)
        ((s.view i order).handle b)) (s.view i order).pool none with
          ⟨b, hb, hP, heq⟩ | ⟨hnone, heq⟩
      · obtain ⟨h', hb', hl'⟩ := (hpool b).mp hb
        have hshare := (hcompare hb').mp hP
        refine ⟨fun _ => ⟨b, h', heq, hb', hl', hs.describe_eq hb' ha (Or.inl hshare)⟩, ?_⟩
        exact fun hnot => absurd (Or.inr ⟨⟨n, rfl⟩, b, h', hb', hl', hshare⟩) hnot
      · refine ⟨?_, fun _ => Or.inl heq⟩
        rintro (hl' | ⟨-, b, h', hb', hl', hshare⟩)
        · exact absurd hl' hl
        · have hfalse := hnone b ((hpool b).mpr ⟨h', hb', hl'⟩)
          rw [(hcompare hb').mpr hshare] at hfalse
          cases hfalse

/-- **A set**, as it goes in a consistent system. -/
theorem set_view (hs : Consistent pageSize s₀ s) (ha : (s.procs i).handles a = some h)
    (horder : order.Perm (s.procs i).pool)
    (hf : (s.procs i).files (.fd h.fds.shareAttrFd) = some f) (c : SetCall) :
    (Takes (s.procs i) h c.type →
      (Aml.set g (s.view i order) a c).1 =
          (setPayload g.toDecoders h.ints.toPrivateHandle (s.memory f) c).1 ∧
        (Aml.set g (s.view i order) a c).2.memory = Function.update s.memory f
          (afterSet g.toDecoders h.ints.toPrivateHandle (s.memory f) c)) ∧
    (¬Takes (s.procs i) h c.type →
      Aml.set g (s.view i order) a c = (.error .badBuffer, s.view i order)) := by
  obtain ⟨hyes, hno⟩ := resolve_view hs ha horder c.type
  refine ⟨fun ht => ?_, fun ht => ?_⟩
  · obtain ⟨b, h', hres, hb, hl, hd⟩ := hyes ht
    have hregion : ((s.view i order).handle b).region = some f := by
      rw [handle_view hb, region_client ((hs.sound i).wired b h' hb), if_pos hl, ← hf]
      exact congrArg Description.attr hd
    have hints : ((s.view i order).handle b).toPrivateHandle = h.ints.toPrivateHandle := by
      rw [handle_view hb]
      exact congrArg (fun d => d.ints.toPrivateHandle) hd
    have hmemory : (s.view i order).memory = s.memory := rfl
    simp only [Aml.set, hres, hregion, hints, hmemory]
    exact ⟨trivial, rfl⟩
  · rw [Aml.set]
    rcases hno ht with hres | hres
    · rw [hres]
    · have hl : ¬h.mine.isSome = true := fun hl => ht (Or.inl hl)
      have hregion : ((s.view i order).handle a).region = none := by
        rw [handle_view ha, region_client ((hs.sound i).wired a h ha), if_neg hl]
      simp only [hres, hregion]

/-! ### What is read -/

/-- What is asked about a buffer, with the metadata that is mapped. -/
def Description.asked (d : Description) (attr : Option SharedMetadata) : MetadataHandle :=
  { d.ints.toPrivateHandle with
    shareFd := -1
    backingStoreId := d.ints.backingStoreId
    attr := attr }

/-- **The number of a descriptor** matters to one type only. -/
theorem get_congr_shareFd (hnd : MetadataHandle) (n : ℤ) (stablec : Bool) {t : MetadataType}
    (ht : t ≠ .arm .planeFds) (encode : Encoder) :
    Mapper.get { hnd with shareFd := n } stablec t encode = Mapper.get hnd stablec t encode := by
  cases t with
  | standard t => cases t <;> rfl
  | arm t =>
    cases t with
    | planeFds => exact absurd rfl ht
    | _ => rfl
  | aml t => cases t <;> rfl
  | other => rfl

/-- **A get** reads what the handle is about, and the record that it maps. -/
theorem get_view (hs : Consistent pageSize s₀ s) (ha : (s.procs i).handles a = some h)
    (hf : (s.procs i).files (.fd h.fds.shareAttrFd) = some f) (stablec : Bool) {t : MetadataType}
    (ht : t ≠ .arm .planeFds) (encode : Encoder) :
    Mapper.get ((s.view i order).metadataHandle a) stablec t encode =
      Mapper.get ((describe (s.procs i) h).asked
        (if h.mine.isSome = true then some (s.memory f) else none)) stablec t encode := by
  have hattr : ((s.view i order).metadataHandle a).attr =
      if h.mine.isSome = true then some (s.memory f) else none := by
    show ((s.view i order).handle a).region.map s.memory = _
    rw [handle_view ha, region_client ((hs.sound i).wired a h ha), hf]
    split_ifs <;> rfl
  have hnd : (s.view i order).metadataHandle a =
      { (describe (s.procs i) h).asked (if h.mine.isSome = true then some (s.memory f) else none)
        with shareFd := h.fds.shareFd } := by
    rw [← hattr]
    unfold Aml.Process.metadataHandle
    rw [handle_view ha]
    rfl
  rw [hnd, get_congr_shareFd _ _ _ ht]

/-- What a raw handle is asked. -/
theorem Description.raw_asked (d : Description) (attr : Option SharedMetadata) :
    (d.asked attr).raw = d.asked none := rfl

variable [DecidableEq ι]

/-- **One buffer, one answer**: in every state that the processes can reach, a get returns the same
through all the imported handles of a buffer, in any of them; a raw handle is refused what may
change, and the name, and answers the rest alike. -/
theorem get_eq_of_reach (h₀ : s₀.Bare) (hr : Reach (System.step pageSize g) Fair s₀ s)
    (ha : (s.procs i).handles a = some h) (hb : (s.procs j).handles b = some h')
    (hsame : (s.procs i).files (.fd h.fds.shareFd) = (s.procs j).files (.fd h'.fds.shareFd) ∨
      (s.procs i).files (.fd h.fds.shareAttrFd) = (s.procs j).files (.fd h'.fds.shareAttrFd))
    (hl : h.mine.isSome = true) (stablec : Bool) {t : MetadataType} (ht : t ≠ .arm .planeFds)
    (encode : Encoder) :
    (h'.mine.isSome = true → Mapper.get ((s.view j order').metadataHandle b) stablec t encode =
      Mapper.get ((s.view i order).metadataHandle a) stablec t encode) ∧
    (h'.ints.type = .raw → Mapper.get ((s.view j order').metadataHandle b) stablec t encode =
      if isMutable t then .ok (.error .badBuffer)
      else if t = .standard .name then .ok (.error .badValue)
      else Mapper.get ((s.view i order).metadataHandle a) stablec t encode) := by
  have hs := consistent_of_reach h₀ hr
  have hd := hs.describe_eq ha hb hsame
  obtain ⟨f, hf⟩ := Option.ne_none_iff_exists'.mp ((hs.sound i).wired a h ha).attr
  have hf' : (s.procs j).files (.fd h'.fds.shareAttrFd) = some f :=
    (congrArg Description.attr hd).symm.trans hf
  rw [get_view hs ha hf stablec ht, get_view hs hb hf' stablec ht, if_pos hl, ← hd]
  refine ⟨fun hl' => by rw [if_pos hl'], fun htype => ?_⟩
  have hl' : ¬h'.mine.isSome = true := by
    intro hsome
    obtain ⟨l, hl'⟩ := Option.isSome_iff_exists.mp hsome
    rw [(((hs.sound j).wired b h' hb).mine l hl').type] at htype
    cases htype
  rw [if_neg hl', ← Description.raw_asked _ (some (s.memory f)), get_of_raw]

/-- **A set changes one record**: in every state that the processes can reach, through any handle
that takes the set, the record of its buffer is changed as the set says, and no other one; through
another handle, and by a set that is refused, none is, as long as the call can be made: but for the
numbers of the vendor, a handle that says it was imported has to have been. -/
theorem set_of_reach (h₀ : s₀.Bare) (hr : Reach (System.step pageSize g) Fair s₀ s)
    (ha : (s.procs i).handles a = some h) (horder : order.Perm (s.procs i).pool)
    (hf : (s.procs i).files (.fd h.fds.shareAttrFd) = some f) (c : SetCall) :
    (Takes (s.procs i) h c.type →
      (Aml.set g (s.view i order) a c).1 =
          (setPayload g.toDecoders h.ints.toPrivateHandle (s.memory f) c).1 ∧
        (s.step pageSize g (.set i a order c)).memory = Function.update s.memory f
          (afterSet g.toDecoders h.ints.toPrivateHandle (s.memory f) c)) ∧
    (((∀ t, c.type ≠ .aml t) → h.Usable) →
      (¬Takes (s.procs i) h c.type → (Aml.set g (s.view i order) a c).1 = .error .badBuffer) ∧
      ((Aml.set g (s.view i order) a c).1 ≠ .ok () →
        s.step pageSize g (.set i a order c) = s)) := by
  obtain ⟨hyes, hno⟩ := set_view (g := g) (consistent_of_reach h₀ hr) ha horder hf c
  refine ⟨hyes, fun _ => ⟨fun ht => by rw [hno ht], fun hne => ?_⟩⟩
  have hmemory : (Aml.set g (s.view i order) a c).2.memory = s.memory := by
    by_cases ht : Takes (s.procs i) h c.type
    · obtain ⟨hres, hmem⟩ := hyes ht
      rw [hres] at hne
      rw [hmem, afterSet, setPayload, setMetadata_of_ne_ok hne, Function.update_eq_self]
    · rw [hno ht]
      rfl
  simp only [System.step, hmemory]

/-! ### What stays -/

/-- A call does not use a file for the metadata of another buffer. -/
def KeepsFile (f : File) : SystemCall ι → Prop
  | .allocate _ _ _ _ _ attr _ => attr ≠ f
  | _ => True

/-- **What stays of a buffer** in every run: what its handles are about. -/
theorem description_of_reach (hs : Consistent pageSize s₀ s) {d : Description}
    (hd : d ∈ s.descriptions) (hf : d.attr = some f) {s' : System ι}
    (hr : Reach (System.step pageSize g) (fun s c => Fair s c ∧ KeepsFile f c) s s') :
    Consistent pageSize s₀ s' ∧ ∀ d' ∈ s'.descriptions, d'.attr = some f → d' = d := by
  refine hr.invariant (I := fun q => Consistent pageSize s₀ q ∧
    ∀ d' ∈ q.descriptions, d'.attr = some f → d' = d) ⟨hs, fun d' hd' hf' => ?_⟩ ?_
  · exact hs.coherent d' hd' d hd (Or.inr (hf'.trans hf.symm))
  · rintro q c ⟨hq, hdesc⟩ ⟨hfair, hkeeps⟩
    refine ⟨hq.step c hfair, fun d' hd' hf' => ?_⟩
    rcases descriptions_step hq.sound hfair hd' with hold | hadds
    · exact hdesc d' hold hf'
    · -- a new buffer has another file
      cases c with
      | allocate i a ints fds share attr m =>
        cases hadds
        exact absurd (Option.some.inj hf') hkeeps
      | _ => cases hadds

/-- **A call leaves a type of a record alone**: it does not set it, and does not use the file for
another buffer. -/
def Leaves (f : File) (t : MetadataType) (s : System ι) : SystemCall ι → Prop
  | .allocate _ _ _ _ _ attr _ => attr ≠ f
  | .set i a _ c => c.type = t → ∀ h, (s.procs i).handles a = some h →
    (s.procs i).files (.fd h.fds.shareAttrFd) ≠ some f
  | _ => True

omit [DecidableEq ι] in
theorem Leaves.keepsFile {t : MetadataType} {c : SystemCall ι} (h : Leaves f t s c) :
    KeepsFile f c := by
  cases c with
  | allocate i a ints fds share attr m => exact h
  | _ => exact trivial

/-- **A call that leaves a type alone** keeps what its getter reads. -/
theorem agreeAt_step (hs : Consistent pageSize s₀ s) {c : SystemCall ι} (hfair : Fair s c)
    {t : MetadataType} (hleaves : Leaves f t s c) :
    AgreeAt t (s.memory f) ((s.step pageSize g c).memory f) := by
  have hkept {s' : System ι} (heq : s'.memory f = s.memory f) :
      AgreeAt t (s.memory f) (s'.memory f) := fun k _ => heq.symm ▸ .refl k _
  cases c with
  | allocate i a ints fds share attr m =>
    exact hkept (Function.update_of_ne (Ne.symm hleaves) ..)
  | transfer i a j b fds =>
    refine hkept (congrFun ?_ f)
    show (s.transfer i a j b fds).memory = s.memory
    unfold System.transfer
    split
    · rfl
    · split <;> rfl
  | set i a order c =>
    obtain ⟨⟨h, ha, -⟩, horder⟩ := hfair
    obtain ⟨f', hf'⟩ := Option.ne_none_iff_exists'.mp ((hs.sound i).wired a h ha).attr
    obtain ⟨hyes, hno⟩ := set_view (g := g) hs ha horder hf' c
    by_cases ht : Takes (s.procs i) h c.type
    · show AgreeAt t (s.memory f) ((Aml.set g (s.view i order) a c).2.memory f)
      rw [(hyes ht).2]
      rcases eq_or_ne f f' with rfl | hne
      · rw [Function.update_self]
        exact agreeAt_afterSet _ fun heq => hleaves heq.symm h ha hf'
      · rw [Function.update_of_ne hne]
        exact fun k _ => .refl k _
    · refine hkept ?_
      show (Aml.set g (s.view i order) a c).2.memory f = s.memory f
      rw [hno ht]
      rfl
  | _ => exact hkept rfl

/-- Records that agree at a type are told apart by no get. -/
theorem get_congr_agreeAt {hnd : MetadataHandle} {m m' : SharedMetadata} {t : MetadataType}
    (hagree : AgreeAt t m m') (stablec : Bool) (encode : Encoder) :
    Mapper.get (hnd.withAttr m) stablec t encode =
      Mapper.get (hnd.withAttr m') stablec t encode := by
  have hget (m : SharedMetadata) : Mapper.get (hnd.withAttr m) stablec t encode =
      (getMetadata (hnd.withAttr m) stablec t >>= fun v => .ok (v.bind encode)) :=
    if_neg fun hnone => Bool.noConfusion hnone.1
  rw [hget, hget, getMetadata_congr hagree]

/-- **Everything that stays** of a buffer as long as a type of its record is left alone: what its
handles are about, and what the getter of the type reads. -/
theorem agreeAt_of_reach (hs : Consistent pageSize s₀ s) {t : MetadataType} {d : Description}
    (hd : d ∈ s.descriptions) (hf : d.attr = some f) {s' : System ι}
    (hr : Reach (System.step pageSize g) (fun s c => Fair s c ∧ Leaves f t s c) s s') :
    Consistent pageSize s₀ s' ∧ AgreeAt t (s.memory f) (s'.memory f) ∧
      ∀ d' ∈ s'.descriptions, d'.attr = some f → d' = d := by
  obtain ⟨hs', hdesc⟩ := description_of_reach hs hd hf
    (hr.mono fun _ _ h => ⟨h.1, h.2.keepsFile⟩)
  refine ⟨hs', ?_, hdesc⟩
  refine (hr.invariant (I := fun q => Consistent pageSize s₀ q ∧
    AgreeAt t (s.memory f) (q.memory f)) ⟨hs, fun k _ => .refl k _⟩ ?_).2
  rintro q c ⟨hq, hagree⟩ ⟨hfair, hleaves⟩
  have hstep := agreeAt_step (g := g) hq hfair hleaves
  exact ⟨hq.step c hfair, fun k hk => (hagree k hk).trans (hstep k hk)⟩

/-- **What is read of a type** that is left alone is what was in the record, whichever process asks
through an imported handle. -/
theorem get_view_of_reach (hs : Consistent pageSize s₀ s) {t : MetadataType}
    (ht : t ≠ .arm .planeFds) {d : Description} (hd : d ∈ s.descriptions) (hf : d.attr = some f)
    {s' : System ι}
    (hr : Reach (System.step pageSize g) (fun s c => Fair s c ∧ Leaves f t s c) s s')
    (hb : (s'.procs j).handles b = some h')
    (hf' : (s'.procs j).files (.fd h'.fds.shareAttrFd) = some f) (hl : h'.mine.isSome = true)
    (stablec : Bool) (encode : Encoder) :
    Mapper.get ((s'.view j order').metadataHandle b) stablec t encode =
      Mapper.get (d.asked (some (s.memory f))) stablec t encode := by
  obtain ⟨hs', hagree, hdesc⟩ := agreeAt_of_reach hs hd hf hr
  have hasked (m : SharedMetadata) : d.asked (some m) = (d.asked none).withAttr m := rfl
  rw [get_view hs' hb hf' stablec ht, if_pos hl, hdesc _ ⟨j, b, h', hb, rfl⟩ hf', hasked, hasked,
    get_congr_agreeAt hagree]

end

/-! ### A number between two processes -/

/-- The bytes of a number, and no others. -/
def numberBytes : Encoder
  | .int32 n => .ok (CInt.leBytes 4 n.toNat)
  | _ => .error .unsupported

/-- The vendor's library sets a number. -/
def tunnelSet : SetCall :=
  ⟨.aml .amOmxTunnel, Aml.amlHeader .amOmxTunnel ++ CInt.leBytes 4 7⟩

/-- The second process asks through the handle that it imported, and through the raw one. -/
theorem get_eq_of_reach_square :
    Mapper.get ((sharedSquare.view false [200]).metadataHandle 200) true (.standard .dataspace)
        numberBytes =
      Mapper.get ((sharedSquare.view true [200]).metadataHandle 200) true (.standard .dataspace)
        numberBytes ∧
    Mapper.get ((sharedSquare.view false [200]).metadataHandle 100) true (.standard .stride)
        numberBytes =
      Mapper.get ((sharedSquare.view true [200]).metadataHandle 200) true (.standard .stride)
        numberBytes :=
  ⟨(get_eq_of_reach bare_twoProcesses reach_sharedSquare (i := true) (a := 200) (j := false)
      (b := 200) rfl rfl (Or.inl rfl) rfl true MetadataType.noConfusion numberBytes).1 rfl,
    (get_eq_of_reach bare_twoProcesses reach_sharedSquare (i := true) (a := 200) (j := false)
      (b := 100) rfl rfl (Or.inl rfl) rfl true MetadataType.noConfusion numberBytes).2 rfl⟩

theorem takes_raw : Takes (sharedSquare.procs false) ⟨cpuSquare, ⟨3, 4, 5⟩, none⟩ tunnelSet.type :=
  Or.inr ⟨⟨_, rfl⟩, 200, _, rfl, rfl, rfl⟩

/-- The second process sets a number through its raw handle. -/
theorem set_of_reach_raw :
    (sharedSquare.step 4096 Aml.numbersOnly (.set false 100 [200] tunnelSet)).memory =
      Function.update sharedSquare.memory 2
        (afterSet Aml.numbersOnly.toDecoders cpuSquare.toPrivateHandle (sharedSquare.memory 2)
          tunnelSet) :=
  ((set_of_reach bare_twoProcesses reach_sharedSquare (i := false) (a := 100)
    (h := ⟨cpuSquare, ⟨3, 4, 5⟩, none⟩) rfl (List.Perm.refl [200]) rfl tunnelSet).1 takes_raw).2

end Sharing

end Gralloc
