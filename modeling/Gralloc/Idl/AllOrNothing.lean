import Gralloc.Idl.Owned

/-!
# All the buffers of a batch, or none

A batch that is allocated for a client should be all or nothing: as many buffers as were asked for,
of one stride, which the client is told; or an error, and nothing left behind
(`Gralloc.Owned.AllOrNothing`).

Nothing is left behind in any case (`Gralloc.Owned.triple_allocateCommon`). The strides are compared
with the one that the first buffers have, and 0 stands for “none yet”. A first buffer whose stride
*is* 0 is forgotten: the next one may have another stride, and the batch succeeds with both. That
is the only way (`Gralloc.Owned.allOrNothing_iff`), apart from batches in which a step does not
return at all. The decoder can bring either about: by an alignment of 2²⁷ pixels, whose rows of 2²⁹
bytes have 2³² bits (`Gralloc.Owned.pixelStride_eq_zero_iff`), and by a second answer that leaves
nothing to round a width to.

Where all the rows that the decoder asks for are whole pixels, it does so only by its replies
(`Gralloc.Owned.RepliesFit`, `Gralloc.Owned.allOrNothing_of_rowsFit`).
-/

namespace Gralloc

namespace Owned

open CInt Resource Mapper

/-! ### Strides and their sentinel -/

/-- A loop that compares strides goes through; 0 is none yet. -/
def Passes : ℤ → List ℤ → Prop
  | _, [] => True
  | stride, t :: l => (stride = 0 ∨ stride = t) ∧ Passes t l

/-- **Strides that the loop misreads**: some that are 0, and then others that are not. -/
def Misread (l : List ℤ) : Prop :=
  ∃ k m s, s ≠ 0 ∧ l = List.replicate (k + 1) 0 ++ List.replicate (m + 1) s

/-- All the strides are alike. -/
def Alike (l : List ℤ) : Prop := ∃ s, ∀ t ∈ l, t = s

theorem passes_of_ne_zero {stride : ℤ} (h : stride ≠ 0) (l : List ℤ) :
    Passes stride l ↔ ∀ t ∈ l, t = stride := by
  induction l with
  | nil => exact iff_of_true trivial fun _ ht => absurd ht List.not_mem_nil
  | cons t l ih =>
    rw [Passes, List.forall_mem_cons, or_iff_right h, eq_comm]
    refine and_congr_right fun ht => ?_
    rw [ht, ih]

/-- Strides that go through are alike, or misread. -/
theorem alike_or_misread {l : List ℤ} (h : Passes 0 l) : Alike l ∨ Misread l := by
  induction l with
  | nil => exact .inl ⟨0, fun _ ht => absurd ht List.not_mem_nil⟩
  | cons t l ih =>
    have hrest : Passes t l := h.2
    by_cases ht : t = 0
    · subst ht
      rcases ih hrest with ⟨s, hs⟩ | ⟨k, m, s, hs, rfl⟩
      · rcases l with _ | ⟨t, l⟩
        · exact .inl ⟨0, by simp⟩
        · by_cases hzero : s = 0
          · exact .inl ⟨0, List.forall_mem_cons.mpr ⟨rfl, hzero ▸ hs⟩⟩
          · -- the first stride is forgotten
            refine .inr ⟨0, l.length, s, hzero, ?_⟩
            rw [List.eq_replicate_of_mem hs]
            simp
      · refine .inr ⟨k + 1, m, s, hs, ?_⟩
        rw [← List.cons_append, ← List.replicate_succ]
    · exact .inl ⟨t, List.forall_mem_cons.mpr ⟨rfl, (passes_of_ne_zero ht l).mp hrest⟩⟩

theorem Misread.not_alike {l : List ℤ} (h : Misread l) : ¬Alike l := by
  obtain ⟨k, m, s, hs, rfl⟩ := h
  rintro ⟨r, hr⟩
  have hzero : 0 = r := hr 0 (by simp)
  have hother : s = r := hr s (by simp)
  exact hs (hother.trans hzero.symm)

theorem Misread.passes {l : List ℤ} (h : Misread l) : Passes 0 l := by
  obtain ⟨k, m, s, hs, rfl⟩ := h
  have hother : Passes 0 (List.replicate (m + 1) s) :=
    ⟨.inl rfl, (passes_of_ne_zero hs _).mpr fun t ht => List.eq_of_mem_replicate ht⟩
  induction k with
  | zero => exact ⟨.inl rfl, hother⟩
  | succ k ih => exact ⟨.inl rfl, ih⟩

section

variable {f : FormatInfo} {t : AllocType} {usage : Usage} {onLuma : ℕ → Run ℤ} {w h : ℤ}

/-- A pixel stride is 0 if the bits of a row are a multiple of 2³². -/
theorem eq_zero_iff_of_pixelStride {n : ℕ} {stride : ℤ}
    (hs : pixelStride wrapping f n = .ok stride) : stride = 0 ↔ 2 ^ 29 ∣ n := by
  rw [pixelStride, wrapping_u32, ok_bind] at hs
  have hbits : n * 8 % 2 ^ 32 = 0 ↔ 2 ^ 29 ∣ n := by omega
  have hlt : n * 8 % 2 ^ 32 < 2 ^ 32 := Nat.mod_lt _ (by decide)
  generalize n * 8 % 2 ^ 32 = bits at hs hbits hlt
  rw [← hbits]
  rcases Nat.eq_zero_or_pos f.bpp.p0 with hbpp | hbpp
  · rw [hbpp, umod_zero] at hs
    cases hs
  · rw [umod_of_pos hbpp, ok_bind, udiv_of_pos hbpp] at hs
    by_cases hdvd : bits % f.bpp.p0 = 0
    · -- the quotient of a multiple
      obtain ⟨pixels, rfl⟩ := Nat.dvd_of_mod_eq_zero hdvd
      have hpixels : pixels ≤ f.bpp.p0 * pixels := Nat.le_mul_of_pos_left _ hbpp
      rw [Nat.mul_div_cancel_left _ hbpp] at hs
      obtain ⟨-, -, hs⟩ := bind_eq_ok.mp hs
      obtain rfl : Int.bmod pixels (2 ^ 32) = stride := Except.ok.inj hs
      rw [Nat.mul_eq_zero, or_iff_right hbpp.ne', Int.bmod_def]
      split_ifs <;> omega
    · rw [assert_of_not hdvd] at hs
      cases hs

/-- The pixel stride is that of the rows of the first plane. -/
theorem onLuma_of_sizePlanes {n : ℕ} (hn : n + 1 ≤ 3) {s s' : SizeState}
    (hs : sizePlanes wrapping f t usage onLuma w h s (n + 1) = .ok s') :
    onLuma (s'.planeInfo.get 0).byteStride = .ok s'.pixelStride := by
  induction n generalizing s' with
  | zero =>
    obtain ⟨s₁, -, hplane⟩ := bind_eq_ok.mp hs
    obtain ⟨p, hinfo, hluma, -⟩ := of_sizePlane hplane
    rw [stepIf_of rfl] at hluma
    rwa [hinfo, Planes.get_set_self]
  | succ n ih =>
    obtain ⟨s₁, hs₁, hplane⟩ := bind_eq_ok.mp hs
    have hprev := ih (by omega) hs₁
    obtain ⟨p, hinfo, hluma, -⟩ := of_sizePlane hplane
    rw [stepIf_of_not (Nat.succ_ne_zero n)] at hluma
    rwa [hinfo, Planes.get_set_of_ne _ _ hn (show 0 < 3 by decide) (Nat.succ_pos n).ne,
      ← Except.ok.inj hluma]

/-- **A stride is 0** for rows of a multiple of 2²⁹ bytes. -/
theorem pixelStride_eq_zero_iff {caps : Capabilities} {node : ℕ → Option DecoderPara}
    {d d' : BufferDescriptor} (hd : deriveFormatAndSize wrapping caps node d = .ok (.success, d')) :
    d'.pixelStride = 0 ↔ 2 ^ 29 ∣ (d'.planeInfo.get 0).byteStride := by
  obtain ⟨c, -, wh, -, s, hs, size, -, pitches, -, rfl⟩ := deriveFormatAndSize_eq_success.mp hd
  have hpos := c.info_wellFormed.npln_pos
  have hle := c.info_wellFormed.npln_le
  obtain ⟨n, hn⟩ : ∃ n, c.info.npln = n + 1 := ⟨c.info.npln - 1, by omega⟩
  rw [calcAllocationSize, calcAllocationSizeWith, hn] at hs
  exact eq_zero_iff_of_pixelStride (onLuma_of_sizePlanes (hn ▸ hle) hs)

end

/-! ### Steps that return -/

section

variable {p : Platform} {reserved : BitVec 64} {s : Supply} {d : BufferDescriptor}

/-- Nothing is rounded to a multiple of zero. -/
theorem wrapping_alignU32_zero (v : ℤ) : wrapping.alignU32 v 0 = .error .divByZero := rfl

/-- The test for a mapping returns unless the decoder's alignment is zero. -/
theorem exists_needMmap_iff (d : BufferDescriptor) :
    (∃ map, needMmap wrapping d = .ok map) ↔
      (d.decoderParaType = .wxh ∨ d.decoderParaType = .both → d.decoderPara.wAlign ≠ 0#32) := by
  by_cases htype : d.decoderParaType = .wxh ∨ d.decoderParaType = .both
  · rw [needMmap, if_pos htype]
    constructor
    · rintro ⟨map, hmap⟩ - hzero
      rw [hzero, BitVec.toNat_ofNat, Nat.zero_mod, wrapping_alignU32_zero] at hmap
      cases hmap
    · intro h
      have hpos : 0 < d.decoderPara.wAlign.toNat :=
        Nat.pos_of_ne_zero fun h0 => h htype (BitVec.eq_of_toNat_eq h0)
      rw [wrapping_alignU32 _ hpos, wrapping_alignU32 _ hpos]
      exact ⟨_, rfl⟩
  · rw [needMmap, if_neg htype]
    exact iff_of_true ⟨true, rfl⟩ fun h => absurd h htype

/-- Memory is obtained, or not. -/
theorem exists_obtainFd (p : Platform) (s : Supply) (d : BufferDescriptor) :
    ∃ got, obtainFd p s d = .ok got := by
  have hpolicy : ∃ r, execUvmPolicy wrapping p.props s.attempt.kernel d d.usage s.attempt.agu =
      .ok r := by
    by_cases hk : 0 ≤ s.attempt.kernel.getUvm
    · by_cases hu : d.usage.usesUvm = true
      · obtain ⟨scaled, hscaled⟩ := exists_scaledBufSize p.props d
        exact ⟨_, execUvmPolicy_of_usesUvm hk hu hscaled _⟩
      · rw [execUvmPolicy, if_neg hk.not_gt, if_neg hu]
        exact ⟨_, rfl⟩
    · exact ⟨_, execUvmPolicy_of_neg (not_le.mp hk)⟩
  obtain ⟨r, hr⟩ := hpolicy
  rw [obtainFd, hr, ok_bind]
  split_ifs <;> exact ⟨_, rfl⟩

/-- There is memory for a descriptor, and for its handle. -/
def GetsHandle (p : Platform) (s : Supply) (d : BufferDescriptor) : Prop :=
  s.nativeHandle.isSome = true ∧ ∃ got, obtainFd p s d = .ok (some got)

/-- **A step that returns**: the derivation returns, and where the decoder has given dimensions, it
has left an alignment for whoever gets a handle. -/
def Returns (p : Platform) (s : Supply) (d : BufferDescriptor) : Prop :=
  ∃ st r, deriveFormatAndSize wrapping p.caps s.attempt.node d = .ok (st, r) ∧
    (st = .success → GetsHandle p s (r.final p.displays) →
      r.decoderParaType = .wxh ∨ r.decoderParaType = .both → r.decoderPara.wAlign ≠ 0#32)

theorem exists_value_allocatorAllocate_iff (hd : d.allocFormat.getBaseInfo.isSome = true) :
    (∃ hnd, value (allocatorAllocate p s d) = .ok hnd) ↔
      (GetsHandle p s d →
        d.decoderParaType = .wxh ∨ d.decoderParaType = .both → d.decoderPara.wAlign ≠ 0#32) := by
  obtain ⟨f, hf⟩ := Option.isSome_iff_exists.mp hd
  obtain ⟨got, hgot⟩ := exists_obtainFd p s d
  rw [value_allocatorAllocate, hgot, ok_bind, GetsHandle, hgot, ← exists_needMmap_iff]
  rcases got with _ | ⟨o, sharedFd⟩
  · refine iff_of_true ⟨none, rfl⟩ ?_
    rintro ⟨-, _, ⟨⟩⟩
  · rcases s.nativeHandle with _ | address
    · refine iff_of_true ⟨none, rfl⟩ ?_
      rintro ⟨⟨⟩, -⟩
    · dsimp only
      rw [describeMemory, makePrivateHandle, hf, Option.map_some]
      rcases needMmap wrapping d with e | map
      · refine iff_of_false ?_ fun h => ?_
        · rintro ⟨_, ⟨⟩⟩
        · obtain ⟨_, ⟨⟩⟩ := h ⟨rfl, _, rfl⟩
      · exact iff_of_true ⟨_, rfl⟩ fun _ => ⟨map, rfl⟩

/-- A buffer of a batch, or an error, exactly if the step returns. -/
theorem exists_value_allocateOne_iff (stride : ℤ) :
    (∃ r, value (allocateOne p reserved s stride d) = .ok r) ↔ Returns p s d := by
  have hmap : (∃ r, value (allocateOne p reserved s stride d) = .ok r) ↔
      ∃ r, value (bufferAllocate p s d) = .ok r := by
    rw [value_allocateOne, value_obtainOne]
    rcases value (bufferAllocate p s d) with e | r
    · refine iff_of_false ?_ ?_ <;> rintro ⟨_, ⟨⟩⟩
    · exact iff_of_true ⟨_, rfl⟩ ⟨_, rfl⟩
  rw [hmap, value_bufferAllocate, Returns]
  rcases hr : deriveFormatAndSize wrapping p.caps s.attempt.node d with e | ⟨_ | _, r⟩
  · refine iff_of_false ?_ ?_
    · rintro ⟨_, ⟨⟩⟩
    · rintro ⟨_, _, ⟨⟩, -⟩
  · have hfinal := exists_value_allocatorAllocate_iff (p := p) (s := s)
      (isSome_getBaseInfo_final p.displays hr)
    have htype : (r.final p.displays).decoderParaType = r.decoderParaType := by rw [final_eq]
    have hpara : (r.final p.displays).decoderPara = r.decoderPara := by rw [final_eq]
    rw [htype, hpara] at hfinal
    constructor
    · rintro ⟨x, hx⟩
      obtain ⟨hnd, hhnd, -⟩ := map_eq_ok.mp hx
      exact ⟨_, r, rfl, fun _ => hfinal.mp ⟨hnd, hhnd⟩⟩
    · rintro ⟨st, r', ⟨⟩, h⟩
      obtain ⟨hnd, hhnd⟩ := hfinal.mpr (h rfl)
      exact ⟨_, map_eq_ok.mpr ⟨hnd, hhnd, rfl⟩⟩
  · refine iff_of_true ⟨_, rfl⟩ ⟨_, r, rfl, ?_⟩
    rintro ⟨⟩

/-! ### Runs of a batch -/

variable (p reserved)

/-- The steps that a batch makes: what each is given, and the descriptor it finds. -/
def steps : List Supply → ℤ → BufferDescriptor → List (Supply × BufferDescriptor)
  | [], _, _ => []
  | s :: ss, stride, d =>
    (s, d) ::
      match value (allocateOne p reserved s stride d) with
      | .ok (d, .ok (_, stride)) => steps ss stride d
      | _ => []

/-- The strides of a batch whose buffers are all obtained, whatever they are. -/
def strides : List Supply → BufferDescriptor → Option (List ℤ)
  | [], _ => some []
  | s :: ss, d =>
    match value (obtainOne p reserved s d) with
    | .ok (d, .ok _) => (strides ss d).map (d.pixelStride :: ·)
    | _ => none

variable {p reserved}

theorem steps_cons (s : Supply) (ss : List Supply) (stride : ℤ) (d : BufferDescriptor) :
    steps p reserved (s :: ss) stride d =
      (s, d) ::
        match value (allocateOne p reserved s stride d) with
        | .ok (d, .ok (_, stride)) => steps p reserved ss stride d
        | _ => [] := by rfl

theorem strides_cons (s : Supply) (ss : List Supply) (d : BufferDescriptor) :
    strides p reserved (s :: ss) d =
      match value (obtainOne p reserved s d) with
      | .ok (d, .ok _) => (strides p reserved ss d).map (d.pixelStride :: ·)
      | _ => none := by rfl

/-- **A batch returns** if all its steps do. -/
theorem exists_value_allocateLoop_iff (ss : List Supply) (stride : ℤ) (hnds : List OwnedBuf)
    (d : BufferDescriptor) :
    (∃ r, value (allocateLoop p reserved ss stride hnds d) = .ok r) ↔
      ∀ x ∈ steps p reserved ss stride d, Returns p x.1 x.2 := by
  induction ss generalizing stride hnds d with
  | nil => exact iff_of_true ⟨_, rfl⟩ fun _ hx => absurd hx List.not_mem_nil
  | cons s ss ih =>
    rw [value_allocateLoop_cons, steps_cons, List.forall_mem_cons,
      ← exists_value_allocateOne_iff stride]
    rcases value (allocateOne p reserved s stride d) with e | ⟨d', e | ⟨hnd, stride'⟩⟩
    · refine iff_of_false ?_ ?_
      · rintro ⟨_, ⟨⟩⟩
      · rintro ⟨⟨_, ⟨⟩⟩, -⟩
    · exact iff_of_true ⟨_, rfl⟩ ⟨⟨_, rfl⟩, fun _ hx => absurd hx List.not_mem_nil⟩
    · refine (ih stride' (hnds ++ [hnd]) d').trans (and_iff_right ⟨_, rfl⟩).symm

/-- A buffer that is obtained has the stride of its derivation. -/
theorem stride_of_obtainOne {d' : BufferDescriptor} {hnd : OwnedBuf}
    (h : value (obtainOne p reserved s d) = .ok (d', .ok hnd)) :
    hnd.buf.handle.stride = d'.pixelStride := by
  rw [value_obtainOne] at h
  obtain ⟨⟨d'', _ | hnd'⟩, hbuf, h⟩ := map_eq_ok.mp h
  · cases h
  · generalize allocateAttr s.attr reserved = attr at h
    rcases attr with e | r
    · cases h
    · cases h
      exact (of_bufferAllocate hbuf).2

/-- A buffer that goes through the comparison. -/
theorem value_allocateOne_eq_ok_iff {stride stride' : ℤ} {d' : BufferDescriptor} {hnd : OwnedBuf} :
    value (allocateOne p reserved s stride d) = .ok (d', .ok (hnd, stride')) ↔
      value (obtainOne p reserved s d) = .ok (d', .ok hnd) ∧ stride' = d'.pixelStride ∧
        (stride = 0 ∨ stride = d'.pixelStride) := by
  rw [value_allocateOne]
  rcases value (obtainOne p reserved s d) with e | ⟨d'', e | hnd'⟩
  · refine iff_of_false ?_ ?_
    · rintro ⟨⟩
    · rintro ⟨⟨⟩, -⟩
  · refine iff_of_false ?_ ?_
    · rintro ⟨⟩
    · rintro ⟨⟨⟩, -⟩
  · simp only [Except.map, Except.bind]
    by_cases hzero : stride = 0
    · rw [if_pos hzero]
      constructor
      · rintro ⟨⟩
        exact ⟨rfl, rfl, .inl hzero⟩
      · rintro ⟨⟨⟩, rfl, -⟩
        rfl
    · rw [if_neg hzero]
      by_cases heq : stride = d''.pixelStride
      · rw [if_neg (not_not.mpr heq)]
        constructor
        · rintro ⟨⟩
          exact ⟨rfl, heq, .inr heq⟩
        · rintro ⟨⟨⟩, rfl, -⟩
          rw [heq]
      · rw [if_pos heq]
        refine iff_of_false ?_ ?_
        · rintro ⟨⟩
        · rintro ⟨⟨⟩, -, h⟩
          exact h.elim hzero heq

/-- **The buffers of a batch** that succeeds: those of its steps, whose strides went through. -/
theorem of_value_allocateLoop {ss : List Supply} {stride : ℤ} {hnds hnds' : List OwnedBuf}
    {d d' : BufferDescriptor}
    (h : value (allocateLoop p reserved ss stride hnds d) = .ok (d', .ok hnds')) :
    ∃ new, hnds' = hnds ++ new ∧ new.length = ss.length ∧
      strides p reserved ss d = some (new.map fun hnd => hnd.buf.handle.stride) ∧
      Passes stride (new.map fun hnd => hnd.buf.handle.stride) ∧
      (new ≠ [] → ∃ hnd ∈ new, hnd.buf.handle.stride = d'.pixelStride) := by
  induction ss generalizing stride hnds d with
  | nil =>
    cases h
    exact ⟨[], (List.append_nil _).symm, rfl, rfl, trivial, fun hne => absurd rfl hne⟩
  | cons s ss ih =>
    rw [value_allocateLoop_cons] at h
    obtain ⟨⟨d₁, e | ⟨hnd, stride'⟩⟩, hone, hrest⟩ := bind_eq_ok.mp h
    · cases hrest
    · obtain ⟨hobtain, rfl, hgoes⟩ := value_allocateOne_eq_ok_iff.mp hone
      obtain ⟨new, rfl, hlen, hstrides, hpasses, hlast⟩ := ih hrest
      have hstride := stride_of_obtainOne hobtain
      refine ⟨hnd :: new, by simp, congrArg (· + 1) hlen, ?_, ?_, fun _ => ?_⟩
      · rw [strides_cons, hobtain]
        simp only [hstrides, Option.map_some, List.map_cons, hstride]
      · rw [List.map_cons, hstride]
        exact ⟨hgoes, hpasses⟩
      · rcases new with _ | ⟨hnd', new⟩
        · -- the last buffer
          obtain rfl := List.length_eq_zero_iff.mp hlen.symm
          obtain ⟨rfl, -⟩ := Prod.mk.inj (Except.ok.inj hrest)
          exact ⟨hnd, List.mem_cons_self, hstride⟩
        · obtain ⟨hnd'', hmem, heq⟩ := hlast (List.cons_ne_nil _ _)
          exact ⟨hnd'', List.mem_cons_of_mem _ hmem, heq⟩

/-- A batch whose buffers are obtained, and whose strides go through, succeeds. -/
theorem exists_allocateLoop_of_passes {ss : List Supply} {stride : ℤ} (hnds : List OwnedBuf)
    {d : BufferDescriptor} {l : List ℤ} (h : strides p reserved ss d = some l)
    (hl : Passes stride l) :
    ∃ d' hnds', value (allocateLoop p reserved ss stride hnds d) = .ok (d', .ok hnds') := by
  induction ss generalizing stride hnds d l with
  | nil => exact ⟨d, hnds, rfl⟩
  | cons s ss ih =>
    rw [strides_cons] at h
    rcases hobtain : value (obtainOne p reserved s d) with e | ⟨d₁, e | hnd⟩
    · rw [hobtain] at h
      cases h
    · rw [hobtain] at h
      cases h
    · rw [hobtain] at h
      obtain ⟨l, hrest, rfl⟩ := Option.map_eq_some_iff.mp h
      have hone := value_allocateOne_eq_ok_iff.mpr ⟨hobtain, rfl, hl.1⟩
      obtain ⟨d', hnds', hloop⟩ := ih (hnds ++ [hnd]) hrest hl.2
      exact ⟨d', hnds', by rw [value_allocateLoop_cons, hone, ok_bind]; exact hloop⟩

/-! ### All or nothing -/

variable (p reserved)

/-- **All or nothing**: the allocation returns, either an error, and has released all that it
acquired; or as many buffers as were asked for, with all that it has left, and their strides are
the one that the client is told. -/
def AllOrNothing (flags : DescriptorFlags) (ss : List Supply) (d : BufferDescriptor) : Prop :=
  ∃ r l, (allocateCommon p reserved flags ss d).run = .ok (r, l) ∧
    match r with
    | .error _ => Turns l 0 0
    | .ok result =>
      Turns l 0 (descriptors result.buffers : Multiset Res) ∧
        result.buffers.length = ss.length ∧
        ∀ hnd ∈ result.buffers, hnd.buf.handle.stride = result.stride

/-- **What a batch needs**: steps that return, and strides that are not misread. -/
structure BatchFits (ss : List Supply) (d : BufferDescriptor) : Prop where
  returns : ∀ x ∈ steps p reserved ss 0 d, Returns p x.1 x.2
  strides : ∀ l, strides p reserved ss d = some l → ¬Misread l

variable {p reserved}

/-- What a client is told of a batch. -/
theorem value_allocateCommon (p : Platform) (reserved : BitVec 64) (flags : DescriptorFlags)
    (ss : List Supply) (d : BufferDescriptor) :
    value (allocateCommon p reserved flags ss d) =
      (value (allocateLoop p reserved ss 0 [] { d with flags := flags })).map fun r =>
        match r.2 with
        | .error .noMemory => .error .noResources
        | .error .badValue => .error .unsupported
        | .ok hnds => .ok ⟨r.1.pixelStride, hnds⟩ := by
  rw [allocateCommon, allocate, value_bind]
  rcases value (allocateLoop p reserved ss 0 [] { d with flags := flags }) with
    e | ⟨d', (_ | _) | hnds⟩ <;> rfl

/-- **An allocation is all or nothing** exactly if its batch fits. -/
theorem allOrNothing_iff (p : Platform) (reserved : BitVec 64) (flags : DescriptorFlags)
    (ss : List Supply) (d : BufferDescriptor) :
    AllOrNothing p reserved flags ss d ↔ BatchFits p reserved ss { d with flags := flags } := by
  constructor
  · rintro ⟨r, l, hrun, hr⟩
    have hvalue : value (allocateCommon p reserved flags ss d) = .ok r :=
      value_eq_ok.mpr ⟨l, hrun⟩
    rw [value_allocateCommon] at hvalue
    obtain ⟨⟨d', result⟩, hloop, rfl⟩ := map_eq_ok.mp hvalue
    refine ⟨(exists_value_allocateLoop_iff ss 0 [] _).mp ⟨_, hloop⟩, fun strs hstrs hmisread => ?_⟩
    -- misread strides go through
    obtain ⟨d'', hnds, hok⟩ := exists_allocateLoop_of_passes [] hstrs hmisread.passes
    obtain ⟨rfl, rfl⟩ := Prod.mk.inj (Except.ok.inj (hloop.symm.trans hok))
    obtain ⟨new, rfl, -, hnew, -, -⟩ := of_value_allocateLoop hok
    obtain rfl := Option.some.inj (hstrs.symm.trans hnew)
    refine hmisread.not_alike ⟨d'.pixelStride, ?_⟩
    rw [List.forall_mem_map]
    exact hr.2.2
  · rintro ⟨hreturns, hstrides⟩
    obtain ⟨⟨d', result⟩, hloop⟩ := (exists_value_allocateLoop_iff ss 0 [] _).mpr hreturns
    have hvalue := value_allocateCommon p reserved flags ss d
    rw [hloop] at hvalue
    obtain ⟨l, hrun⟩ := value_eq_ok.mp hvalue
    have hturns := triple_allocateCommon flags ss d _ _ hrun
    rcases result with (_ | _) | hnds
    · exact ⟨_, l, hrun, hturns⟩
    · exact ⟨_, l, hrun, hturns⟩
    · obtain ⟨new, rfl, hlen, hstrs, hpasses, hlast⟩ := of_value_allocateLoop hloop
      obtain ⟨s, hs⟩ := (alike_or_misread hpasses).resolve_right (hstrides _ hstrs)
      rw [List.forall_mem_map] at hs
      refine ⟨_, l, hrun, hturns, hlen, fun hnd hmem => ?_⟩
      obtain ⟨other, hother, heq⟩ := hlast (List.ne_nil_of_mem hmem)
      exact (hs hnd hmem).trans ((hs other hother).symm.trans heq)

end

/-! ### What is asked for, and what the decoder replies -/

/-- The bytes of a row of the first plane, as asked for. -/
def rowBytes (caps : Capabilities) (node : ℕ → Option DecoderPara) (d : BufferDescriptor) : ℕ :=
  (choose caps d).elim 0 (lumaStride caps node d)

/-- The pixels of such a row, counted from its bits as far as they are kept. -/
def rowPixels (caps : Capabilities) (node : ℕ → Option DecoderPara) (d : BufferDescriptor) : ℕ :=
  (choose caps d).elim 0 fun c => 8 * lumaStride caps node d c % 2 ^ 32 / c.info.bpp.p0

/-- **Every reply asks for rows of whole pixels.** -/
def RowsFitAll (caps : Capabilities) (ss : List Supply) (d : BufferDescriptor) : Prop :=
  ∀ s ∈ ss, ∀ c, choose caps d = some c → RowsFit caps s.attempt.node d c

/-- Parameters of this type and the reply leave an alignment to whoever reads it: a decoder that has
given dimensions goes on answering. -/
def Leaves (type : DecoderParaType) (reply : Option DecoderPara) : Prop :=
  reply = none → ¬(type = .wxh ∨ type = .both)

/-- The type of the parameters after a reply. -/
def typeAfter (type : DecoderParaType) (reply : Option DecoderPara) : DecoderParaType :=
  reply.elim type DecoderPara.paraType

/-- **Replies that leave an alignment**, one after the other. -/
def GoesOn : DecoderParaType → List (Option DecoderPara) → Prop
  | _, [] => True
  | type, reply :: l => Leaves type reply ∧ GoesOn (typeAfter type reply) l

/-- **Replies that leave an alignment**, as long as the strides they make go through. -/
def ReachedFit : ℤ → DecoderParaType → List (ℤ × Option DecoderPara) → Prop
  | _, _, [] => True
  | stride, type, (t, reply) :: l =>
    Leaves type reply ∧ (stride = 0 ∨ stride = t → ReachedFit t (typeAfter type reply) l)

/-- **Replies that fit**: they leave an alignment as long as the strides go through, and the strides
are not misread. -/
structure RepliesFit (caps : Capabilities) (ss : List Supply) (d : BufferDescriptor) : Prop where
  reached : ReachedFit 0 d.decoderParaType (ss.map fun s =>
    (↑(rowPixels caps s.attempt.node d), decoderReply s.attempt.node d))
  strides : ¬Misread (ss.map fun s => (rowPixels caps s.attempt.node d : ℤ))

/-- **Steady replies**: rows whose bits are reduced to nothing come last, and a decoder that has
given dimensions goes on answering. -/
structure RepliesSteady (caps : Capabilities) (ss : List Supply) (d : BufferDescriptor) : Prop where
  rows : ss.Pairwise fun s s' =>
    2 ^ 29 ∣ rowBytes caps s.attempt.node d → 2 ^ 29 ∣ rowBytes caps s'.attempt.node d
  goesOn : GoesOn d.decoderParaType (ss.map fun s => decoderReply s.attempt.node d)

/-- **Everything that a buffer takes is there**, whatever its descriptor. -/
structure Supplies (p : Platform) (reserved : BitVec 64) (s : Supply) : Prop where
  handle : ∀ d, GetsHandle p s d
  attr : ∃ region, allocateAttr s.attr reserved = .ok region

section

variable {caps : Capabilities} {node : ℕ → Option DecoderPara} {d₀ d r : BufferDescriptor}

/-- The rows that are asked for are those of the request alone. -/
theorem lumaStride_fresh {c : Choice d.usage d.height} :
    lumaStride caps node d c = lumaStride caps node d.fresh c := by
  rw [lumaStride, dims_fresh]
  rfl

/-- What is read off the request alone is the same for every descriptor of it. -/
theorem congr_of_fresh {β : Sort*} {g : BufferDescriptor → β} (hg : ∀ e, g e = g e.fresh)
    (h : d₀.fresh = d.fresh) : g d₀ = g d := by
  rw [hg d₀, h, ← hg d]

theorem rowPixels_congr (h : d₀.fresh = d.fresh) :
    rowPixels caps node d₀ = rowPixels caps node d := by
  refine congr_of_fresh (fun e => ?_) h
  rw [rowPixels, rowPixels, show choose caps e.fresh = choose caps e from rfl]
  cases choose caps e with
  | none => rfl
  | some c => exact congrArg (8 * · % 2 ^ 32 / c.info.bpp.p0) lumaStride_fresh

/-- The rows fit by what is requested alone. -/
theorem rowsFit_fresh {c : Choice d.usage d.height} :
    RowsFit caps node d c ↔ RowsFit caps node d.fresh c := by
  have hdims : Exact.dims c.format (prepared caps node d) =
      Exact.dims c.format (prepared caps node d.fresh) := dims_fresh c.format
  constructor
  · rintro ⟨hbpp, ⟨hw, hh, hp⟩, hwhole, hbits⟩
    rw [lumaStride_fresh] at hbits
    rw [hdims] at hw hh hp hwhole
    exact ⟨hbpp, ⟨hw, hh, hp⟩, hwhole, hbits⟩
  · rintro ⟨hbpp, ⟨hw, hh, hp⟩, hwhole, hbits⟩
    rw [← lumaStride_fresh] at hbits
    rw [← hdims] at hw hh hp hwhole
    exact ⟨hbpp, ⟨hw, hh, hp⟩, hwhole, hbits⟩

theorem rowsFitAll_congr {ss : List Supply} (h : d₀.fresh = d.fresh) :
    RowsFitAll caps ss d₀ ↔ RowsFitAll caps ss d := by
  refine iff_of_eq (congr_of_fresh (fun e => propext ?_) h)
  exact forall_congr' fun s => imp_congr_right fun _ => forall_congr' fun c =>
    imp_congr_right fun _ => rowsFit_fresh

theorem choose_ne_none_congr (h : d₀.fresh = d.fresh) :
    choose caps d₀ ≠ none ↔ choose caps d ≠ none :=
  iff_of_eq (congr_of_fresh (g := fun e => choose caps e ≠ none) (fun _ => rfl) h)

theorem decoderReply_congr (h : d₀.fresh = d.fresh) :
    decoderReply node d₀ = decoderReply node d :=
  congr_of_fresh (g := decoderReply node) (fun _ => rfl) h

/-- The decoder's fields after a derivation. -/
theorem para_of_derive (hr : deriveFormatAndSize wrapping caps node d = .ok (.success, r)) :
    r.decoderParaType = typeAfter d.decoderParaType (decoderReply node d) ∧
      ((r.decoderParaType = .wxh ∨ r.decoderParaType = .both → r.decoderPara.wAlign ≠ 0#32) ↔
        Leaves d.decoderParaType (decoderReply node d)) := by
  obtain ⟨c, -, wh, -, s, -, size, -, pitches, -, rfl⟩ := deriveFormatAndSize_eq_success.mp hr
  dsimp only
  rcases hq : decoderReply node d with - | q
  · rw [prepared_of_none hq]
    refine ⟨rfl, ?_⟩
    -- without a reply the alignment is cleared
    exact ⟨fun h _ htype => h htype rfl, fun h htype => absurd htype (h rfl)⟩
  · rw [prepared_of_some hq]
    exact ⟨rfl, iff_of_true DecoderPara.wAlign_ne_zero nofun⟩

end

section

variable {p : Platform} {reserved : BitVec 64} {s : Supply} {d₀ d d' r : BufferDescriptor}

/-- A request without a format returns. -/
theorem returns_of_choose_eq_none (hc : choose p.caps d = none) : Returns p s d := by
  have hrun : deriveFormatAndSize wrapping p.caps s.attempt.node d = .ok (.einval,
      { d with allocFormat := selectFormat p.caps d.halFormat d.flags d.usage }) := by
    simp only [deriveFormatAndSize, hc]
  exact ⟨_, _, hrun, fun hst => absurd hst (by decide)⟩

/-- A request of whole rows returns, if it leaves an alignment. -/
theorem returns_of_leaves (hrows : RowsFitAll p.caps [s] d)
    (hreply : Leaves d.decoderParaType (decoderReply s.attempt.node d)) : Returns p s d := by
  cases hc : choose p.caps d with
  | none => exact returns_of_choose_eq_none hc
  | some c =>
    obtain ⟨r, hr, -⟩ := (hrows s List.mem_cons_self c hc).derive hc
    exact ⟨_, r, hr, fun _ _ => (para_of_derive hr).2.mpr hreply⟩

/-- A buffer that is obtained was derived. -/
theorem derive_of_obtainOne {hnd : OwnedBuf}
    (h : value (obtainOne p reserved s d) = .ok (d', .ok hnd)) :
    ∃ r, deriveFormatAndSize wrapping p.caps s.attempt.node d = .ok (.success, r) ∧
      d' = r.final p.displays := by
  rw [value_obtainOne] at h
  obtain ⟨⟨d'', got⟩, hbuf, h⟩ := map_eq_ok.mp h
  rw [value_bufferAllocate] at hbuf
  obtain ⟨⟨st, r⟩, hr, hbuf⟩ := bind_eq_ok.mp hbuf
  cases st with
  | einval =>
    cases hbuf
    cases h
  | success =>
    obtain ⟨o, -, hbuf⟩ := map_eq_ok.mp hbuf
    cases hbuf
    exact ⟨r, hr, (congrArg Prod.fst h).symm⟩

/-- **What a buffer leaves to the next**: the request, the type of the decoder's parameters, and a
stride of as many pixels as the rows have. -/
theorem left_of_obtainOne (hrows : RowsFitAll p.caps [s] d) {hnd : OwnedBuf}
    (h : value (obtainOne p reserved s d) = .ok (d', .ok hnd)) :
    d'.fresh = d.fresh ∧
      d'.decoderParaType = typeAfter d.decoderParaType (decoderReply s.attempt.node d) ∧
      d'.pixelStride = rowPixels p.caps s.attempt.node d := by
  obtain ⟨r, hr, rfl⟩ := derive_of_obtainOne h
  have hfresh : r.fresh = d.fresh := fresh_of_derive hr
  obtain ⟨c, hc, -⟩ := deriveFormatAndSize_eq_success.mp hr
  obtain ⟨r', hr', hpixels, -⟩ := (hrows s List.mem_cons_self c hc).derive hc
  cases hr.symm.trans hr'
  rw [final_eq, rowPixels, hc]
  exact ⟨hfresh, (para_of_derive hr).1, hpixels⟩

theorem RowsFitAll.head {ss : List Supply} (h : RowsFitAll p.caps (s :: ss) d)
    (hfresh : d₀.fresh = d.fresh) : RowsFitAll p.caps [s] d₀ := by
  refine (rowsFitAll_congr hfresh).mpr fun s' hs' => ?_
  rw [List.mem_singleton.mp hs']
  exact h s List.mem_cons_self

theorem RowsFitAll.tail {ss : List Supply} (h : RowsFitAll p.caps (s :: ss) d) :
    RowsFitAll p.caps ss d :=
  fun s' hs' => h s' (List.mem_cons_of_mem _ hs')

/-! ### Rows that are reduced to nothing -/

/-- The bits of a row are reduced to nothing where it has a multiple of 2²⁹ bytes. -/
theorem rowPixels_eq_zero_iff {ss : List Supply} (hrows : RowsFitAll p.caps ss d) (hs : s ∈ ss) :
    (rowPixels p.caps s.attempt.node d : ℤ) = 0 ↔ 2 ^ 29 ∣ rowBytes p.caps s.attempt.node d := by
  rw [rowPixels, rowBytes]
  cases hc : choose p.caps d with
  | none => exact iff_of_true rfl (dvd_zero _)
  | some c =>
    obtain ⟨r, hr, hpixels, hbytes⟩ := (hrows s hs c hc).derive hc
    have hzero := pixelStride_eq_zero_iff hr
    rw [hpixels, hbytes] at hzero
    exact hzero

/-- Strides of which those that are 0 come last are not misread. -/
theorem not_misread_of_pairwise {l : List ℤ} (h : l.Pairwise fun s t => s = 0 → t = 0) :
    ¬Misread l := by
  rintro ⟨k, m, s, hs, rfl⟩
  rw [List.pairwise_append] at h
  exact hs (h.2.2 0 (by simp) s (by simp) rfl)

/-- Replies that always leave an alignment do so as far as any strides go through, by induction on
them. -/
theorem reachedFit_of_goesOn {l : List (ℤ × Option DecoderPara)} {stride : ℤ}
    {type : DecoderParaType} (h : GoesOn type (l.map Prod.snd)) : ReachedFit stride type l := by
  induction l generalizing stride type with
  | nil => trivial
  | cons x l ih => exact ⟨h.1, fun _ => ih h.2⟩

/-- **Steady replies fit.** -/
theorem RepliesSteady.repliesFit {ss : List Supply} (h : RepliesSteady p.caps ss d)
    (hrows : RowsFitAll p.caps ss d) : RepliesFit p.caps ss d := by
  refine ⟨reachedFit_of_goesOn ?_, not_misread_of_pairwise ?_⟩
  · rw [List.map_map]
    exact h.goesOn
  · rw [List.pairwise_map]
    refine h.rows.imp_of_mem fun hs hs' himp => ?_
    rwa [rowPixels_eq_zero_iff hrows hs, rowPixels_eq_zero_iff hrows hs']

/-! ### Whatever is supplied -/

/-- A batch without a format returns. -/
theorem returns_steps_of_choose_eq_none (ss : List Supply) (stride : ℤ)
    (hc : choose p.caps d = none) :
    ∀ x ∈ steps p reserved ss stride d, Returns p x.1 x.2 := by
  rcases ss with - | ⟨s, ss⟩
  · exact fun _ hx => absurd hx List.not_mem_nil
  · rw [steps_cons, List.forall_mem_cons]
    refine ⟨returns_of_choose_eq_none hc, ?_⟩
    rcases hone : value (allocateOne p reserved s stride d) with e | ⟨d₁, e | ⟨hnd, stride'⟩⟩
    · exact fun _ hx => absurd hx List.not_mem_nil
    · exact fun _ hx => absurd hx List.not_mem_nil
    · obtain ⟨r, hr, -⟩ := derive_of_obtainOne (value_allocateOne_eq_ok_iff.mp hone).1
      obtain ⟨c, hsome, -⟩ := deriveFormatAndSize_eq_success.mp hr
      exact absurd (hsome.symm.trans hc) (Option.some_ne_none c)

/-- **The steps of a batch return**, by induction on it: each finds the request, and parameters of
the decoder that its own reply goes with. -/
theorem returns_of_reachedFit (ss : List Supply) (stride : ℤ) (hfresh : d₀.fresh = d.fresh)
    (hrows : RowsFitAll p.caps ss d)
    (hreplies : ReachedFit stride d₀.decoderParaType (ss.map fun s =>
      (↑(rowPixels p.caps s.attempt.node d), decoderReply s.attempt.node d))) :
    ∀ x ∈ steps p reserved ss stride d₀, Returns p x.1 x.2 := by
  induction ss generalizing stride d₀ with
  | nil => exact fun _ hx => absurd hx List.not_mem_nil
  | cons s ss ih =>
    rw [List.map_cons, ← decoderReply_congr hfresh] at hreplies
    obtain ⟨hleaves, hreplies⟩ := hreplies
    rw [steps_cons, List.forall_mem_cons]
    refine ⟨returns_of_leaves (hrows.head hfresh) hleaves, ?_⟩
    rcases hone : value (allocateOne p reserved s stride d₀) with e | ⟨d₁, e | ⟨hnd, stride'⟩⟩
    · exact fun _ hx => absurd hx List.not_mem_nil
    · exact fun _ hx => absurd hx List.not_mem_nil
    · obtain ⟨hobtain, rfl, hgoes⟩ := value_allocateOne_eq_ok_iff.mp hone
      obtain ⟨hleft, htype, hpixels⟩ := left_of_obtainOne (hrows.head hfresh) hobtain
      rw [rowPixels_congr hfresh] at hpixels
      rw [← hpixels, ← htype] at hreplies
      exact ih _ (hleft.trans hfresh) hrows.tail (hreplies hgoes)

/-- **The strides of a batch** are those of its rows, by induction on it. -/
theorem eq_of_strides (ss : List Supply) {l : List ℤ} (hfresh : d₀.fresh = d.fresh)
    (hrows : RowsFitAll p.caps ss d) (h : strides p reserved ss d₀ = some l) :
    l = ss.map fun s => (rowPixels p.caps s.attempt.node d : ℤ) := by
  induction ss generalizing d₀ l with
  | nil =>
    cases h
    rfl
  | cons s ss ih =>
    rw [strides_cons] at h
    rcases hobtain : value (obtainOne p reserved s d₀) with e | ⟨d₁, e | hnd⟩
    · rw [hobtain] at h
      cases h
    · rw [hobtain] at h
      cases h
    · rw [hobtain] at h
      obtain ⟨l, hrest, rfl⟩ := Option.map_eq_some_iff.mp h
      obtain ⟨hleft, -, hpixels⟩ := left_of_obtainOne (hrows.head hfresh) hobtain
      rw [List.map_cons, hpixels, rowPixels_congr hfresh,
        ih (hleft.trans hfresh) hrows.tail hrest]

/-- **A batch fits** if its replies do, whatever it is given. -/
theorem batchFits_of_repliesFit {ss : List Supply} (hrows : RowsFitAll p.caps ss d)
    (h : choose p.caps d ≠ none → RepliesFit p.caps ss d) : BatchFits p reserved ss d := by
  by_cases hc : choose p.caps d = none
  · refine ⟨returns_steps_of_choose_eq_none ss 0 hc, fun l hl => not_misread_of_pairwise ?_⟩
    -- nothing has a row
    rw [eq_of_strides ss rfl hrows hl, List.pairwise_map]
    refine List.pairwise_of_forall fun s s' _ => ?_
    rw [rowPixels, hc]
    rfl
  · obtain ⟨hreached, hm⟩ := h hc
    exact ⟨returns_of_reachedFit ss 0 rfl hrows hreached,
      fun l hl => eq_of_strides ss rfl hrows hl ▸ hm⟩

/-! ### Where everything is supplied -/

/-- A buffer for which there is everything is obtained, if it leaves an alignment. -/
theorem exists_obtainOne (hs : Supplies p reserved s) (hrows : RowsFitAll p.caps [s] d)
    (hc : choose p.caps d ≠ none)
    (hreply : Leaves d.decoderParaType (decoderReply s.attempt.node d)) :
    ∃ d' hnd, value (obtainOne p reserved s d) = .ok (d', .ok hnd) := by
  obtain ⟨c, hc⟩ := Option.ne_none_iff_exists'.mp hc
  obtain ⟨r, hr, -⟩ := (hrows s List.mem_cons_self c hc).derive hc
  obtain ⟨region, hattr⟩ := hs.attr
  obtain ⟨haddress, got, hgot⟩ := hs.handle (r.final p.displays)
  obtain ⟨address, haddress⟩ := Option.isSome_iff_exists.mp haddress
  obtain ⟨f, hf⟩ := Option.isSome_iff_exists.mp (isSome_getBaseInfo_final p.displays hr)
  obtain ⟨map, hmap⟩ : ∃ map, needMmap wrapping (r.final p.displays) = .ok map := by
    rw [exists_needMmap_iff, final_eq]
    exact (para_of_derive hr).2.mpr hreply
  obtain ⟨hnd, hhnd⟩ :
      ∃ hnd, value (allocatorAllocate p s (r.final p.displays)) = .ok (some hnd) := by
    rw [value_allocatorAllocate, hgot, ok_bind, haddress]
    dsimp only
    rw [describeMemory, makePrivateHandle, hf, Option.map_some]
    dsimp only
    rw [hmap]
    exact ⟨_, rfl⟩
  refine ⟨r.final p.displays, { hnd with shareAttrFd := some s.memfd }, ?_⟩
  rw [value_obtainOne, value_bufferAllocate, hr, ok_bind]
  dsimp only
  rw [hhnd, hattr]
  rfl

/-- A step for which there is everything returns only if it leaves an alignment. -/
theorem leaves_of_returns (hs : Supplies p reserved s) (hrows : RowsFitAll p.caps [s] d)
    (hc : choose p.caps d ≠ none) (h : Returns p s d) :
    Leaves d.decoderParaType (decoderReply s.attempt.node d) := by
  obtain ⟨st, r, hr, hleaves⟩ := h
  obtain ⟨c, hc⟩ := Option.ne_none_iff_exists'.mp hc
  obtain ⟨r', hr', -⟩ := (hrows s List.mem_cons_self c hc).derive hc
  cases hr.symm.trans hr'
  exact (para_of_derive hr).2.mp (hleaves rfl (hs.handle _))

/-- **The steps of a supplied batch return** only if the replies leave an alignment as far as the
strides go through, by induction on it. -/
theorem reachedFit_of_returns (ss : List Supply) (stride : ℤ) (hfresh : d₀.fresh = d.fresh)
    (hrows : RowsFitAll p.caps ss d) (hs : ∀ s ∈ ss, Supplies p reserved s)
    (hc : choose p.caps d ≠ none)
    (h : ∀ x ∈ steps p reserved ss stride d₀, Returns p x.1 x.2) :
    ReachedFit stride d₀.decoderParaType (ss.map fun s =>
      (↑(rowPixels p.caps s.attempt.node d), decoderReply s.attempt.node d)) := by
  induction ss generalizing stride d₀ with
  | nil => trivial
  | cons s ss ih =>
    have hhead := hrows.head hfresh
    have hc₀ := (choose_ne_none_congr hfresh).mpr hc
    have hsupply := hs s List.mem_cons_self
    rw [steps_cons, List.forall_mem_cons] at h
    obtain ⟨hreturns, hrest⟩ := h
    have hleaves := leaves_of_returns hsupply hhead hc₀ hreturns
    obtain ⟨d₁, hnd, hobtain⟩ := exists_obtainOne hsupply hhead hc₀ hleaves
    obtain ⟨hleft, htype, hpixels⟩ := left_of_obtainOne hhead hobtain
    rw [rowPixels_congr hfresh] at hpixels
    rw [List.map_cons, ← decoderReply_congr hfresh, ← hpixels]
    refine ⟨hleaves, fun hgoes => ?_⟩
    rw [value_allocateOne_eq_ok_iff.mpr ⟨hobtain, rfl, hgoes⟩] at hrest
    rw [← htype]
    exact ih _ (hleft.trans hfresh) hrows.tail
      (fun s hs' => hs s (List.mem_cons_of_mem _ hs')) hrest

/-- The strides of a supplied batch that goes through, by induction on it. -/
theorem strides_of_reachedFit (ss : List Supply) (stride : ℤ) (hfresh : d₀.fresh = d.fresh)
    (hrows : RowsFitAll p.caps ss d) (hs : ∀ s ∈ ss, Supplies p reserved s)
    (hc : choose p.caps d ≠ none)
    (hpasses : Passes stride (ss.map fun s => (rowPixels p.caps s.attempt.node d : ℤ)))
    (hreplies : ReachedFit stride d₀.decoderParaType
      (ss.map fun s => (↑(rowPixels p.caps s.attempt.node d), decoderReply s.attempt.node d))) :
    strides p reserved ss d₀ = some (ss.map fun s => (rowPixels p.caps s.attempt.node d : ℤ)) := by
  induction ss generalizing stride d₀ with
  | nil => rfl
  | cons s ss ih =>
    have hhead := hrows.head hfresh
    rw [List.map_cons] at hpasses hreplies
    obtain ⟨hgoes, hpasses⟩ := hpasses
    obtain ⟨hleaves, hreplies⟩ := hreplies
    rw [← decoderReply_congr hfresh] at hleaves hreplies
    obtain ⟨d₁, hnd, hobtain⟩ := exists_obtainOne (hs s List.mem_cons_self) hhead
      ((choose_ne_none_congr hfresh).mpr hc) hleaves
    obtain ⟨hleft, htype, hpixels⟩ := left_of_obtainOne hhead hobtain
    have hrest := ih _ (hleft.trans hfresh) hrows.tail
      (fun s hs' => hs s (List.mem_cons_of_mem _ hs')) hpasses (htype ▸ hreplies hgoes)
    rw [strides_cons, hobtain]
    dsimp only
    rw [hrest, Option.map_some, List.map_cons, hpixels, rowPixels_congr hfresh]

/-- A supplied batch fits only if its replies do. -/
theorem repliesFit_of_batchFits {ss : List Supply} (hrows : RowsFitAll p.caps ss d)
    (hs : ∀ s ∈ ss, Supplies p reserved s) (hc : choose p.caps d ≠ none)
    (h : BatchFits p reserved ss d) : RepliesFit p.caps ss d := by
  have hreached := reachedFit_of_returns ss 0 rfl hrows hs hc h.returns
  exact ⟨hreached, fun hm =>
    h.strides _ (strides_of_reachedFit ss 0 rfl hrows hs hc hm.passes hreached) hm⟩

end

/-- **When an allocation is all or nothing**, of a request whose rows are whole pixels whichever the
replies: whatever it is given, if the replies fit, and where everything is supplied, only then.
They do if rows of a multiple of 2²⁹ bytes come last and a decoder that has given dimensions goes on
answering. -/
theorem allOrNothing_of_rowsFit (p : Platform) (reserved : BitVec 64) (flags : DescriptorFlags)
    (ss : List Supply) (d : BufferDescriptor)
    (hrows : RowsFitAll p.caps ss { d with flags := flags }) :
    (RepliesSteady p.caps ss { d with flags := flags } →
        RepliesFit p.caps ss { d with flags := flags }) ∧
      ((choose p.caps { d with flags := flags } ≠ none →
          RepliesFit p.caps ss { d with flags := flags }) →
        AllOrNothing p reserved flags ss d) ∧
      ((∀ s ∈ ss, Supplies p reserved s) → AllOrNothing p reserved flags ss d →
        choose p.caps { d with flags := flags } ≠ none →
          RepliesFit p.caps ss { d with flags := flags }) := by
  have hiff := allOrNothing_iff p reserved flags ss d
  refine ⟨fun h => h.repliesFit hrows, fun h => hiff.mpr (batchFits_of_repliesFit hrows h), ?_⟩
  exact fun hs h hc => repliesFit_of_batchFits hrows hs hc (hiff.mp h)

/-! ### A first buffer of enormous rows -/

/-- A row of 16 pixels of RGBA_8888 for the GPU, with the number of a decoder slot. -/
def slotRow : BufferDescriptor := .request 16#32 1#32 0x1000000000300#64 1#64 1#32

/-- A decoder that aligns rows to 2²⁷ pixels. -/
def decoderWide (_ : ℕ) : Option DecoderPara := some ⟨16#32, 1#32, 0x8000000#32, 1#32, 0#32, 0#32⟩

/-- The format that is chosen for it. -/
def slotRowChoice : Choice slotRow.usage slotRow.height :=
  (choose Platform.plain.caps slotRow).get (by decide)

theorem choose_slotRow : choose Platform.plain.caps slotRow = some slotRowChoice :=
  (Option.some_get _).symm

/-- A decoder that aligns rows to 16 pixels. -/
def decoderRow (_ : ℕ) : Option DecoderPara := some ⟨16#32, 1#32, 16#32, 1#32, 0#32, 0#32⟩

/-- A system that has everything, with descriptors from a number on. -/
def Supply.numbered (n : ℕ) (node : ℕ → Option DecoderPara) : Supply where
  attempt := { Attempt.ofNode node with kernel := ⟨-1, fun _ => (-1, -1), fun _ _ => n⟩ }
  nativeHandle := some n
  dup := some (n + 1)
  memfd := n + 2
  attr := ⟨true, fun _ => true, true, fun n => decide (n < 2 ^ 63), fun _ h => of_decide_eq_true h⟩

/-- Two rows of the same decoder are all or nothing. -/
theorem allOrNothing_of_rowsFit_slotRow :
    AllOrNothing .plain 0#64 0#32 [.numbered 10 decoderRow, .numbered 20 decoderRow] slotRow := by
  have hrow : RowsFit Platform.plain.caps decoderRow slotRow slotRowChoice := by
    refine ⟨by decide, by decide +kernel, ?_, by decide +kernel⟩
    unfold Exact.WholePixels
    decide +kernel
  have hrows : RowsFitAll Platform.plain.caps
      [.numbered 10 decoderRow, .numbered 20 decoderRow] slotRow := by
    intro s hs c hc
    obtain rfl := Option.some.inj (choose_slotRow.symm.trans hc)
    have hnode : s.attempt.node = decoderRow := by
      rcases List.mem_pair.mp hs with rfl | rfl <;> rfl
    rw [hnode]
    exact hrow
  obtain ⟨hsteady, hfit, -⟩ := allOrNothing_of_rowsFit .plain 0#64 0#32 _ slotRow hrows
  exact hfit fun _ => hsteady ⟨by decide +kernel, nofun, nofun, trivial⟩

/-- The strides of a result: that which the client is told, and those of the buffers. -/
def toldStrides (result : AllocationResult) : ℤ × List ℤ :=
  (result.stride, result.buffers.map fun hnd => hnd.buf.handle.stride)

/-- Another stride than the client is told is not all. -/
theorem not_allOrNothing_of_strides {p : Platform} {reserved : BitVec 64}
    {flags : DescriptorFlags} {ss : List Supply} {d : BufferDescriptor} {told other : ℤ}
    {strs : List ℤ}
    (h : (value (allocateCommon p reserved flags ss d)).map (fun r => r.map toldStrides) =
      .ok (.ok (told, strs))) (hmem : other ∈ strs) (hne : other ≠ told) :
    ¬AllOrNothing p reserved flags ss d := by
  rintro ⟨r, l, hrun, hr⟩
  rw [value_eq_ok.mpr ⟨l, hrun⟩] at h
  rcases r with e | result
  · cases h
  · obtain ⟨rfl, rfl⟩ := Prod.mk.inj (Except.ok.inj (Except.ok.inj h))
    obtain ⟨hnd, hhnd, rfl⟩ := List.mem_map.mp hmem
    exact hne (hr.2.2 hnd hhnd)

/-- **Two buffers of different strides** are handed out, if the decoder asks for rows of 2²⁹ bytes
first; and **nothing is returned** if it answers once only. -/
theorem not_allOrNothing :
    ((value (allocateCommon .plain 0#64 0#32
        [.numbered 10 decoderWide, .numbered 20 decoderRow] slotRow)).map
          (fun r => r.map toldStrides) = .ok (.ok (16, [0, 16])) ∧
      ¬AllOrNothing .plain 0#64 0#32 [.numbered 10 decoderWide, .numbered 20 decoderRow] slotRow) ∧
    value (allocateCommon .plain 0#64 0#32
        [.numbered 10 decoderRow, .numbered 20 noDecoder] slotRow) = .error .divByZero ∧
      ¬AllOrNothing .plain 0#64 0#32 [.numbered 10 decoderRow, .numbered 20 noDecoder] slotRow := by
  have hstrides : (value (allocateCommon .plain 0#64 0#32
      [.numbered 10 decoderWide, .numbered 20 decoderRow] slotRow)).map
        (fun r => r.map toldStrides) = .ok (.ok (16, [0, 16])) := by decide +kernel
  have hstops : (value (allocateCommon .plain 0#64 0#32
      [.numbered 10 decoderRow, .numbered 20 noDecoder] slotRow)) = .error .divByZero := by
    decide +kernel
  refine ⟨⟨hstrides, ?_⟩, hstops, ?_⟩
  · exact not_allOrNothing_of_strides hstrides List.mem_cons_self (by decide)
  · rintro ⟨r, l, hrun, -⟩
    rw [value_eq_ok.mpr ⟨l, hrun⟩] at hstops
    cases hstops

end Owned

end Gralloc
