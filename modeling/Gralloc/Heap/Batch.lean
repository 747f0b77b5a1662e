import Gralloc.Alloc.Fixed
import Gralloc.Alloc.Fresh
import Gralloc.Heap.Allocate

/-!
# Several buffers of one request

A client asks for `count` buffers at a time. All of them are made from one descriptor, one
after the other (`Gralloc.allocateLoop`), and the descriptor is derived again for each: the
decoder is asked again, and may answer differently.

Whether the buffers of a batch depend on their place in it is a question about every
derivation of the batch, and `Gralloc.batchAfresh_iff` reduces it to that. If each finds
nothing of the past (`Gralloc.NoStale`) then every buffer is the one that a batch of its
own would give, and no width is rounded to a multiple of zero; and conversely. In a batch
of decoder buffers this fails as soon as the decoder has answered once and is silent later.

What varies between the buffers of a batch – the decoder's reply, the kernel's answers,
what `malloc` returns – is an `Gralloc.Attempt`; what does not is a `Gralloc.Platform`.
-/

namespace Gralloc

open CInt

/-! ### One buffer -/

/-- A product: what is fixed when it is built. -/
structure Platform where
  caps : Capabilities
  displays : Displays
  props : MediaProperties
  heaps : HeapConfig
  deriving DecidableEq, Repr

/-- The memory for the metadata of a buffer. -/
inductive SharedMemory where
  | mapped
  | noFd
  | noMapping
  deriving DecidableEq, Repr

/-- The surroundings of one buffer. -/
structure Attempt where
  node : ℕ → Option DecoderPara
  kernel : Kernel
  layerOnGfx : Bool
  agu : UvmExecData
  sharedMemory : SharedMemory

/-- Why a batch is given up. -/
inductive AllocError where
  | noMemory
  | badValue
  deriving DecidableEq, Repr

namespace DmaBuf

/-- **The allocation of a buffer**, with the kernel spelled out and the descriptor that is
left behind. -/
def bufferAllocate (p : Platform) (e : Attempt) (d : BufferDescriptor) :
    Run (BufferDescriptor × Option DmaBuf) := do
  let r ← deriveFormatAndSize wrapping p.caps e.node d
  match r.1 with
  | .einval => .ok (r.2, none)
  | .success => do
    let d ← finalDescriptor wrapping p.displays r.2
    let o ← allocatorAllocate wrapping p.props p.heaps e.layerOnGfx e.kernel d e.agu
    .ok (d, o.buffer)

/-- **It refines the allocation of `Gralloc.bufferAllocate`**, in which memory is there or
not: a buffer that is returned has the handle of that one. -/
theorem bufferAllocate_refines {p : Platform} {e : Attempt} {d d' : BufferDescriptor} {b : DmaBuf}
    (h : bufferAllocate p e d = .ok (d', some b)) :
    Gralloc.bufferAllocate wrapping p.displays (fun _ => true) p.caps e.node d =
      .ok (some b.handle.toPrivateHandle) := by
  obtain ⟨⟨st, r⟩, hr, h⟩ := bind_eq_ok.mp h
  rw [Gralloc.bufferAllocate, hr, ok_bind]
  cases st with
  | einval => cases h
  | success =>
    obtain ⟨d'', hfinal, h⟩ := bind_eq_ok.mp h
    obtain ⟨o, ho, h⟩ := bind_eq_ok.mp h
    obtain ⟨-, hb⟩ := Prod.mk.inj (Except.ok.inj h)
    simp only [hfinal, ok_bind]
    rw [allocatorAllocate_refines ho hb rfl]

/-- A buffer of a derivation that sees nothing of the past is a fresh descriptor's. -/
theorem bufferAllocate_fresh {p : Platform} {e : Attempt} {d : BufferDescriptor}
    (h : DerivesAfresh p.caps e.node d) : bufferAllocate p e d = bufferAllocate p e d.fresh := by
  rw [bufferAllocate, bufferAllocate, h]

/-- An allocation leaves the request. -/
theorem fresh_of_bufferAllocate {p : Platform} {e : Attempt} {d : BufferDescriptor}
    {r : BufferDescriptor × Option DmaBuf} (h : bufferAllocate p e d = .ok r) :
    r.1.fresh = d.fresh := by
  obtain ⟨⟨st, r'⟩, hr, h⟩ := bind_eq_ok.mp h
  have hfresh := fresh_of_derive hr
  cases st with
  | einval =>
    cases h
    exact hfresh
  | success =>
    obtain ⟨d'', hfinal, h⟩ := bind_eq_ok.mp h
    obtain ⟨o, -, h⟩ := bind_eq_ok.mp h
    cases h
    refine Eq.trans ?_ hfresh
    -- only the size is replaced
    rw [finalDescriptor_wrapping] at hfinal
    cases hfinal
    split <;> rfl

end DmaBuf

/-! ### A batch -/

section

variable (p : Platform)

/-- One buffer of a batch; `stride` is that of the buffers before it, or 0. -/
def allocateOne (e : Attempt) (stride : ℤ) (d : BufferDescriptor) :
    Run (BufferDescriptor × Except AllocError (DmaBuf × ℤ)) := do
  let (d, buf) ← DmaBuf.bufferAllocate p e d
  match buf, e.sharedMemory with
  | none, _ => .ok (d, .error .noMemory)
  | some _, .noFd => .ok (d, .error .badValue)
  | some _, .noMapping => .ok (d, .error .noMemory)
  | some b, .mapped =>
    -- the stride is the same for all the buffers
    if stride = 0 then .ok (d, .ok (b, d.pixelStride))
    else if stride ≠ d.pixelStride then .ok (d, .error .badValue)
    else .ok (d, .ok (b, stride))

/-- **The buffers of a batch.** -/
def allocateLoop : List Attempt → ℤ → BufferDescriptor →
    Run (BufferDescriptor × Except AllocError (List DmaBuf))
  | [], _, d => .ok (d, .ok [])
  | e :: es, stride, d => do
    let (d, r) ← allocateOne p e stride d
    match r with
    | .error err => .ok (d, .error err)
    | .ok (b, stride) => do
      let (d, rest) ← allocateLoop es stride d
      .ok (d, rest.map (b :: ·))

/-- The allocation of a batch. That there is room for its handles is taken for granted. -/
def allocate (es : List Attempt) (d : BufferDescriptor) :
    Run (BufferDescriptor × Except AllocError (List DmaBuf)) := allocateLoop p es 0 d

/-- The derivations that a batch makes: each attempt, with the descriptor it finds. -/
def derivationsFrom : List Attempt → ℤ → BufferDescriptor → List (Attempt × BufferDescriptor)
  | [], _, _ => []
  | e :: es, stride, d =>
    (e, d) ::
      match allocateOne p e stride d with
      | .ok (d, .ok (_, stride)) => derivationsFrom es stride d
      | _ => []

def derivations (es : List Attempt) (d : BufferDescriptor) : List (Attempt × BufferDescriptor) :=
  derivationsFrom p es 0 d

end

/-- **A batch in which no buffer depends on the ones before it.** -/
structure BatchAfresh (p : Platform) (es : List Attempt) (d : BufferDescriptor) : Prop where
  /-- Every derivation is that of the request. -/
  derives : ∀ x ∈ derivations p es d, DerivesAfresh p.caps x.1.node x.2
  /-- Every buffer is that of the request and its own surroundings. -/
  buffers : ∀ d' bs, allocate p es d = .ok (d', .ok bs) →
    List.Forall₂ (fun e b => ∃ d'', DmaBuf.bufferAllocate p e d.fresh = .ok (d'', some b)) es bs
  /-- No width is rounded to a multiple of zero. -/
  aligns : ∀ x ∈ derivations p es d, ∀ r,
    deriveFormatAndSize wrapping p.caps x.1.node x.2 = .ok (.success, r) →
      Avoids .divByZero (needMmap wrapping r)

section

variable {p : Platform} {es : List Attempt} {d : BufferDescriptor}

/-- One buffer of a batch is allocated. -/
theorem bufferAllocate_of_allocateOne {e : Attempt} {stride stride' : ℤ} {d' : BufferDescriptor}
    {b : DmaBuf} (h : allocateOne p e stride d = .ok (d', .ok (b, stride'))) :
    DmaBuf.bufferAllocate p e d = .ok (d', some b) := by
  obtain ⟨⟨d'', buf⟩, hbuf, h⟩ := bind_eq_ok.mp h
  rw [hbuf]
  cases buf with
  | none => cases h
  | some b' =>
    cases hm : e.sharedMemory with
    | noFd => simp only [hm] at h; cases h
    | noMapping => simp only [hm] at h; cases h
    | mapped =>
      simp only [hm] at h
      split_ifs at h <;> cases h <;> rfl

/-- A batch that is allocated is a buffer and a batch. -/
theorem of_allocateLoop_cons {e : Attempt} {stride : ℤ} {d' : BufferDescriptor}
    {bs : List DmaBuf} (h : allocateLoop p (e :: es) stride d = .ok (d', .ok bs)) :
    ∃ d₁ b stride' bs', allocateOne p e stride d = .ok (d₁, .ok (b, stride')) ∧
      allocateLoop p es stride' d₁ = .ok (d', .ok bs') ∧ bs = b :: bs' := by
  obtain ⟨⟨d₁, r⟩, hone, h⟩ := bind_eq_ok.mp h
  rcases r with err | ⟨b, stride'⟩
  · cases h
  · obtain ⟨⟨d₂, rest⟩, hrest, h⟩ := bind_eq_ok.mp h
    rcases rest with err | bs'
    · cases h
    · cases h
      exact ⟨d₁, b, stride', bs', hone, hrest, rfl⟩

/-- **The buffers of a batch** in which nothing of the past is seen, one by one. -/
theorem forall₂_of_allocateLoop (es : List Attempt) :
    ∀ {stride : ℤ} {d d' : BufferDescriptor} {bs : List DmaBuf},
      (∀ x ∈ derivationsFrom p es stride d, DerivesAfresh p.caps x.1.node x.2) →
      allocateLoop p es stride d = .ok (d', .ok bs) →
      List.Forall₂ (fun e b => ∃ d'', DmaBuf.bufferAllocate p e d.fresh = .ok (d'', some b))
        es bs := by
  induction es with
  | nil =>
    intro stride d d' bs _ h
    cases h
    exact .nil
  | cons e es ih =>
    intro stride d d' bs hfresh h
    obtain ⟨d₁, b, stride', bs', hone, hrest, rfl⟩ := of_allocateLoop_cons h
    have hbuf := bufferAllocate_of_allocateOne hone
    have heq : d₁.fresh = d.fresh := DmaBuf.fresh_of_bufferAllocate hbuf
    refine .cons ⟨d₁, ?_⟩ ?_
    · rw [← DmaBuf.bufferAllocate_fresh (hfresh (e, d) List.mem_cons_self), hbuf]
    · rw [← heq]
      refine ih (fun x hx => hfresh x (List.mem_cons_of_mem _ ?_)) hrest
      rw [hone]
      exact hx

/-- A derivation of a fresh descriptor leaves no zero to round a width to. -/
theorem avoids_needMmap_of_fresh {caps : Capabilities} {node : ℕ → Option DecoderPara}
    {r : BufferDescriptor}
    (hr : deriveFormatAndSize wrapping caps node d.fresh = .ok (.success, r)) :
    Avoids .divByZero (needMmap wrapping r) := by
  obtain ⟨c, hc, -⟩ := deriveFormatAndSize_eq_success.mp hr
  obtain ⟨hp, ht, -⟩ := of_derive_fresh (d := d) hc hr
  dsimp only at hp ht
  cases hreply : decoderReply node d with
  | none =>
    rw [prepared_of_none (d := d.fresh) hreply] at ht
    have htype : ¬(r.decoderParaType = .wxh ∨ r.decoderParaType = .both) := by
      rw [ht]
      exact nofun
    rw [needMmap, if_neg htype]
    exact avoids_ok _ _
  | some q =>
    rw [prepared_of_some (d := d.fresh) hreply] at hp ht
    refine Avoids.ite (fun htype => ?_) fun _ => avoids_ok _ _
    -- both types mean that the decoder gave alignments
    have hq : q.validWh = true := by
      by_contra hno
      have ht : r.decoderParaType = q.paraType := ht
      rw [ht] at htype
      rcases q.paraType_of_not_validWh (Bool.eq_false_of_not_eq_true hno) with h | h <;>
        rw [h] at htype <;> exact absurd htype (by decide)
    have hw : 0 < r.decoderPara.wAlign.toNat := by
      simp only [DecoderPara.validWh, Bool.and_eq_true, bne_iff_ne] at hq
      rw [hp]
      exact Nat.pos_of_ne_zero fun h0 => hq.1.2 (BitVec.eq_of_toNat_eq h0)
    exact (avoids_wrapping_alignU32 _ _ hw).bind fun _ _ =>
      (avoids_wrapping_alignU32 _ _ hw).bind fun _ _ => avoids_ok _ _

/-- **When the buffers of a batch do not depend on the ones before them.** -/
theorem batchAfresh_iff (p : Platform) (es : List Attempt) (d : BufferDescriptor) :
    BatchAfresh p es d ↔
      ∀ x ∈ derivations p es d,
        (∃ r, deriveFormatAndSize wrapping p.caps x.1.node x.2 = .ok r) →
          NoStale p.caps x.1.node x.2 := by
  constructor
  · exact fun h x hx => derivesAfresh_iff.mp (h.derives x hx)
  · intro h
    have hd : ∀ x ∈ derivations p es d, DerivesAfresh p.caps x.1.node x.2 := fun x hx =>
      derivesAfresh_iff.mpr (h x hx)
    refine ⟨hd, fun d' bs => forall₂_of_allocateLoop es hd, fun x hx r hr => ?_⟩
    rw [hd x hx] at hr
    exact avoids_needMmap_of_fresh hr

end

/-! ### A decoder that answers once -/

/-- 16 × 16 pixels of RGBA_8888 for the GPU, with the number of a decoder slot. -/
def slotSquare : BufferDescriptor := .request 16#32 16#32 0x1000000000300#64 1#64 1#32

/-- A product without compression, and without displays. -/
def Platform.plain : Platform where
  caps := .gpuOnly
  displays := ⟨0, 0, 0, 0, 0, false⟩
  props := ⟨false, false⟩
  heaps := .default

/-- Surroundings in which every heap has memory, without a UVM. -/
def Attempt.ofNode (node : ℕ → Option DecoderPara) : Attempt where
  node := node
  kernel := .ofHeaps fun _ => true
  layerOnGfx := false
  agu := ⟨0#32, 0#32, 0#32⟩
  sharedMemory := .mapped

/-- A decoder of 16 × 16 frames, aligned to 16. -/
def decoder16 (_ : ℕ) : Option DecoderPara := some ⟨16#32, 16#32, 16#32, 16#32, 0#32, 0#32⟩

/-- The descriptor that the first buffer leaves. -/
def slotSquareDerived : BufferDescriptor :=
  { slotSquare with
    allocFormat := ⟨.unorm, 1#32, 0#32⟩
    size := 1024
    pixelStride := 16
    planeInfo := PlaneLayout.zero.set 0 ⟨0, 64, 16, 16⟩
    decoderParaType := .wxh
    decoderPara := ⟨16#32, 16#32, 16#32, 16#32, 0#32, 0#32⟩ }

/-- The first buffer. -/
def slotSquareBuf : DmaBuf where
  memory := .heap .systemUncached
  handle :=
    { DmaBuf.protectedSquareBuf.handle with
      consumerUsage := slotSquare.usage
      producerUsage := slotSquare.usage
      flags := 0#32
      usage := 0x300#32 }

/-- **The decoder is silent at the second buffer**, whose width is then rounded to a
multiple of zero; alone, that buffer is allocated. -/
theorem not_batchAfresh_slotSquare :
    ¬BatchAfresh .plain [.ofNode decoder16, .ofNode noDecoder] slotSquare ∧
      allocate .plain [.ofNode decoder16, .ofNode noDecoder] slotSquare = .error .divByZero ∧
      (allocate .plain [.ofNode noDecoder] slotSquare).map (fun r => r.2.isOk) = .ok true := by
  refine ⟨fun h => ?_, by decide +kernel, by decide +kernel⟩
  have hone : allocateOne .plain (.ofNode decoder16) 0 slotSquare =
      .ok (slotSquareDerived, .ok (slotSquareBuf, 16)) := by decide +kernel
  have hne : deriveFormatAndSize wrapping .gpuOnly noDecoder slotSquareDerived ≠
      deriveFormatAndSize wrapping .gpuOnly noDecoder slotSquareDerived.fresh := by decide +kernel
  refine hne (h.derives (.ofNode noDecoder, slotSquareDerived) ?_)
  rw [derivations, derivationsFrom, hone]
  exact List.mem_cons_of_mem _ List.mem_cons_self

end Gralloc
