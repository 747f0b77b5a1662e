import Gralloc.Alloc.Readings

/-!
# What a derivation keeps of the past

A descriptor is derived more than once: the allocator makes all the buffers of a request
from one descriptor, and derives it anew for each. What an earlier derivation calculated
is in it then, and a derivation that is a function of the request has to overwrite it, or
not to read it.

`Gralloc.deriveFormatAndSize_eq_map` says what is left. A derivation returns what it would
return on a fresh descriptor, with two things put back that it found: the planes that the
format does not have, and – when no decoder answered – the decoder's parameters other than
the two alignments that are cleared. A rejected descriptor keeps everything but its
format. `Gralloc.derivesAfresh_iff` turns the equation into the condition under which
nothing of the past is seen.
-/

namespace Gralloc

open CInt

namespace Planes

variable {α : Type}

/-- The first `n` planes of the one, the others of the other. -/
def splice (n : ℕ) (ps qs : Planes α) : Planes α :=
  ⟨if 0 < n then ps.p0 else qs.p0, if 1 < n then ps.p1 else qs.p1, if 2 < n then ps.p2 else qs.p2⟩

@[simp] theorem splice_zero (ps qs : Planes α) : splice 0 ps qs = qs := rfl

theorem get_splice_of_lt {n i : ℕ} (ps qs : Planes α) (hn : n ≤ 3) (hi : i < n) :
    (splice n ps qs).get i = ps.get i := by
  interval_cases n <;> interval_cases i <;> rfl

theorem get_splice_of_le {n i : ℕ} (ps qs : Planes α) (hi : n ≤ i) (h3 : i < 3) :
    (splice n ps qs).get i = qs.get i := by
  interval_cases i <;> interval_cases n <;> rfl

/-- Writing the next plane makes it one of the first. -/
theorem set_splice {n : ℕ} (ps qs : Planes α) (hn : n < 3) (a : α) :
    (splice n ps qs).set n a = splice (n + 1) (ps.set n a) qs := by
  interval_cases n <;> rfl

/-- Nothing is put back exactly when the planes are already there. -/
theorem splice_eq_iff {n : ℕ} {ps qs : Planes α} :
    splice n ps qs = ps ↔ ∀ i < 3, n ≤ i → qs.get i = ps.get i := by
  constructor
  · intro h i hi hni
    rw [← get_splice_of_le ps qs hni hi, h]
  · intro h
    have h0 := h 0 (by decide)
    have h1 := h 1 (by decide)
    have h2 := h 2 (by decide)
    simp only [get] at h0 h1 h2
    cases ps
    simp only [splice, mk.injEq, ite_eq_left_iff, not_lt]
    exact ⟨h0, h1, h2⟩

end Planes

/-! ### One plane after the other -/

section

variable {A : Arith} {f : FormatInfo} {t : AllocType} {usage : Usage} {plane : ℕ}
  {P Q : PlaneLayout}

/-- The stride of a plane depends on its width and on the planes before it. -/
theorem byteStride_congr (hw : (P.get plane).allocWidth = (Q.get plane).allocWidth)
    (hl : 0 < plane → P.get 0 = Q.get 0) :
    byteStride A f t usage plane P = byteStride A f t usage plane Q := by
  unfold byteStride
  rcases Nat.eq_zero_or_pos plane with rfl | hp
  · -- the first plane does not read its old stride
    simp only [hw, linearByteStride, updateYv12Stride, if_true]
  · simp only [hw, hl hp]

/-- The body of a plane depends on its dimensions and its stride, and on the first
plane's height. -/
theorem bodySize_congr {n : ℕ} (hp : (P.get plane).allocWidth = (Q.get plane).allocWidth ∧
      (P.get plane).allocHeight = (Q.get plane).allocHeight ∧
      (P.get plane).byteStride = (Q.get plane).byteStride)
    (hl : (P.get 0).allocHeight = (Q.get 0).allocHeight) :
    bodySize A f t plane P n = bodySize A f t plane Q n := by
  obtain ⟨hw, hh, hs⟩ := hp
  simp only [bodySize, hw, hh, hs, hl]

/-- **One plane** is sized in the same way whatever is in the planes from it on, and these
are left as they are. -/
theorem sizePlane_splice (onLuma : ℕ → Run ℤ) (width height : ℤ) {n : ℕ} (hn : n < 3)
    (P Q : PlaneLayout) (stride : ℤ) (size : ℕ)
    (h0 : n = 0 → (Q.get 0).offset = (P.get 0).offset) :
    sizePlane A f t usage onLuma width height n ⟨P.splice n Q, stride, size⟩ =
      (sizePlane A f t usage onLuma width height n ⟨P, stride, size⟩).map fun s =>
        { s with planeInfo := s.planeInfo.splice (n + 1) Q } := by
  unfold sizePlane
  simp only [map_bind]
  refine bind_congr fun w => bind_congr fun h => bind_congr fun wh => ?_
  have hget : ∀ R : PlaneLayout, (R.splice (n + 1) Q).get n = R.get n := fun R =>
    R.get_splice_of_lt Q (by omega) (Nat.lt_succ_self n)
  have hget0 : ∀ R : PlaneLayout, (R.splice (n + 1) Q).get 0 = R.get 0 := fun R =>
    R.get_splice_of_lt Q (by omega) (Nat.succ_pos n)
  have hset : ∀ (R : PlaneLayout) (a : PlaneInfo),
      (R.splice (n + 1) Q).set n a = (R.set n a).splice (n + 1) Q := by
    intro R a
    have hR : R.splice (n + 1) Q = (R.splice n Q).set n (R.get n) := by
      rw [Planes.set_splice _ _ hn]
      congr 1
      interval_cases n <;> rfl
    rw [hR, Planes.set_set, Planes.set_splice _ _ hn]
  simp only [Planes.set_splice _ _ hn]
  refine bind_congr_run (byteStride_congr ?_ fun hp => ?_) fun stride => ?_
  · rw [hget, Planes.get_set_self, Planes.get_set_self]
  · rw [hget0, Planes.get_set_of_ne _ _ hn (by decide) hp.ne,
      Planes.get_set_of_ne _ _ hn (by decide) hp.ne]
  refine bind_congr fun pixelStride => bind_congr fun pixels => bind_congr fun start => ?_
  simp only [hset, hget, Planes.get_set_self, Planes.set_set]
  refine bind_congr_run (bodySize_congr ?_ ?_) fun body => bind_congr fun header => ?_
  · rw [hget]
    simp only [Planes.get_set_self, and_self]
  · rw [hget0]
    rcases Nat.eq_zero_or_pos n with rfl | hp
    · simp only [Planes.get_set_self]
    · rw [Planes.get_set_of_ne _ _ hn (by decide) hp.ne,
        Planes.get_set_of_ne _ _ hn (by decide) hp.ne]
  refine bind_congr_run ?_ fun offset => bind_congr fun share => bind_congr fun size => rfl
  rcases Nat.eq_zero_or_pos n with rfl | hp
  · rw [stepIf_of_not (lt_irrefl 0), stepIf_of_not (lt_irrefl 0), Planes.splice_zero, h0 rfl]
  · rw [stepIf_of hp, stepIf_of hp]

/-- **The first planes**, likewise. -/
theorem sizePlanes_splice (onLuma : ℕ → Run ℤ) (width height : ℤ) (P Q : PlaneLayout)
    (stride : ℤ) (size : ℕ) (h0 : (Q.get 0).offset = (P.get 0).offset) :
    ∀ n ≤ 3, sizePlanes A f t usage onLuma width height ⟨Q, stride, size⟩ n =
      (sizePlanes A f t usage onLuma width height ⟨P, stride, size⟩ n).map fun s =>
        { s with planeInfo := s.planeInfo.splice n Q } := by
  intro n
  induction n with
  | zero => exact fun _ => rfl
  | succ n ih =>
    intro hn
    simp only [sizePlanes, map_bind]
    rw [ih (by omega)]
    cases hs : sizePlanes A f t usage onLuma width height ⟨P, stride, size⟩ n with
    | error e => rfl
    | ok s =>
      refine sizePlane_splice onLuma width height hn s.planeInfo Q s.pixelStride s.size ?_
      rintro rfl
      cases hs
      exact h0

/-- **The size computation** keeps the planes that the format does not have, and sees
nothing else of the layout it is given. -/
theorem calcAllocationSizeWith_splice (hf : f.WellFormed) (onLuma : ℕ → Run ℤ)
    (width height : ℤ) (P Q : PlaneLayout) :
    calcAllocationSizeWith A f t usage onLuma width height Q =
      (calcAllocationSizeWith A f t usage onLuma width height P).map fun s =>
        { s with planeInfo := s.planeInfo.splice f.npln Q } := by
  have hsplice : ∀ R : PlaneLayout, R.splice f.npln (Q.set 0 { Q.get 0 with offset := 0 }) =
      R.splice f.npln Q := by
    intro R
    simp only [Planes.splice, Planes.set, hf.npln_pos, if_true]
  unfold calcAllocationSizeWith
  rw [sizePlanes_splice onLuma width height (P.set 0 { P.get 0 with offset := 0 }) _ 0 0
    (by simp only [Planes.get_set_self]) f.npln hf.npln_le]
  simp only [hsplice]


end

/-! ### The reply of the decoder -/

/-- The parameters that a decoder gives for a request, if it is one of a decoder and the
decoder answers. -/
def decoderReply (node : ℕ → Option DecoderPara) (d : BufferDescriptor) : Option DecoderPara :=
  if d.usage.has Usage.usingSlot then getParaFromNode node d.usage.decodeSlotId else none

/-- Which of the parameters are used. -/
def DecoderPara.paraType (p : DecoderPara) : DecoderParaType :=
  if p.size == 0#32 then (if p.validWh then .wxh else .none)
  else if p.validWh then .both
  else .size

/-- Without alignments the decoder's dimensions are not used. -/
theorem DecoderPara.paraType_of_not_validWh (p : DecoderPara) (h : p.validWh = false) :
    p.paraType = .none ∨ p.paraType = .size := by
  unfold paraType
  rw [h]
  cases p.size == 0#32
  · exact Or.inr rfl
  · exact Or.inl rfl

/-- Dimensions are used only with an alignment. -/
theorem DecoderPara.wAlign_ne_zero {p : DecoderPara}
    (h : p.paraType = .wxh ∨ p.paraType = .both) : p.wAlign ≠ 0#32 := by
  have hvalid : p.validWh = true := by
    by_contra hno
    rcases p.paraType_of_not_validWh (Bool.eq_false_of_not_eq_true hno) with ht | ht <;>
      rw [ht] at h <;> exact absurd h (by decide)
  simp only [validWh, Bool.and_eq_true, bne_iff_ne] at hvalid
  exact hvalid.1.2

/-- Parameters that were never written. -/
def BufferDescriptor.NoPara (d : BufferDescriptor) : Prop :=
  d.decoderParaType = .none ∧
    { d.decoderPara with wAlign := 0#32, hAlign := 0#32 } = DecoderPara.zero

instance (d : BufferDescriptor) : Decidable d.NoPara := inferInstanceAs (Decidable (_ ∧ _))

/-- The request alone, as if nothing had been calculated from it. -/
def BufferDescriptor.fresh (d : BufferDescriptor) : BufferDescriptor :=
  { d with
    size := 0
    pixelStride := 0
    allocFormat := .invalid
    planeInfo := .zero
    decoderParaType := .none
    decoderPara := .zero
    -- without an initialiser in the source
    pitches := 0 }

@[simp] theorem fresh_usage (d : BufferDescriptor) : d.fresh.usage = d.usage := rfl

section

variable {A : Arith} {caps : Capabilities} {node : ℕ → Option DecoderPara}
  {d : BufferDescriptor} {p : DecoderPara}

/-- The decoder's fields are its reply, or what was there with two alignments cleared. -/
theorem withDecoderPara_eq (node : ℕ → Option DecoderPara) (d : BufferDescriptor) :
    withDecoderPara node d =
      match decoderReply node d with
      | none => { d with decoderPara := { d.decoderPara with wAlign := 0#32, hAlign := 0#32 } }
      | some p => { d with decoderPara := p, decoderParaType := p.paraType } := by
  unfold withDecoderPara decoderReply BufferDescriptor.usage
  dsimp only
  split_ifs
  · cases getParaFromNode node _ <;> rfl
  · rfl

theorem prepared_of_some (h : decoderReply node d = some p) :
    prepared caps node d =
      { d with
        allocFormat := selectFormat caps d.halFormat d.flags d.usage
        decoderPara := p
        decoderParaType := p.paraType } := by
  have h' : decoderReply node
      { d with allocFormat := selectFormat caps d.halFormat d.flags d.usage } = some p := h
  rw [prepared, withDecoderPara_eq, h']

theorem prepared_of_none (h : decoderReply node d = none) :
    prepared caps node d =
      { d with
        allocFormat := selectFormat caps d.halFormat d.flags d.usage
        decoderPara := { d.decoderPara with wAlign := 0#32, hAlign := 0#32 } } := by
  have h' : decoderReply node
      { d with allocFormat := selectFormat caps d.halFormat d.flags d.usage } = none := h
  rw [prepared, withDecoderPara_eq, h']

/-- The dimensions to size are those of the request and the reply. -/
theorem allocDimensions_fresh (format : InternalFormat) :
    allocDimensions A format (prepared caps node d) =
      allocDimensions A format (prepared caps node d.fresh) := by
  cases h : decoderReply node d with
  | none => rw [prepared_of_none h, prepared_of_none (d := d.fresh) h]; rfl
  | some p => rw [prepared_of_some h, prepared_of_some (d := d.fresh) h]; rfl

theorem dims_fresh (format : InternalFormat) :
    Exact.dims format (prepared caps node d) = Exact.dims format (prepared caps node d.fresh) := by
  cases h : decoderReply node d with
  | none => rw [prepared_of_none h, prepared_of_none (d := d.fresh) h]; rfl
  | some p => rw [prepared_of_some h, prepared_of_some (d := d.fresh) h]; rfl

/-- Nothing of the past is in the decoder's fields exactly when a decoder answered, or
nothing was in them. -/
theorem prepared_para_fresh_iff :
    (prepared caps node d).decoderPara = (prepared caps node d.fresh).decoderPara ∧
        (prepared caps node d).decoderParaType = (prepared caps node d.fresh).decoderParaType ↔
      (decoderReply node d = none → d.NoPara) := by
  cases h : decoderReply node d with
  | none =>
    rw [prepared_of_none h, prepared_of_none (d := d.fresh) h]
    exact ⟨fun ⟨hp, ht⟩ _ => ⟨ht, hp⟩, fun hno => ⟨(hno rfl).2, (hno rfl).1⟩⟩
  | some p =>
    rw [prepared_of_some h, prepared_of_some (d := d.fresh) h]
    exact ⟨fun _ h => (nomatch h), fun _ => ⟨rfl, rfl⟩⟩

/-! ### The derivation -/

theorem prepared_congr_node {node' : ℕ → Option DecoderPara}
    (h : decoderReply node d = decoderReply node' d) :
    prepared caps node d = prepared caps node' d := by
  cases hr : decoderReply node' d with
  | none => rw [prepared_of_none (h.trans hr), prepared_of_none hr]
  | some p => rw [prepared_of_some (h.trans hr), prepared_of_some hr]

/-- **Of a decoder a derivation sees the reply** to its request. -/
theorem deriveFormatAndSize_congr_node {node' : ℕ → Option DecoderPara}
    (h : decoderReply node d = decoderReply node' d) :
    deriveFormatAndSize A caps node d = deriveFormatAndSize A caps node' d := by
  cases hc : choose caps d with
  | none => simp only [deriveFormatAndSize, hc]
  | some c =>
    rw [deriveFormatAndSize_of_choose hc, deriveFormatAndSize_of_choose hc,
      prepared_congr_node h]

/-- What a derivation puts back into its result: the planes that a format does not have,
and decoder parameters that were not replaced. -/
def BufferDescriptor.putBack (old : BufferDescriptor) (npln : ℕ) (r : BufferDescriptor) :
    BufferDescriptor :=
  { r with
    planeInfo := r.planeInfo.splice npln old.planeInfo
    decoderParaType := old.decoderParaType
    decoderPara := old.decoderPara }

/-- Nothing is put back exactly when everything is already there. -/
theorem putBack_eq_iff {old r : BufferDescriptor} {n : ℕ} :
    old.putBack n r = r ↔ (∀ i < 3, n ≤ i → old.planeInfo.get i = r.planeInfo.get i) ∧
      old.decoderPara = r.decoderPara ∧ old.decoderParaType = r.decoderParaType := by
  rw [← Planes.splice_eq_iff, and_comm (a := old.decoderPara = _)]
  cases r
  simp only [BufferDescriptor.putBack, BufferDescriptor.mk.injEq, true_and, and_true]

/-- **A derivation is that of a fresh descriptor**, with what it found put back. -/
theorem deriveFormatAndSize_eq_map {c : Choice d.usage d.height} (hc : choose caps d = some c) :
    deriveFormatAndSize A caps node d =
      (deriveFormatAndSize A caps node d.fresh).map fun r =>
        (r.1, (prepared caps node d).putBack c.info.npln r.2) := by
  have hc' : choose caps d.fresh = some c := hc
  rw [deriveFormatAndSize_of_choose hc, deriveFormatAndSize_of_choose hc']
  simp only [map_bind, allocDimensions_fresh (d := d)]
  refine bind_congr fun wh => ?_
  simp only [Choice.layout, prepared_planeInfo, prepared_layerCount, fresh_usage]
  rw [calcAllocationSizeWith_splice c.info_wellFormed _ wh.1 wh.2 d.fresh.planeInfo d.planeInfo]
  cases calcAllocationSizeWith A c.info c.allocType d.usage (Gralloc.pixelStride A c.info) wh.1
      wh.2 d.fresh.planeInfo with
  | error e => rfl
  | ok s =>
    have hlayers : d.fresh.layerCount = d.layerCount := rfl
    simp only [Except.map, ok_bind, hlayers]
    cases allLayers A c.format d.layerCount s.size with
    | error e => rfl
    | ok size =>
      simp only [ok_bind]
      refine bind_congr_run rfl fun pitches => ?_
      obtain ⟨p, ty, h⟩ := prepared_eq caps node d
      obtain ⟨p', ty', h'⟩ := prepared_eq caps node d.fresh
      rw [h, h']
      rfl

/-- **Nothing of the past**: whatever an earlier derivation left, this one does not see.
A request that is refused finds a descriptor without calculated fields. One that is
accepted finds the planes that its format does not have unwritten; and its decoder
answers, or has never answered. -/
structure NoStale (caps : Capabilities) (node : ℕ → Option DecoderPara) (d : BufferDescriptor) :
    Prop where
  refused : choose caps d = none → d.size = 0 ∧ d.pixelStride = 0 ∧ d.planeInfo = .zero ∧
    d.decoderParaType = .none ∧ d.decoderPara = .zero ∧ d.pitches = 0
  planes : ∀ c, choose caps d = some c → ∀ i < 3, c.info.npln ≤ i →
    d.planeInfo.get i = PlaneLayout.zero.get i
  para : choose caps d ≠ none → decoderReply node d = none → d.NoPara

/-- The derivation is that of the request alone. -/
def DerivesAfresh (caps : Capabilities) (node : ℕ → Option DecoderPara) (d : BufferDescriptor) :
    Prop :=
  deriveFormatAndSize wrapping caps node d = deriveFormatAndSize wrapping caps node d.fresh

/-- A derivation leaves the request. -/
theorem fresh_of_derive {r : Status × BufferDescriptor}
    (hr : deriveFormatAndSize A caps node d = .ok r) : r.2.fresh = d.fresh := by
  cases hc : choose caps d with
  | none =>
    simp only [deriveFormatAndSize, hc] at hr
    cases hr
    rfl
  | some c =>
    rw [deriveFormatAndSize_of_choose hc] at hr
    obtain ⟨wh, -, hr⟩ := bind_eq_ok.mp hr
    obtain ⟨s, -, hr⟩ := bind_eq_ok.mp hr
    obtain ⟨pitches, -, hr⟩ := bind_eq_ok.mp hr
    cases hr
    obtain ⟨p, ty, h⟩ := prepared_eq caps node d
    rw [h]
    rfl

/-- What a fresh descriptor is derived to: its decoder's fields are the reply's, and the
planes that its format does not have are unwritten. -/
theorem of_derive_fresh {c : Choice d.usage d.height} (hc : choose caps d = some c)
    {r : Status × BufferDescriptor} (hr : deriveFormatAndSize A caps node d.fresh = .ok r) :
    r.2.decoderPara = (prepared caps node d.fresh).decoderPara ∧
      r.2.decoderParaType = (prepared caps node d.fresh).decoderParaType ∧
      ∀ i < 3, c.info.npln ≤ i → r.2.planeInfo.get i = PlaneLayout.zero.get i := by
  rw [deriveFormatAndSize_of_choose (d := d.fresh) hc] at hr
  obtain ⟨wh, -, hr⟩ := bind_eq_ok.mp hr
  obtain ⟨s', hs, hr⟩ := bind_eq_ok.mp hr
  obtain ⟨pitches, -, hr⟩ := bind_eq_ok.mp hr
  cases hr
  refine ⟨rfl, rfl, fun i hi hn => ?_⟩
  obtain ⟨s, hcalc, hs⟩ := bind_eq_ok.mp hs
  obtain ⟨size, -, hs⟩ := bind_eq_ok.mp hs
  cases hs
  rw [prepared_planeInfo, calcAllocationSizeWith_splice c.info_wellFormed _ _ _ .zero] at hcalc
  obtain ⟨s', -, rfl⟩ := map_eq_ok.mp hcalc
  exact Planes.get_splice_of_le _ _ hn hi

/-- A refused request leaves what it found, but for the format. -/
theorem derivesAfresh_iff_of_none (hc : choose caps d = none) :
    DerivesAfresh caps node d ↔ NoStale caps node d := by
  have hd : deriveFormatAndSize wrapping caps node d = .ok (.einval,
      { d with allocFormat := selectFormat caps d.halFormat d.flags d.usage }) := by
    simp only [deriveFormatAndSize, hc]
  have hf : deriveFormatAndSize wrapping caps node d.fresh = .ok (.einval,
      { d.fresh with allocFormat := selectFormat caps d.halFormat d.flags d.usage }) := by
    have hc' : choose caps d.fresh = none := hc
    simp only [deriveFormatAndSize, hc']
    rfl
  rw [DerivesAfresh, hd, hf]
  constructor
  · intro h
    have h := (Prod.mk.inj (Except.ok.inj h)).2
    simp only [BufferDescriptor.mk.injEq, BufferDescriptor.fresh, true_and] at h
    obtain ⟨h₁, h₂, h₃, h₄, h₅, h₆⟩ := h
    refine ⟨fun _ => ⟨h₁, h₂, h₃, h₄, h₅, h₆⟩, fun c h => ?_, fun h => absurd hc h⟩
    exact absurd (h.symm.trans hc) (Option.some_ne_none c)
  · intro h
    obtain ⟨h₁, h₂, h₃, h₄, h₅, h₆⟩ := h.refused hc
    rw [h₁, h₂, h₃, h₄, h₅, h₆]
    rfl

/-- What an accepted request puts back is there already exactly when nothing is stale. -/
theorem putBack_eq_iff_noStale {c : Choice d.usage d.height} (hc : choose caps d = some c)
    {r : Status × BufferDescriptor}
    (hr : deriveFormatAndSize wrapping caps node d.fresh = .ok r) :
    (prepared caps node d).putBack c.info.npln r.2 = r.2 ↔ NoStale caps node d := by
  obtain ⟨hp, ht, hpl⟩ := of_derive_fresh hc hr
  rw [putBack_eq_iff, hp, ht, prepared_para_fresh_iff, prepared_planeInfo]
  constructor
  · rintro ⟨hplanes, hpara⟩
    refine ⟨fun h => absurd (hc.symm.trans h) (Option.some_ne_none c),
      fun c' hc' i hi hn => ?_, fun _ => hpara⟩
    cases hc.symm.trans hc'
    exact (hplanes i hi hn).trans (hpl i hi hn)
  · rintro ⟨-, hplanes, hpara⟩
    exact ⟨fun i hi hn => (hplanes c hc i hi hn).trans (hpl i hi hn).symm,
      hpara (by rw [hc]; exact Option.some_ne_none c)⟩

/-- **When a derivation is that of the request alone.** -/
theorem derivesAfresh_iff :
    DerivesAfresh caps node d ↔
      ((∃ r, deriveFormatAndSize wrapping caps node d = .ok r) → NoStale caps node d) := by
  cases hc : choose caps d with
  | none =>
    have hd : ∃ r, deriveFormatAndSize wrapping caps node d = .ok r := by
      simp only [deriveFormatAndSize, hc]
      exact ⟨_, rfl⟩
    rw [derivesAfresh_iff_of_none hc]
    exact ⟨fun h _ => h, fun h => h hd⟩
  | some c =>
    rw [DerivesAfresh, deriveFormatAndSize_eq_map hc]
    cases hr : deriveFormatAndSize wrapping caps node d.fresh with
    | error e =>
      refine ⟨fun _ h => ?_, fun _ => rfl⟩
      obtain ⟨r, h⟩ := h
      cases h
    | ok r =>
      rw [← putBack_eq_iff_noStale hc hr]
      constructor
      · exact fun h _ => (Prod.mk.inj (Except.ok.inj h)).2
      · exact fun h => congrArg Except.ok (Prod.ext rfl (h ⟨_, rfl⟩))

end

end Gralloc
