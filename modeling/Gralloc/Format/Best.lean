import Gralloc.Format.AfbcFeatures
import Mathlib.Data.List.MinMax

/-!
# The best format

The search for a format goes once through the table and keeps five things: how many candidates
there were, the best grade, the first candidate that had it, and the grade and the candidate of
the requested base. Of a part of the table that has been seen these are what they should be
(`Gralloc.FormatSearch.Sees`): the first candidate of the best grade is `List.argmax` of the
grades, and the requested base is one entry of the table, as the bases of its entries differ.

What comes of the search at the end is a choice between two entries, the requested one and the
first of the best (`Gralloc.FormatSearch.found_eq`). Candidates keep the base they are made of
(`Gralloc.sameBase_of_getSupportedFormat`).
-/

namespace Gralloc

/-! ### Candidates keep their base -/

/-- The formats differ in their modifiers only. -/
def InternalFormat.SameBase (b a : InternalFormat) : Prop :=
  a.format = b.format ∧ a.dataType = b.dataType

section

variable {caps : Capabilities} {a b c : InternalFormat} {f : FormatInfo} {usage : Usage}
  {producers consumers : Ip}

namespace InternalFormat.SameBase

theorem rfl : InternalFormat.SameBase a a := ⟨Eq.refl _, Eq.refl _⟩

theorem setModifier (h : a.SameBase b) (flag : Modifiers) (v : Bool) :
    a.SameBase (b.setModifier flag v) := h

theorem setAfrcCodingSize (h : a.SameBase b) (shift : ℕ) (size : AfrcCodingUnitSize) :
    a.SameBase (InternalFormat.setAfrcCodingSize shift b size) := h

theorem ite (hb : a.SameBase b) (hc : a.SameBase c) (p : Prop) [Decidable p] :
    a.SameBase (if p then b else c) := by
  split
  · exact hb
  · exact hc

theorem getBase_eq (h : a.SameBase b) : b.getBase = a.getBase := by
  rw [InternalFormat.getBase, InternalFormat.getBase, h.1]

end InternalFormat.SameBase

theorem sameBase_getAfbcFormat (hf : f ∈ formats) :
    (InternalFormat.fromAndroid f.id (calcFormatDataType f)).SameBase
      (getAfbcFormat caps f usage producers consumers) := by
  rcases havoids : avoidsAfbc caps f producers consumers with - | -
  · have hbut : (afbcBase f).SameBut (getAfbcFormat caps f usage producers consumers) :=
      (afbcFeatures_getAfbcFormat hf havoids).1
    exact ⟨hbut.2.1, hbut.1⟩
  · rw [getAfbcFormat_of_avoidsAfbc havoids]
    exact .rfl

theorem getBase_getAfbcFormat (hf : f ∈ formats) :
    (getAfbcFormat caps f usage producers consumers).getBase = f.id :=
  (sameBase_getAfbcFormat hf).getBase_eq.trans
    (getBase_fromAndroid (and_fmtMask_of_mem_formats f hf))

theorem sameBase_getAfrcFormat :
    (InternalFormat.fromAndroid f.id (calcFormatDataType f)).SameBase
      (getAfrcFormat caps f usage producers consumers) := by
  unfold getAfrcFormat
  extract_lets base support layout
  have h : base.SameBase base := .rfl
  have hlayout (a : InternalFormat) (ha : layout = some a) : base.SameBase a := by
    simp only [layout] at ha
    split_ifs at ha <;> cases ha
    · exact (h.setModifier _ _).setModifier _ _
    · exact h.setModifier _ _
  split
  · rename_i format luma hformat hluma
    have hl : base.SameBase (format.setAfrcLumaCodingSize luma) := hlayout format hformat
    extract_lets format'
    split
    · split
      · exact hl
      · exact h
    · exact h.ite hl _
  · exact h

/-- **Candidates keep the base** they are made of. -/
theorem sameBase_of_getSupportedFormat (hf : f ∈ formats) {descriptorFlags : DescriptorFlags}
    (h : getSupportedFormat caps f usage producers consumers descriptorFlags = some a) :
    (InternalFormat.fromAndroid f.id (calcFormatDataType f)).SameBase a := by
  refine getSupportedFormat_ind h (fun _ => ?_) (fun _ => ?_) ?_ .rfl
  · exact sameBase_getAfrcFormat
  · exact sameBase_getAfbcFormat hf
  · exact (InternalFormat.SameBase.rfl.setModifier _ _).ite .rfl _

theorem getBase_of_getSupportedFormat (hf : f ∈ formats) {descriptorFlags : DescriptorFlags}
    (h : getSupportedFormat caps f usage producers consumers descriptorFlags = some a) :
    a.getBase = f.id :=
  (sameBase_of_getSupportedFormat hf h).getBase_eq.trans
    (getBase_fromAndroid (and_fmtMask_of_mem_formats f hf))

end

/-! ### Candidates and their grades -/

/-- **A search** for the best format: what is requested, and by whom it is used. -/
structure FormatSearch where
  caps : Capabilities
  req : FormatInfo
  usage : Usage
  producers : Ip
  consumers : Ip
  descriptorFlags : DescriptorFlags

namespace FormatSearch

variable (s : FormatSearch)

def supported (f : FormatInfo) : Option InternalFormat :=
  getSupportedFormat s.caps f s.usage s.producers s.consumers s.descriptorFlags

/-- **The candidate of an entry**: compatible, supported, and not graded zero. -/
def candidate (f : FormatInfo) : Option InternalFormat :=
  if isFormatCompatible s.req f then
    (s.supported f).filter fun a => gradeFormat a f s.req != 0
  else none

/-- The grade of an entry, zero without a candidate. -/
def grade (f : FormatInfo) : ℕ :=
  match s.candidate f with
  | some a => gradeFormat a f s.req
  | none => 0

/-- The CPU produces or consumes. -/
def cpu : Bool := s.producers.contains Ip.cpu || s.consumers.contains Ip.cpu

def step : BestFormat → FormatInfo → BestFormat :=
  BestFormat.step s.caps s.usage s.producers s.consumers s.descriptorFlags s.req

/-- The format that is found. -/
def found : InternalFormat :=
  getBestFormat s.caps s.req s.usage s.producers s.consumers s.descriptorFlags

/-- **What is kept of a part of the table** that has been seen. -/
structure Sees (l : List FormatInfo) (b : BestFormat) : Prop where
  none_iff : b.numSupportedFormats = 0 ↔ ∀ f ∈ l, s.candidate f = none
  best : b.bestFmtGrade = (l.argmax s.grade).elim 0 s.grade
  first : ∀ f ∈ l.argmax s.grade, b.bestFmtGrade ≠ 0 →
    s.candidate f = some b.firstOfBestFormats
  reqGrade : b.reqFormatGrade = if s.req ∈ l then s.grade s.req else 0
  reqFormat : b.reqFormatGrade ≠ 0 → s.candidate s.req = some b.reqFormat

variable {s} {f : FormatInfo} {a : InternalFormat}

theorem candidate_eq_some_iff :
    s.candidate f = some a ↔
      isFormatCompatible s.req f = true ∧ s.supported f = some a ∧ gradeFormat a f s.req ≠ 0 := by
  rw [candidate, Option.ite_none_right_eq_some, Option.filter_eq_some_iff, bne_iff_ne]

theorem grade_of_candidate (h : s.candidate f = some a) : s.grade f = gradeFormat a f s.req := by
  rw [grade, h]

theorem grade_eq_zero_iff : s.grade f = 0 ↔ s.candidate f = none := by
  rcases h : s.candidate f with - | a
  · rw [grade, h]
    exact ⟨fun _ => rfl, fun _ => rfl⟩
  · rw [grade_of_candidate h]
    exact ⟨fun h₀ => absurd h₀ (candidate_eq_some_iff.mp h).2.2, fun h₀ => by cases h₀⟩

/-! ### One entry -/

/-- An entry without a candidate changes nothing. -/
theorem step_of_none (b : BestFormat) (h : s.candidate f = none) : s.step b f = b := by
  rw [step, BestFormat.step]
  rcases hc : isFormatCompatible s.req f with - | -
  · rfl
  rcases hs : s.supported f with - | a
  · rw [supported] at hs
    rw [hs]
    rfl
  by_cases hgrade : gradeFormat a f s.req = 0
  · rw [supported] at hs
    rw [hs]
    exact if_pos hgrade
  · rw [candidate_eq_some_iff.mpr ⟨hc, hs, hgrade⟩] at h
    cases h

/-- An entry with a candidate. -/
theorem step_of_some (b : BestFormat) (h : s.candidate f = some a) :
    s.step b f =
      { numSupportedFormats := b.numSupportedFormats + 1
        bestFmtGrade := max b.bestFmtGrade (s.grade f)
        firstOfBestFormats := if b.bestFmtGrade < s.grade f then a else b.firstOfBestFormats
        reqFormatGrade := if a.getBase == s.req.id then s.grade f else b.reqFormatGrade
        reqFormat := if a.getBase == s.req.id then a else b.reqFormat } := by
  rcases candidate_eq_some_iff.mp h with ⟨hc, hs, hgrade⟩
  rw [supported] at hs
  rw [step, BestFormat.step, hc, hs, grade_of_candidate h]
  dsimp only
  rw [if_neg (by decide), if_neg hgrade]
  by_cases hlt : b.bestFmtGrade < gradeFormat a f s.req
  · simp only [if_pos hlt, max_eq_right hlt.le]
    split <;> rfl
  · simp only [if_neg hlt, max_eq_left (not_lt.mp hlt)]
    split <;> rfl

/-- The bases of the table differ. -/
theorem eq_of_id_eq {g : FormatInfo} (hf : f ∈ formats) (hg : g ∈ formats) (h : f.id = g.id) :
    f = g := by
  have hf' := getFormatInfo_of_mem_formats f hf
  rw [h, getFormatInfo_of_mem_formats g hg] at hf'
  exact (Option.some.inj hf').symm

/-- A candidate is of the requested base in the requested entry only. -/
theorem getBase_candidate_iff (hreq : s.req ∈ formats) (hf : f ∈ formats)
    (h : s.candidate f = some a) : (a.getBase == s.req.id) = true ↔ f = s.req := by
  rw [beq_iff_eq, getBase_of_getSupportedFormat hf (candidate_eq_some_iff.mp h).2.1]
  exact ⟨eq_of_id_eq hf hreq, fun heq => congrArg FormatInfo.id heq⟩

/-! ### The search -/

namespace Sees

variable {l : List FormatInfo} {b : BestFormat}

theorem start : s.Sees [] ⟨0, 0, 0, .invalid, .invalid⟩ where
  none_iff := by
    refine ⟨fun _ f hf => ?_, fun _ => rfl⟩
    cases hf
  best := rfl
  first _ h := by cases h
  reqGrade := rfl
  reqFormat h := absurd rfl h

/-- The first of the best, with one more entry. -/
theorem argmax_concat (hb : s.Sees l b) (f : FormatInfo) :
    (l ++ [f]).argmax s.grade =
      if b.bestFmtGrade < s.grade f then some f
      else if l = [] then some f else l.argmax s.grade := by
  rw [List.argmax_concat, hb.best]
  rcases hm : l.argmax s.grade with - | m
  · rw [if_pos (List.argmax_eq_none.mp hm), ite_self]
  · have hne : l ≠ [] := fun h => by
      rw [h] at hm
      cases hm
    rw [if_neg hne]
    rfl

theorem bestFmtGrade_nil (hb : s.Sees l b) (h : l = []) : b.bestFmtGrade = 0 := by
  rw [hb.best, h]
  rfl

/-- The best grade, with one more entry. -/
theorem elim_argmax_concat (hb : s.Sees l b) (f : FormatInfo) :
    ((l ++ [f]).argmax s.grade).elim 0 s.grade = max b.bestFmtGrade (s.grade f) := by
  rw [hb.argmax_concat]
  split_ifs with hlt hnil
  · exact (max_eq_right hlt.le).symm
  · rw [hb.bestFmtGrade_nil hnil, Nat.zero_max]
    rfl
  · rw [max_eq_left (not_lt.mp hlt), hb.best]

theorem mem_concat_iff {g : FormatInfo} : g ∈ l ++ [f] ↔ g ∈ l ∨ g = f := by
  rw [List.mem_append, List.mem_singleton]

theorem step_of_none (hb : s.Sees l b) (h : s.candidate f = none) : s.Sees (l ++ [f]) b := by
  have hgrade : s.grade f = 0 := grade_eq_zero_iff.mpr h
  refine ⟨?_, ?_, ?_, ?_, hb.reqFormat⟩
  · rw [hb.none_iff, List.forall_mem_append, List.forall_mem_singleton]
    exact ⟨fun hl => ⟨hl, h⟩, And.left⟩
  · rw [hb.elim_argmax_concat, hgrade, Nat.max_zero]
  · rintro g hg hbest
    rw [hb.argmax_concat, hgrade, if_neg (Nat.not_lt_zero _)] at hg
    split_ifs at hg with hnil
    · exact absurd (hb.bestFmtGrade_nil hnil) hbest
    · exact hb.first g hg hbest
  · rw [hb.reqGrade]
    by_cases hreq : s.req = f
    · rw [hreq, hgrade, ite_self, ite_self]
    · simp only [mem_concat_iff, hreq, or_false]

theorem step_of_some (hreq : s.req ∈ formats) (hf : f ∈ formats) (hb : s.Sees l b)
    (h : s.candidate f = some a) : s.Sees (l ++ [f]) (s.step b f) := by
  have hbase := getBase_candidate_iff hreq hf h
  rw [FormatSearch.step_of_some b h]
  refine ⟨?_, (hb.elim_argmax_concat f).symm, ?_, ?_, ?_⟩
  · refine ⟨fun hnum => absurd hnum (Nat.succ_ne_zero _), fun hnone => ?_⟩
    rw [hnone f (mem_concat_iff.mpr (.inr rfl))] at h
    cases h
  · rintro g hg hbest
    rw [hb.argmax_concat] at hg
    dsimp only at hbest ⊢
    split_ifs at hg ⊢ with hlt hnil
    · cases hg
      exact h
    · rw [hb.bestFmtGrade_nil hnil] at hlt
      exact absurd (grade_eq_zero_iff.mp (Nat.eq_zero_of_not_pos hlt)) (by rw [h]; rintro ⟨⟩)
    · rw [max_eq_left (not_lt.mp hlt)] at hbest
      exact hb.first g hg hbest
  · by_cases heq : f = s.req
    · rw [if_pos (hbase.mpr heq), if_pos (mem_concat_iff.mpr (.inr heq.symm)), heq]
    · have hmem : s.req ∈ l ++ [f] ↔ s.req ∈ l := by
        rw [mem_concat_iff, or_iff_left (Ne.symm heq)]
      rw [if_neg (mt hbase.mp heq), hb.reqGrade]
      simp only [hmem]
  · dsimp only
    by_cases heq : f = s.req
    · rw [if_pos (hbase.mpr heq), if_pos (hbase.mpr heq), ← heq]
      exact fun _ => h
    · rw [if_neg (mt hbase.mp heq), if_neg (mt hbase.mp heq)]
      exact hb.reqFormat

/-- **The step lemma of the search.** -/
theorem step (hreq : s.req ∈ formats) (hf : f ∈ formats) (hb : s.Sees l b) :
    s.Sees (l ++ [f]) (s.step b f) := by
  rcases h : s.candidate f with - | a
  · rw [FormatSearch.step_of_none b h]
    exact hb.step_of_none h
  · exact hb.step_of_some hreq hf h

end Sees

/-- **The part of the table that has been seen**, by induction on it from its end. -/
theorem sees_foldl (hreq : s.req ∈ formats) (l : List FormatInfo) (hl : l ⊆ formats) :
    s.Sees l (l.foldl s.step ⟨0, 0, 0, .invalid, .invalid⟩) := by
  induction l using List.reverseRecOn with
  | nil => exact .start
  | append_singleton l f ih =>
    rw [List.foldl_append]
    exact (ih fun g hg => hl (List.mem_append_left _ hg)).step hreq
      (hl (List.mem_append_right _ List.mem_cons_self))

/-! ### What is found -/

variable (s) in
/-- **What the search finds is a choice** between the requested entry and the first of the
best. -/
theorem found_eq (hreq : s.req ∈ formats) {m : FormatInfo} (hm : formats.argmax s.grade = some m) :
    s.found =
      (s.candidate (if s.cpu = true ∨ s.grade s.req = s.grade m then s.req else m)).getD
        .invalid := by
  have hsees := sees_foldl hreq formats fun _ h => h
  have hstep : BestFormat.step s.caps s.usage s.producers s.consumers s.descriptorFlags s.req =
      s.step := rfl
  rw [found, getBestFormat, hstep]
  generalize formats.foldl s.step ⟨0, 0, 0, .invalid, .invalid⟩ = b at hsees ⊢
  have hbest : b.bestFmtGrade = s.grade m := by
    rw [hsees.best, hm]
    rfl
  have hgrade : b.reqFormatGrade = s.grade s.req := by
    rw [hsees.reqGrade, if_pos hreq]
  have hcond : (b.reqFormatGrade ≠ b.bestFmtGrade &&
      (!s.producers.contains Ip.cpu && !s.consumers.contains Ip.cpu)) = true ↔
        ¬(s.cpu = true ∨ s.grade s.req = s.grade m) := by
    rw [hbest, hgrade, ← Bool.not_or, ← cpu, Bool.and_eq_true, decide_eq_true_iff,
      Bool.not_eq_true', not_or, Bool.not_eq_true, and_comm]
  have hmem : m ∈ formats := List.argmax_mem hm
  by_cases hnum : b.numSupportedFormats = 0
  · have hnone := hsees.none_iff.mp hnum
    rw [if_pos hnum]
    split_ifs
    · rw [hnone s.req hreq]
      rfl
    · rw [hnone m hmem]
      rfl
  · have hbest₀ : b.bestFmtGrade ≠ 0 := by
      rw [hbest]
      rintro hzero
      refine hnum (hsees.none_iff.mpr fun f hf => grade_eq_zero_iff.mp ?_)
      exact Nat.le_zero.mp (hzero ▸ List.le_of_mem_argmax hf hm)
    rw [if_neg hnum]
    by_cases hchoice : s.cpu = true ∨ s.grade s.req = s.grade m
    · rw [if_neg (mt hcond.mp (not_not.mpr hchoice)), if_pos hchoice]
      split_ifs with hreq₀
      · rw [hsees.reqFormat hreq₀]
        rfl
      · rw [grade_eq_zero_iff.mp (hgrade ▸ not_not.mp hreq₀)]
        rfl
    · rw [if_pos (hcond.mpr hchoice), if_neg hchoice, hsees.first m hm hbest₀]
      rfl

/-- An entry is before all others of its grade, and they are no better. -/
theorem split_of_argmax {m : FormatInfo} (hm : formats.argmax s.grade = some m) :
    ∃ l₁ l₂, formats = l₁ ++ m :: l₂ ∧ ∀ g ∈ l₁, s.grade g < s.grade m := by
  rcases List.mem_argmax_iff.mp hm with ⟨hmem, -, hindex⟩
  rcases List.eq_append_cons_of_mem hmem with ⟨l₁, l₂, hl, hnot⟩
  refine ⟨l₁, l₂, hl, fun g hg => lt_of_not_ge fun hge => ?_⟩
  have hle := hindex g (hl ▸ List.mem_append_left _ hg) hge
  have hlt := List.idxOf_lt_length_of_mem hg
  rw [hl, List.idxOf_append_of_notMem hnot, List.idxOf_append_of_mem hg] at hle
  omega

variable (s) in
/-- **The entry a search has to choose**: the requested one under the CPU. Otherwise one of the
best, the requested one if it is, and else the first of them in the table. -/
structure Chooses (f : FormatInfo) : Prop where
  mem : f ∈ formats
  cpu : s.cpu = true → f = s.req
  best : s.cpu = false → ∀ g ∈ formats, s.grade g ≤ s.grade f
  requested : (∀ g ∈ formats, s.grade g ≤ s.grade s.req) → f = s.req
  earliest : s.cpu = false → f ≠ s.req →
    ∃ l₁ l₂, formats = l₁ ++ f :: l₂ ∧ ∀ g ∈ l₁, s.grade g < s.grade f

variable (s) in
/-- **What a search has to find**: nothing where no entry has a candidate, or the requested one
has none and the CPU takes part; and else the candidate of the entry to choose. -/
structure IsBest (a : InternalFormat) : Prop where
  undefined_iff : a.isUndefined = true ↔
    ¬∃ f ∈ formats, (s.cpu = true → f = s.req) ∧ (s.candidate f).isSome = true
  defined : a.isUndefined = false → ∃ f, s.Chooses f ∧ s.candidate f = some a ∧ a.getBase = f.id

theorem exists_argmax_formats : ∃ m, formats.argmax s.grade = some m := by
  rcases hm : formats.argmax s.grade with - | m
  · exact absurd (List.argmax_eq_none.mp hm) (by decide)
  · exact ⟨m, rfl⟩

/-- There is such an entry. -/
theorem chooses_of_argmax (hreq : s.req ∈ formats) {m : FormatInfo}
    (hm : formats.argmax s.grade = some m) :
    s.Chooses (if s.cpu = true ∨ s.grade s.req = s.grade m then s.req else m) := by
  have hle : ∀ g ∈ formats, s.grade g ≤ s.grade m := fun g hg => List.le_of_mem_argmax hg hm
  split_ifs with hchoice
  · refine ⟨hreq, fun _ => rfl, fun hcpu g hg => ?_, fun _ => rfl, fun _ h => absurd rfl h⟩
    rcases hchoice with h | h
    · exact absurd (hcpu.symm.trans h) Bool.false_ne_true
    · exact h ▸ hle g hg
  · rw [not_or] at hchoice
    refine ⟨List.argmax_mem hm, fun hcpu => absurd hcpu hchoice.1, fun _ => hle, fun hall => ?_,
      fun _ _ => split_of_argmax hm⟩
    exact absurd (le_antisymm (hle _ hreq) (hall m (List.argmax_mem hm))) hchoice.2

theorem id_ne_undefined_of_mem_formats :
    ∀ f ∈ formats, f.id ≠ .undefined &&& Modifiers.fmtMask := by
  decide

/-- A candidate is not undefined. -/
theorem isUndefined_of_candidate (hf : f ∈ formats) (h : s.candidate f = some a) :
    a.isUndefined = false := by
  have hbase := getBase_of_getSupportedFormat hf (candidate_eq_some_iff.mp h).2.1
  refine beq_eq_false_iff_ne.mpr fun hformat => ?_
  rw [InternalFormat.getBase, hformat] at hbase
  exact id_ne_undefined_of_mem_formats f hf hbase.symm

/-- **The search finds the best format**, the requested one where it is as good, and otherwise
the first of the best. -/
theorem isBest_found (hreq : s.req ∈ formats) : s.IsBest s.found := by
  rcases exists_argmax_formats (s := s) with ⟨m, hm⟩
  have hchooses := chooses_of_argmax hreq hm
  rw [found_eq s hreq hm]
  generalize (if s.cpu = true ∨ s.grade s.req = s.grade m then s.req else m) = f at hchooses ⊢
  rcases hc : s.candidate f with - | a
  · refine ⟨⟨fun _ => ?_, fun _ => rfl⟩, fun h => absurd h (by decide)⟩
    rintro ⟨g, hg, hcpu, hsome⟩
    rcases Option.isSome_iff_exists.mp hsome with ⟨a, ha⟩
    have hzero : s.grade f = 0 := grade_eq_zero_iff.mpr hc
    have hgrade : s.grade g ≠ 0 := fun h => by
      rw [grade_eq_zero_iff.mp h] at ha
      cases ha
    rcases hp : s.cpu with - | -
    · exact hgrade (Nat.le_zero.mp (hzero ▸ hchooses.best hp g hg))
    · rw [hcpu hp, ← hchooses.cpu hp] at hgrade
      exact hgrade hzero
  · have hdefined := isUndefined_of_candidate hchooses.mem hc
    refine ⟨⟨fun h => ?_, fun h => ?_⟩, fun _ => ⟨f, hchooses, hc, ?_⟩⟩
    · exact absurd (hdefined.symm.trans h) Bool.false_ne_true
    · refine absurd ⟨f, hchooses.mem, hchooses.cpu, ?_⟩ h
      rw [hc]
      rfl
    · exact getBase_of_getSupportedFormat hchooses.mem (candidate_eq_some_iff.mp hc).2.1

/-- A texture that the GPU writes and reads. -/
theorem isBest_found_rgba8888 : ∃ f, getFormatInfo .rgba8888 = some f ∧
    let s : FormatSearch := ⟨.gpuOnly, f, Usage.hwRender ||| Usage.hwTexture, Ip.gpu, Ip.gpu, 0#32⟩
    s.IsBest s.found :=
  ⟨_, rfl, isBest_found (by decide)⟩

end FormatSearch

end Gralloc
