import Gralloc.CInt.Bytes
import Gralloc.Heap.Pick
import Gralloc.Transition.Reach
import Mathlib.Data.List.AList
import Mathlib.Data.List.DropRight

/-!
# Layers on the heap of the display

Where the layers of the display are kept in one heap, the three buffers of a layer have to come
from the same one. The allocator keeps a table of the layers that are not complete
(`Gralloc.LayerTable`): how many buffers are still to come, what was decided for the first, and
when the last one came. A layer is admitted to the heap of the display if three buffers of it
fit, beside all that is still to come of the others
(`Gralloc.amGrallocPickHeapGfx`); the other two get the same answer. What has not been
completed for five seconds is forgotten.

There are three ways in which this goes wrong. The table is gone through while entries are
erased from it, which leaves nothing defined. Three times the size is a product of 64 bits,
which wraps. And where the free size of the heap is not known, a buffer is put there whatever
was said of the layer. (The processes are of 64 bits, and so is `size_t`; the build makes others,
too.) A call that keeps away from them is `Gralloc.GfxSession.Steady`, and in
a run of such calls every call does as it should
(`Gralloc.GfxSession.admits_of_reach`).
-/

namespace Gralloc

open CInt

/-! ### The table -/

/-- What is kept of a layer: the buffers that are still to come, the size of one, when the last
one came, and where the first one was put. -/
structure LayerInfo where
  count : ℤ
  size : BitVec 64
  timeStamp : BitVec 64
  pickHeapGfx : Bool
  deriving DecidableEq, Repr

abbrev LayerName : Type := List (BitVec 8)

/-- **The layers that are not complete**, in no order. -/
abbrev LayerTable : Type := AList fun _ : LayerName => LayerInfo

def bufferCountPerLayer : ℕ := 3

/-- Five seconds, in nanoseconds. -/
def forceRemoveTime : BitVec 64 := 5000000000#64

/-- The free size of a heap that cannot be asked. -/
def unknownFreeSize : BitVec 64 := 0xffffffff#64

/-- Nothing has been heard of a layer for too long. -/
def LayerInfo.Stale (now : BitVec 64) (info : LayerInfo) : Prop :=
  forceRemoveTime ≤ now - info.timeStamp

instance (now : BitVec 64) : DecidablePred (LayerInfo.Stale now) := fun info =>
  inferInstanceAs (Decidable (forceRemoveTime ≤ now - info.timeStamp))

namespace LayerTable

/-- What is left to do of the loop that forgets layers. An entry is erased while the loop stands
on it; how to go on from there is not defined. -/
def expireFrom (now : BitVec 64) (t : LayerTable) :
    List (Sigma fun _ : LayerName => LayerInfo) → Option LayerTable
  | [] => some t
  | l :: ls => if l.2.Stale now then none else expireFrom now t ls

def expire (now : BitVec 64) (t : LayerTable) : Option LayerTable := expireFrom now t t.entries

/-- What is still to come, in 64 bits. -/
def waitAllocSize (t : LayerTable) : BitVec 64 :=
  t.entries.foldl (fun size l => size + BitVec.ofInt 64 l.2.count * l.2.size) 0#64

/-- What is still to come. -/
def waiting (t : LayerTable) : ℕ :=
  (t.entries.map fun l => l.2.count.toNat * l.2.size.toNat).sum

end LayerTable

/-! ### A call -/

/-- A call: the memory from the name of the descriptor on, the size of the buffer and its usage,
the time, and what the heap says is free. -/
structure LayerCall where
  name : List (BitVec 8)
  size : BitVec 64
  usage : Usage
  now : BitVec 64
  freeSize : BitVec 64
  deriving DecidableEq, Repr

def isDigit (c : BitVec 8) : Bool := 48#8 ≤ c && c ≤ 57#8

/-- The name of a layer: digits behind a hyphen tell one buffer from the next. (The first
character is not looked at for a digit; but a digit is no hyphen.) -/
def normalizedName (name : LayerName) : LayerName :=
  let stem := name.rdropWhile isDigit
  if stem.getLast? = some 45#8 then stem else name

namespace LayerCall

variable (c : LayerCall)

def layer : LayerName := normalizedName (cString c.name)

/-- Three buffers fit, in 64 bits, beside what is still to come. -/
def fits (t : LayerTable) : Bool :=
  decide (t.waitAllocSize < c.freeSize) &&
    decide (c.size * BitVec.ofNat 64 bufferCountPerLayer ≤ c.freeSize - t.waitAllocSize)

end LayerCall

/-- The answer to a call, from the table without what was forgotten. -/
def pickFromLayers (t : LayerTable) (c : LayerCall) : Bool × LayerTable :=
  match t.lookup c.layer with
  | some info =>
    let count := info.count - 1
    if count = 0 then (info.pickHeapGfx, t.erase c.layer)
    else (info.pickHeapGfx, t.insert c.layer { info with count := count, timeStamp := c.now })
  | none =>
    let count : ℤ := bufferCountPerLayer - 1
    if c.fits t then (true, t.insert c.layer ⟨count, c.size, c.now, true⟩)
    else (false, t.insert c.layer ⟨count, 0#64, c.now, false⟩)

/-- **Whether a buffer is put on the heap of the display**, and the table afterwards, if they are
defined. -/
def amGrallocPickHeapGfx (t : LayerTable) (c : LayerCall) : Option (Bool × LayerTable) :=
  if c.usage.hasCpu then some (false, t)
  else if (cString c.name).isEmpty then some (true, t)
  else if c.freeSize = unknownFreeSize then some (true, t)
  else (t.expire c.now).map fun t => pickFromLayers t c

/-- It is the answer that `Gralloc.pickHeapGfx` takes from the table. -/
theorem pickHeapGfx_of_amGrallocPickHeapGfx {cfg : HeapConfig} (h : cfg.allocFromSameHeap = true)
    {t : LayerTable} {c : LayerCall} {r : Bool × LayerTable}
    (hr : amGrallocPickHeapGfx t c = some r) : r.1 = pickHeapGfx cfg r.1 c.usage := by
  rw [pickHeapGfx, h, if_pos rfl]
  by_cases hcpu : c.usage.hasCpu = true
  · rw [amGrallocPickHeapGfx, if_pos hcpu] at hr
    cases hr
    exact (if_pos hcpu).symm
  · exact (if_neg hcpu).symm

/-! ### The sums -/

section

variable {t : LayerTable} {name : LayerName} {info : LayerInfo}

/-- A layer in the table is one of its entries, and erasing it leaves the others. -/
theorem perm_entries_of_lookup (h : t.lookup name = some info) :
    t.entries.Perm (⟨name, info⟩ :: (t.erase name).entries) := by
  have hmem : name ∈ t.entries.keys := by
    refine AList.mem_keys.mp (AList.lookup_isSome.mp ?_)
    rw [h]
    rfl
  obtain ⟨info', l₁, l₂, -, hl, hk⟩ := List.exists_of_kerase hmem
  have hinfo : info' = info := by
    have hentry : (⟨name, info'⟩ : Sigma fun _ : LayerName => LayerInfo) ∈ t.entries := by
      rw [hl]
      exact List.mem_append_right _ List.mem_cons_self
    have hlookup := AList.mem_lookup_iff.mpr hentry
    rw [h] at hlookup
    exact (Option.some.inj hlookup).symm
  have herase : (t.erase name).entries = l₁ ++ l₂ := hk
  rw [herase, hl, hinfo]
  exact List.perm_middle

/-- A layer that is not in the table is not erased from it. -/
theorem entries_erase_of_lookup (h : t.lookup name = none) :
    (t.erase name).entries = t.entries :=
  List.kerase_of_notMem_keys fun hmem =>
    AList.lookup_eq_none.mp h (AList.mem_keys.mpr hmem)

theorem waiting_of_lookup (h : t.lookup name = some info) :
    LayerTable.waiting t =
      info.count.toNat * info.size.toNat + LayerTable.waiting (t.erase name) := by
  have hsum := ((perm_entries_of_lookup h).map fun l =>
    l.2.count.toNat * l.2.size.toNat).sum_eq
  rw [List.map_cons, List.sum_cons] at hsum
  exact hsum

theorem waiting_insert (t : LayerTable) (name : LayerName) (info : LayerInfo) :
    LayerTable.waiting (t.insert name info) =
      info.count.toNat * info.size.toNat + LayerTable.waiting (t.erase name) := rfl

theorem waiting_erase_of_lookup (h : t.lookup name = none) :
    LayerTable.waiting (t.erase name) = LayerTable.waiting t := by
  rw [LayerTable.waiting, LayerTable.waiting, entries_erase_of_lookup h]

/-- Entries are as many as their counts say, in 64 bits and without, by induction on them. -/
theorem toNat_foldl_entries (ls : List (Sigma fun _ : LayerName => LayerInfo))
    (hcount : ∀ l ∈ ls, l.2.count = 1 ∨ l.2.count = 2) (size : BitVec 64) :
    (ls.foldl (fun size l => size + BitVec.ofInt 64 l.2.count * l.2.size) size).toNat =
      (size.toNat + (ls.map fun l => l.2.count.toNat * l.2.size.toNat).sum) % 2 ^ 64 := by
  induction ls generalizing size with
  | nil => exact (Nat.mod_eq_of_lt size.isLt).symm
  | cons l ls ih =>
    have hl := hcount l List.mem_cons_self
    have hmul : (BitVec.ofInt 64 l.2.count * l.2.size).toNat =
        l.2.count.toNat * l.2.size.toNat % 2 ^ 64 := by
      rw [BitVec.toNat_mul]
      rcases hl with h | h <;> rw [h] <;> rfl
    rw [List.foldl_cons, ih (fun l' hl' => hcount l' (List.mem_cons_of_mem l hl')),
      BitVec.toNat_add, hmul, List.map_cons, List.sum_cons, Nat.add_mod_mod, Nat.mod_add_mod,
      Nat.add_assoc]

theorem toNat_waitAllocSize (hcount : ∀ l ∈ t.entries, l.2.count = 1 ∨ l.2.count = 2)
    (hlt : t.waiting < 2 ^ 64) : t.waitAllocSize.toNat = t.waiting := by
  rw [LayerTable.waitAllocSize, toNat_foldl_entries _ hcount, BitVec.toNat_zero, Nat.zero_add]
  exact Nat.mod_eq_of_lt hlt

end

/-! ### Runs -/

/-- How a call is answered: as one for a buffer that the CPU uses, without asking the table, or
from the table. -/
inductive LayerSource where
  | cpu
  | unasked
  | table
  deriving DecidableEq, Repr

def LayerCall.source (c : LayerCall) : LayerSource :=
  if c.usage.hasCpu then .cpu
  else if (cString c.name).isEmpty then .unasked
  else if c.freeSize = unknownFreeSize then .unasked
  else .table

/-- The calls of a layer that belong together: what the first was told, how many are still to
come, when the last one came, and how they are answered. -/
structure LayerGroup where
  decision : Bool
  left : ℤ
  last : BitVec 64
  source : LayerSource
  deriving DecidableEq, Repr

def LayerInfo.group (info : LayerInfo) : LayerGroup :=
  ⟨info.pickHeapGfx, info.count, info.timeStamp, .table⟩

@[simp] theorem LayerInfo.group_left (info : LayerInfo) : info.group.left = info.count := rfl

/-- **The table in a run**, and beside it what each layer was told, kept from the calls alone. -/
structure GfxSession where
  layers : LayerTable
  groups : LayerName → Option LayerGroup
  now : BitVec 64

namespace GfxSession

def start : GfxSession := ⟨∅, fun _ => none, 0#64⟩

variable (s : GfxSession) (c : LayerCall)

/-- The calls of the same layer that came before, within the window. -/
def pending : Option LayerGroup :=
  (s.groups c.layer).filter fun g => decide (c.now - g.last < forceRemoveTime)

/-- The calls of the layer after this one. -/
def nextGroup (decision : Bool) : Option LayerGroup :=
  match s.pending c with
  | none => some ⟨decision, bufferCountPerLayer - 1, c.now, c.source⟩
  | some g => if g.left - 1 = 0 then none else some { g with left := g.left - 1, last := c.now }

/-- A call of a run. Where nothing is defined the state stays; no claim is made of it. -/
def step : GfxSession :=
  match amGrallocPickHeapGfx s.layers c with
  | none => s
  | some (decision, layers) =>
    ⟨layers, Function.update s.groups c.layer (s.nextGroup c decision), c.now⟩

/-- **What a call has to do**: its answer is defined. What is young stays in the table, and
nothing else; one or two buffers of each layer are to come. The layer is told what it was told
before. And where it is admitted to the heap of the display, it fits there. -/
structure Admits : Prop where
  defined : (amGrallocPickHeapGfx s.layers c).isSome = true
  expired : c.source = .table → ∃ t, s.layers.expire c.now = some t ∧
    ∀ name info, t.lookup name = some info ↔
      s.layers.lookup name = some info ∧ c.now - info.timeStamp < forceRemoveTime
  counts : ∀ r, amGrallocPickHeapGfx s.layers c = some r →
    ∀ name info, r.2.lookup name = some info → info.count = 1 ∨ info.count = 2
  agrees : ∀ r, amGrallocPickHeapGfx s.layers c = some r →
    ∀ g, s.pending c = some g → r.1 = g.decision
  admitted : c.source = .table → ∀ t, s.layers.expire c.now = some t →
    t.lookup c.layer = none → (pickFromLayers t c).1 = true →
      t.waiting + bufferCountPerLayer * c.size.toNat ≤ c.freeSize.toNat

/-- Time does not go back. -/
def Ordered : Prop := s.now ≤ c.now

instance : Decidable (s.Ordered c) := inferInstanceAs (Decidable (s.now ≤ c.now))

/-- **A call that keeps away from what goes wrong**: nothing has to be forgotten when the table
is asked, the layer is answered as it was before, and three buffers that are admitted have a
size in 64 bits. -/
structure Steady : Prop where
  ordered : s.Ordered c
  fresh : c.source = .table → ∀ name info, s.layers.lookup name = some info →
    ¬info.Stale c.now
  known : ∀ g, s.pending c = some g → c.source = g.source
  whole : c.source = .table → s.layers.lookup c.layer = none → c.fits s.layers = true →
    bufferCountPerLayer * c.size.toNat < 2 ^ 64

/-- What runs of steady calls keep: the table knows of each layer what it was told, or has not
heard of it for too long. -/
structure Consistent : Prop where
  counts : ∀ name info, s.layers.lookup name = some info → info.count = 1 ∨ info.count = 2
  waiting_lt : s.layers.waiting < 2 ^ 64
  entry : ∀ name info, s.layers.lookup name = some info → info.timeStamp ≤ s.now ∧
    (s.groups name = some info.group ∨ info.Stale s.now)
  cpu : ∀ name g, s.groups name = some g → g.source = .cpu → g.decision = false
  unasked : ∀ name g, s.groups name = some g → g.source = .unasked → g.decision = true
  table : ∀ name g, s.groups name = some g → g.source = .table →
    ∃ info, s.layers.lookup name = some info ∧ info.group = g

/-! ### What a steady call does -/

end GfxSession

section

variable {t : LayerTable} {c : LayerCall} {name : LayerName} {info : LayerInfo}

theorem LayerInfo.not_stale_iff {now : BitVec 64} :
    ¬info.Stale now ↔ now - info.timeStamp < forceRemoveTime := BitVec.not_le

/-- What is forgotten stays forgotten. -/
theorem LayerInfo.Stale.mono {now now' : BitVec 64} (h : info.Stale now)
    (hpast : info.timeStamp ≤ now) (hle : now ≤ now') : info.Stale now' := by
  have hpast' := BitVec.le_trans hpast hle
  rw [LayerInfo.Stale, BitVec.le_def, BitVec.toNat_sub_of_le hpast] at h
  rw [LayerInfo.Stale, BitVec.le_def, BitVec.toNat_sub_of_le hpast']
  rw [BitVec.le_def] at hle
  omega

/-- Where nothing has to be forgotten the pass changes nothing, by induction on what is left of
it. -/
theorem expireFrom_of_fresh {now : BitVec 64} :
    ∀ ls : List (Sigma fun _ : LayerName => LayerInfo), (∀ l ∈ ls, ¬l.2.Stale now) →
      LayerTable.expireFrom now t ls = some t
  | [], _ => rfl
  | l :: ls, h => by
    rw [LayerTable.expireFrom, if_neg (h l List.mem_cons_self)]
    exact expireFrom_of_fresh ls fun l' hl' => h l' (List.mem_cons_of_mem l hl')

theorem expire_of_fresh {now : BitVec 64}
    (h : ∀ name info, t.lookup name = some info → ¬info.Stale now) : t.expire now = some t := by
  refine expireFrom_of_fresh t.entries ?_
  rintro ⟨name, info⟩ hl
  exact h name info (AList.mem_lookup_iff.mpr hl)

theorem amGrallocPickHeapGfx_cpu (h : c.source = .cpu) :
    amGrallocPickHeapGfx t c = some (false, t) := by
  rw [LayerCall.source] at h
  split_ifs at h with hcpu
  exact if_pos hcpu

theorem amGrallocPickHeapGfx_unasked (h : c.source = .unasked) :
    amGrallocPickHeapGfx t c = some (true, t) := by
  rw [LayerCall.source] at h
  rw [amGrallocPickHeapGfx]
  split_ifs at h ⊢ <;> rfl

theorem amGrallocPickHeapGfx_table (h : c.source = .table) :
    amGrallocPickHeapGfx t c = (t.expire c.now).map fun t => pickFromLayers t c := by
  rw [LayerCall.source] at h
  rw [amGrallocPickHeapGfx]
  split_ifs at h ⊢
  rfl

theorem pickFromLayers_of_lookup (h : t.lookup c.layer = some info) :
    pickFromLayers t c =
      (info.pickHeapGfx,
        if info.count - 1 = 0 then t.erase c.layer
        else t.insert c.layer { info with count := info.count - 1, timeStamp := c.now }) := by
  rw [pickFromLayers, h]
  dsimp only
  split_ifs <;> rfl

theorem pickFromLayers_of_new (h : t.lookup c.layer = none) :
    pickFromLayers t c =
      (c.fits t, t.insert c.layer
        ⟨bufferCountPerLayer - 1, if c.fits t then c.size else 0#64, c.now, c.fits t⟩) := by
  rw [pickFromLayers, h]
  dsimp only
  cases c.fits t <;> rfl

/-- Three buffers that fit in 64 bits fit. -/
theorem waiting_add_le_of_fits (hcount : ∀ name info, t.lookup name = some info →
      info.count = 1 ∨ info.count = 2)
    (hlt : t.waiting < 2 ^ 64) (hwhole : bufferCountPerLayer * c.size.toNat < 2 ^ 64)
    (h : c.fits t = true) :
    t.waiting + bufferCountPerLayer * c.size.toNat ≤ c.freeSize.toNat := by
  have hwait : t.waitAllocSize.toNat = t.waiting :=
    toNat_waitAllocSize (fun l hl => hcount l.1 l.2 (AList.mem_lookup_iff.mpr hl)) hlt
  rw [LayerCall.fits, Bool.and_eq_true, decide_eq_true_iff, decide_eq_true_iff] at h
  rcases h with ⟨hfree, hsize⟩
  rw [BitVec.le_def, BitVec.toNat_sub_of_le (BitVec.le_of_lt hfree), BitVec.toNat_mul,
    BitVec.toNat_ofNat, Nat.mul_comm, hwait] at hsize
  rw [BitVec.lt_def, hwait] at hfree
  have hthree : bufferCountPerLayer % 2 ^ 64 = bufferCountPerLayer := rfl
  rw [hthree, Nat.mod_eq_of_lt hwhole] at hsize
  omega

end

namespace GfxSession

variable {s : GfxSession} {c : LayerCall}

theorem pending_eq_some_iff {g : LayerGroup} :
    s.pending c = some g ↔
      s.groups c.layer = some g ∧ c.now - g.last < forceRemoveTime := by
  rw [pending, Option.filter_eq_some_iff, decide_eq_true_iff]

theorem step_of_pick {r : Bool × LayerTable} (h : amGrallocPickHeapGfx s.layers c = some r) :
    s.step c =
      ⟨r.2, Function.update s.groups c.layer (s.nextGroup c r.1), c.now⟩ := by
  rw [step, h]

/-- A layer of the table that is not too old was told what the table says. -/
theorem Consistent.pending_of_lookup (hs : s.Consistent) (hle : s.Ordered c) {info : LayerInfo}
    (h : s.layers.lookup c.layer = some info) (hfresh : ¬info.Stale c.now) :
    s.pending c = some info.group := by
  rcases hs.entry c.layer info h with ⟨hpast, hgroup | hstale⟩
  · exact pending_eq_some_iff.mpr ⟨hgroup, LayerInfo.not_stale_iff.mp hfresh⟩
  · exact absurd (hstale.mono hpast hle) hfresh

/-- A layer that the table does not know is told for the first time. -/
theorem Consistent.pending_of_new (hs : s.Consistent) (hc : s.Steady c)
    (hsource : c.source = .table) (h : s.layers.lookup c.layer = none) : s.pending c = none := by
  rcases hg : s.pending c with - | g
  · rfl
  · have hsame := (hc.known g hg).symm.trans hsource
    rcases hs.table c.layer g (pending_eq_some_iff.mp hg).1 hsame with ⟨info, hinfo, -⟩
    rw [h] at hinfo
    cases hinfo

/-- A call that does not ask the table is answered alike for every layer. -/
theorem pick_of_source_ne (h : c.source ≠ .table) :
    amGrallocPickHeapGfx s.layers c = some (decide (c.source = .unasked), s.layers) := by
  rcases hsource : c.source with - | - | -
  · exact amGrallocPickHeapGfx_cpu hsource
  · exact amGrallocPickHeapGfx_unasked hsource
  · exact absurd hsource h

theorem Steady.pick_of_source_eq (hc : s.Steady c) (h : c.source = .table) :
    amGrallocPickHeapGfx s.layers c = some (pickFromLayers s.layers c) := by
  rw [amGrallocPickHeapGfx_table h, expire_of_fresh (hc.fresh h), Option.map_some]

/-- What a layer of the table has still to come after one more buffer. -/
theorem Consistent.count_of_lookup (hs : s.Consistent) {name : LayerName} {info : LayerInfo}
    (h : s.layers.lookup name = some info) (hne : info.count - 1 ≠ 0) : info.count - 1 = 1 := by
  rcases hs.counts name info h with hcount | hcount <;> omega

/-- **The table after a call** that asks it: a layer is another one than that of the call and
what it was, or it is that of the call, with the buffers that are still to come. -/
theorem Consistent.lookup_pickFromLayers (hs : s.Consistent) {name : LayerName}
    {info : LayerInfo} (h : (pickFromLayers s.layers c).2.lookup name = some info) :
    (name ≠ c.layer ∧ s.layers.lookup name = some info) ∨
      (name = c.layer ∧ info.timeStamp = c.now ∧
        info.pickHeapGfx = (pickFromLayers s.layers c).1 ∧
        ((s.layers.lookup c.layer = none ∧ info.count = 2) ∨
          ∃ old, s.layers.lookup c.layer = some old ∧ old.count = 2 ∧ info.count = 1)) := by
  rcases hold : s.layers.lookup c.layer with - | old
  · rw [pickFromLayers_of_new hold] at h ⊢
    by_cases hname : name = c.layer
    · rw [hname, AList.lookup_insert] at h
      cases h
      exact .inr ⟨hname, rfl, rfl, .inl ⟨rfl, rfl⟩⟩
    · rw [AList.lookup_insert_ne hname] at h
      exact .inl ⟨hname, h⟩
  · rw [pickFromLayers_of_lookup hold] at h ⊢
    dsimp only at h
    by_cases hname : name = c.layer
    · rw [hname] at h
      split_ifs at h with hlast
      · rw [AList.lookup_erase] at h
        cases h
      · rw [AList.lookup_insert] at h
        cases h
        have hcount := hs.count_of_lookup hold hlast
        exact .inr ⟨hname, rfl, rfl, .inr ⟨old, rfl, by omega, hcount⟩⟩
    · split_ifs at h
      · rw [AList.lookup_erase_ne hname] at h
        exact .inl ⟨hname, h⟩
      · rw [AList.lookup_insert_ne hname] at h
        exact .inl ⟨hname, h⟩

theorem Consistent.counts_pickFromLayers (hs : s.Consistent) {name : LayerName}
    {info : LayerInfo} (h : (pickFromLayers s.layers c).2.lookup name = some info) :
    info.count = 1 ∨ info.count = 2 := by
  rcases hs.lookup_pickFromLayers h with ⟨-, h⟩ | ⟨-, -, -, ⟨-, h⟩ | ⟨-, -, -, h⟩⟩
  · exact hs.counts name info h
  · exact .inr h
  · exact .inl h

/-- **A steady call does what it has to do**, of a table that knows what the layers were told. -/
theorem Consistent.admits (hs : s.Consistent) (hc : s.Steady c) : s.Admits c := by
  by_cases hsource : c.source = .table
  · have hpick := hc.pick_of_source_eq hsource
    have hexpire := expire_of_fresh (hc.fresh hsource)
    refine ⟨?_, fun _ => ⟨s.layers, hexpire, ?_⟩, ?_, ?_, ?_⟩
    · rw [hpick]
      rfl
    · intro name info
      exact ⟨fun h => ⟨h, LayerInfo.not_stale_iff.mp (hc.fresh hsource name info h)⟩, And.left⟩
    · rintro r hr name info h
      rw [hpick] at hr
      cases hr
      exact hs.counts_pickFromLayers h
    · rintro r hr g hg
      rw [hpick] at hr
      cases hr
      rcases hold : s.layers.lookup c.layer with - | info
      · rw [hs.pending_of_new hc hsource hold] at hg
        cases hg
      · rw [hs.pending_of_lookup hc.ordered hold (hc.fresh hsource _ _ hold)] at hg
        cases hg
        rw [pickFromLayers_of_lookup hold]
        rfl
    · intro _ t ht hnew hadmit
      rw [hexpire] at ht
      cases ht
      rw [pickFromLayers_of_new hnew] at hadmit
      exact waiting_add_le_of_fits hs.counts hs.waiting_lt (hc.whole hsource hnew hadmit) hadmit
  · have hpick : amGrallocPickHeapGfx s.layers c = _ := pick_of_source_ne hsource
    refine ⟨?_, fun h => absurd h hsource, ?_, ?_, fun h => absurd h hsource⟩
    · rw [hpick]
      rfl
    · rintro r hr name info h
      rw [hpick] at hr
      cases hr
      exact hs.counts name info h
    · rintro r hr g hg
      rw [hpick] at hr
      cases hr
      have hgroup := (pending_eq_some_iff.mp hg).1
      have hsame := hc.known g hg
      rcases hg' : g.source with - | - | - <;> rw [hg'] at hsame
      · rw [hs.cpu _ g hgroup hg', hsame]
        rfl
      · rw [hs.unasked _ g hgroup hg', hsame]
        rfl
      · exact absurd hsame hsource

/-! ### Runs of steady calls -/

theorem nextGroup_of_new {decision : Bool} (h : s.pending c = none) :
    s.nextGroup c decision = some ⟨decision, bufferCountPerLayer - 1, c.now, c.source⟩ := by
  rw [nextGroup, h]

theorem nextGroup_of_pending {decision : Bool} {g : LayerGroup} (h : s.pending c = some g) :
    s.nextGroup c decision =
      if g.left - 1 = 0 then none else some { g with left := g.left - 1, last := c.now } := by
  rw [nextGroup, h]

/-- What is kept of a layer after a steady call is how that call was answered. -/
theorem Steady.of_nextGroup (hc : s.Steady c) {decision : Bool}
    (hagrees : ∀ g, s.pending c = some g → decision = g.decision) {g : LayerGroup}
    (h : s.nextGroup c decision = some g) : g.decision = decision ∧ g.source = c.source := by
  rcases hg : s.pending c with - | old
  · rw [nextGroup_of_new hg] at h
    cases h
    exact ⟨rfl, rfl⟩
  · rw [nextGroup_of_pending hg] at h
    split_ifs at h
    cases h
    exact ⟨(hagrees old hg).symm, (hc.known old hg).symm⟩

/-- Less is to come after a call of a layer in the table; what an admitted layer adds fits. -/
theorem Consistent.waiting_pickFromLayers_lt (hs : s.Consistent) (hc : s.Steady c)
    (hsource : c.source = .table) : (pickFromLayers s.layers c).2.waiting < 2 ^ 64 := by
  have hlt := hs.waiting_lt
  rcases hold : s.layers.lookup c.layer with - | info
  · rw [pickFromLayers_of_new hold]
    dsimp only
    rw [waiting_insert, waiting_erase_of_lookup hold]
    rcases hfits : c.fits s.layers with - | -
    · rw [if_neg Bool.false_ne_true]
      exact (Nat.zero_add _).trans_lt hlt
    · have hle := waiting_add_le_of_fits hs.counts hlt (hc.whole hsource hold hfits) hfits
      have hfree := c.freeSize.isLt
      rw [if_pos rfl]
      have htwo : ((bufferCountPerLayer : ℤ) - 1).toNat = 2 := rfl
      rw [htwo]
      rw [bufferCountPerLayer] at hle
      dsimp only
      omega
  · rw [waiting_of_lookup hold] at hlt
    rw [pickFromLayers_of_lookup hold]
    dsimp only
    split_ifs with hlast
    · omega
    · rw [waiting_insert]
      have hcount := hs.count_of_lookup hold hlast
      have htwo : info.count = 2 := by omega
      rw [htwo] at hlt ⊢
      dsimp only at hlt ⊢
      have h₁ : (2 - 1 : ℤ).toNat = 1 := rfl
      have h₂ : (2 : ℤ).toNat = 2 := rfl
      rw [h₁]
      rw [h₂] at hlt
      omega

/-- A call that asks the table leaves in it, of its layer, what is kept of it. -/
theorem Consistent.entry_pickFromLayers (hs : s.Consistent) (hc : s.Steady c)
    (hsource : c.source = .table) :
    ((pickFromLayers s.layers c).2.lookup c.layer).map LayerInfo.group =
      s.nextGroup c (pickFromLayers s.layers c).1 := by
  rcases hold : s.layers.lookup c.layer with - | info
  · rw [nextGroup_of_new (hs.pending_of_new hc hsource hold), pickFromLayers_of_new hold]
    dsimp only
    rw [AList.lookup_insert, hsource]
    rfl
  · have hpending := hs.pending_of_lookup hc.ordered hold (hc.fresh hsource _ _ hold)
    rw [nextGroup_of_pending hpending, pickFromLayers_of_lookup hold, LayerInfo.group_left]
    dsimp only
    by_cases hlast : info.count - 1 = 0
    · rw [if_pos hlast, if_pos hlast, AList.lookup_erase]
      rfl
    · rw [if_neg hlast, if_neg hlast, AList.lookup_insert]
      rfl

/-- Of the other layers the table keeps what it has. -/
theorem lookup_pickFromLayers_of_ne {name : LayerName} (h : name ≠ c.layer) :
    (pickFromLayers s.layers c).2.lookup name = s.layers.lookup name := by
  rcases hold : s.layers.lookup c.layer with - | info
  · rw [pickFromLayers_of_new hold]
    exact AList.lookup_insert_ne h
  · rw [pickFromLayers_of_lookup hold]
    dsimp only
    split_ifs
    · exact AList.lookup_erase_ne h
    · exact AList.lookup_insert_ne h

/-- What the table has of a layer is what the layer was told, or too old. -/
theorem Consistent.entry_step (hs : s.Consistent) (hc : s.Steady c) {r : Bool × LayerTable}
    (hr : amGrallocPickHeapGfx s.layers c = some r) (name : LayerName) (info : LayerInfo)
    (h : r.2.lookup name = some info) :
    info.timeStamp ≤ c.now ∧
      (Function.update s.groups c.layer (s.nextGroup c r.1) name = some info.group ∨
        info.Stale c.now) := by
  have hkept : s.layers.lookup name = some info → info.timeStamp ≤ c.now ∧
      (s.groups name = some info.group ∨ info.Stale c.now) := by
    intro hold
    rcases hs.entry name info hold with ⟨hpast, hgroup | hstale⟩
    · exact ⟨BitVec.le_trans hpast hc.ordered, .inl hgroup⟩
    · exact ⟨BitVec.le_trans hpast hc.ordered, .inr (hstale.mono hpast hc.ordered)⟩
  by_cases hsource : c.source = .table
  · rw [hc.pick_of_source_eq hsource] at hr
    cases hr
    by_cases hname : name = c.layer
    · have hentry := hs.entry_pickFromLayers hc hsource
      rw [← hname, h, Option.map_some] at hentry
      rw [← hname, Function.update_self, ← hentry]
      rcases hs.lookup_pickFromLayers h with ⟨hne, -⟩ | ⟨-, hnow, -⟩
      · exact absurd hname hne
      · exact ⟨BitVec.le_of_eq hnow, .inl rfl⟩
    · rw [lookup_pickFromLayers_of_ne hname] at h
      rw [Function.update_of_ne hname]
      exact hkept h
  · rw [pick_of_source_ne hsource] at hr
    cases hr
    by_cases hname : name = c.layer
    · -- a young entry would be told something else than the table says
      refine ⟨(hkept h).1, .inr ?_⟩
      rcases (hkept h).2 with hgroup | hstale
      · by_contra hfresh
        rw [hname] at hgroup
        exact hsource (hc.known info.group
          (pending_eq_some_iff.mpr ⟨hgroup, LayerInfo.not_stale_iff.mp hfresh⟩))
      · exact hstale
    · rw [Function.update_of_ne hname]
      exact hkept h

/-- What a layer was told from the table is what the table has of it. -/
theorem Consistent.table_step (hs : s.Consistent) (hc : s.Steady c) {r : Bool × LayerTable}
    (hr : amGrallocPickHeapGfx s.layers c = some r)
    (hnext : ∀ g, s.nextGroup c r.1 = some g → g.decision = r.1 ∧ g.source = c.source)
    (name : LayerName) (g : LayerGroup)
    (hg : Function.update s.groups c.layer (s.nextGroup c r.1) name = some g)
    (hgroup : g.source = .table) : ∃ info, r.2.lookup name = some info ∧ info.group = g := by
  by_cases hsource : c.source = .table
  · rw [hc.pick_of_source_eq hsource] at hr
    cases hr
    by_cases hname : name = c.layer
    · rw [hname, Function.update_self, ← hs.entry_pickFromLayers hc hsource,
        Option.map_eq_some_iff] at hg
      rw [hname]
      exact hg
    · rw [Function.update_of_ne hname] at hg
      rw [lookup_pickFromLayers_of_ne hname]
      exact hs.table name g hg hgroup
  · rw [pick_of_source_ne hsource] at hr
    cases hr
    by_cases hname : name = c.layer
    · rw [hname, Function.update_self] at hg
      exact absurd ((hnext g hg).2.symm.trans hgroup) hsource
    · rw [Function.update_of_ne hname] at hg
      exact hs.table name g hg hgroup

/-- **Steady calls keep the table consistent** with what the layers were told. -/
theorem Consistent.step (hs : s.Consistent) (hc : s.Steady c) : (s.step c).Consistent := by
  have hadmits := hs.admits hc
  rcases hr : amGrallocPickHeapGfx s.layers c with - | r
  · have hdefined := hadmits.defined
    rw [hr] at hdefined
    cases hdefined
  have hnext : ∀ g, s.nextGroup c r.1 = some g → g.decision = r.1 ∧ g.source = c.source :=
    fun _ => hc.of_nextGroup (hadmits.agrees r hr)
  rw [step_of_pick hr]
  refine ⟨hadmits.counts r hr, ?_, ?_, ?_, ?_, ?_⟩
  · by_cases hsource : c.source = .table
    · rw [hc.pick_of_source_eq hsource] at hr
      cases hr
      exact hs.waiting_pickFromLayers_lt hc hsource
    · rw [pick_of_source_ne hsource] at hr
      cases hr
      exact hs.waiting_lt
  · exact hs.entry_step hc hr
  · rintro name g hg hsource
    dsimp only at hg
    by_cases hname : name = c.layer
    · rw [hname, Function.update_self] at hg
      rcases hnext g hg with ⟨hdecision, hsame⟩
      rw [amGrallocPickHeapGfx_cpu (hsame.symm.trans hsource)] at hr
      cases hr
      exact hdecision
    · rw [Function.update_of_ne hname] at hg
      exact hs.cpu name g hg hsource
  · rintro name g hg hsource
    dsimp only at hg
    by_cases hname : name = c.layer
    · rw [hname, Function.update_self] at hg
      rcases hnext g hg with ⟨hdecision, hsame⟩
      rw [amGrallocPickHeapGfx_unasked (hsame.symm.trans hsource)] at hr
      cases hr
      exact hdecision
    · rw [Function.update_of_ne hname] at hg
      exact hs.unasked name g hg hsource
  · exact hs.table_step hc hr hnext

theorem consistent_start : start.Consistent where
  counts _ _ h := by cases h
  waiting_lt := by decide
  entry _ _ h := by cases h
  cpu _ _ h := by cases h
  unasked _ _ h := by cases h
  table _ _ h := by cases h

theorem consistent_of_reach (h : Transition.Reach step Steady start s) : s.Consistent :=
  h.invariant consistent_start fun _ _ => Consistent.step

/-- **The heap of the display keeps its layers together and does not overflow**: in a run of
steady calls, every call does what it has to do. -/
theorem admits_of_reach (h : Transition.Reach step Steady start s) (hc : s.Steady c) :
    s.Admits c := (consistent_of_reach h).admits hc

/-- The first two buffers of a layer. -/
theorem admits_of_reach_second :
    (step start ⟨[97#8, 0#8], 2#64, 0x300#64, 0#64, 10#64⟩).Admits
      ⟨[97#8, 0#8], 2#64, 0x300#64, 1#64, 10#64⟩ := by
  have hfirst : start.Steady ⟨[97#8, 0#8], 2#64, 0x300#64, 0#64, 10#64⟩ := by
    refine ⟨by decide, ?_, ?_, fun _ _ _ => by decide⟩
    · rintro - name info h
      cases h
    · rintro g h
      cases h
  refine admits_of_reach (.next .start hfirst) ⟨by decide, ?_, ?_, fun _ _ _ => by decide⟩
  · rintro - name info h
    have hentry := AList.mem_lookup_iff.mp h
    rcases List.mem_singleton.mp hentry with ⟨rfl, rfl⟩
    decide
  · rintro g h
    have hg : some g = some ⟨true, 2, 0#64, .table⟩ := h.symm.trans (by decide +kernel)
    cases hg
    decide

/-- A layer was not completed for five seconds, and the table is asked for another. Three times a
size is 2 in 64 bits, and 2 bytes are free. A layer did not fit, and the free size is not known
for its second buffer. -/
theorem not_admits :
    ¬(step start ⟨[97#8, 0#8], 2#64, 0x300#64, 0#64, 10#64⟩).Admits
        ⟨[98#8, 0#8], 1#64, 0x300#64, 5000000000#64, 10#64⟩ ∧
      ¬start.Admits ⟨[97#8, 0#8], 6148914691236517206#64, 0x300#64, 0#64, 2#64⟩ ∧
      ¬(step start ⟨[97#8, 0#8], 2#64, 0x300#64, 0#64, 1#64⟩).Admits
        ⟨[97#8, 0#8], 2#64, 0x300#64, 1#64, unknownFreeSize⟩ := by
  refine ⟨fun h => absurd h.defined (by decide +kernel), fun h => ?_, fun h => ?_⟩
  · exact absurd (h.admitted (by decide) ∅ rfl rfl (by decide)) (by decide)
  · exact absurd (h.agrees (true, _) rfl ⟨false, 2, 0#64, .table⟩ (by decide +kernel))
      Bool.false_ne_true.symm

end GfxSession

end Gralloc
