import Gralloc.Stablec.Metadata
import Gralloc.Transition.Reach

/-!
# Dumping every buffer

A mapper keeps the addresses of the handles that it has imported in a pool, in no order
(`Gralloc.Stablec.Registry`), so that it can dump them all. A client is called back, once
for each buffer that begins and once for each of its entries, and takes the entries after a
beginning for those of one buffer.

The mapper calls back with the entries first, and with the beginning afterwards
(`Gralloc.Stablec.dumpAllBuffers`). Which buffers are dumped is right, since the pool is
what was imported and not freed (`Gralloc.Stablec.registered_runPoolCalls`); whose the entries
are is not. The first entry has nothing to belong to, so that all is well exactly when there
is nothing to dump (`Gralloc.Stablec.dumpsGrouped_iff`).
-/

namespace Gralloc

namespace Stablec

open CInt Mapper

/-! ### The pool -/

/-- The memory of a process: an address for a new handle, where none is yet. -/
structure Malloc where
  pick : List ℕ → ℕ
  pick_notMem : ∀ used, pick used ∉ used

/-- **The imported handles** of a process, each at its address, and the pool. -/
structure Registry where
  handles : List (ℕ × MetadataHandle)
  pool : List ℕ

namespace Registry

def empty : Registry := ⟨[], []⟩

variable (w : Registry)

/-- The handle at an address, if one was imported there. -/
def handleCast (address : ℕ) : Option MetadataHandle := w.handles.lookup address

/-- Adding an address to the pool, where it may be already. -/
def add (address : ℕ) : List ℕ := if address ∈ w.pool then w.pool else address :: w.pool

end Registry

/-- A call that changes the pool. -/
inductive PoolCall where
  /-- The import of a handle, which is cloned and its metadata mapped, or not. -/
  | importBuffer (malloc : Malloc) (clone : Option (MetadataHandle × SharedMetadata))
  | freeBuffer (address : ℕ)

/-- What a client sees of a call. -/
inductive PoolEvent where
  | imported (address : ℕ) (hnd : MetadataHandle)
  | freed (address : ℕ)
  | refused

/-- An import. -/
def importBuffer (w : Registry) (malloc : Malloc)
    (clone : Option (MetadataHandle × SharedMetadata)) : PoolEvent × Registry :=
  match clone with
  | none => (.refused, w)
  | some (raw, m) =>
    let hnd := { raw with attr := some m }
    let address := malloc.pick (w.handles.map Prod.fst)
    (.imported address hnd, ⟨(address, hnd) :: w.handles, w.add address⟩)

/-- The end of a handle. -/
def freeBuffer (w : Registry) (address : ℕ) : PoolEvent × Registry :=
  match w.handleCast address with
  | none => (.refused, w)
  | some _ =>
    (.freed address, ⟨w.handles.filter fun x => x.1 != address, w.pool.erase address⟩)

def PoolCall.run (w : Registry) : PoolCall → PoolEvent × Registry
  | .importBuffer malloc clone => Stablec.importBuffer w malloc clone
  | .freeBuffer address => Stablec.freeBuffer w address

/-- **The handles that a client has**: those that it imported and did not free. -/
def outstandingAfter (held : List (ℕ × MetadataHandle)) :
    PoolEvent → List (ℕ × MetadataHandle)
  | .imported address hnd => (address, hnd) :: held
  | .freed address => held.filter fun x => x.1 != address
  | .refused => held

/-- A call, with the ledger of the client. -/
def step (x : Registry × List (ℕ × MetadataHandle)) (c : PoolCall) :
    Registry × List (ℕ × MetadataHandle) :=
  ((c.run x.1).2, outstandingAfter x.2 (c.run x.1).1)

/-- Calls, one after the other. -/
def runPoolCalls (calls : List PoolCall) : Registry × List (ℕ × MetadataHandle) :=
  calls.foldl step (.empty, [])

/-- The handles are what the client has, each at an address of its own, and the pool is their
addresses. -/
structure Registered (x : Registry × List (ℕ × MetadataHandle)) : Prop where
  handles_eq : x.1.handles = x.2
  pool_eq : x.1.pool = x.2.map Prod.fst
  nodup : (x.2.map Prod.fst).Nodup

section

variable {x : Registry × List (ℕ × MetadataHandle)}

/-- An address that is freed leaves the others. -/
theorem map_fst_filter (l : List (ℕ × MetadataHandle)) (address : ℕ)
    (h : (l.map Prod.fst).Nodup) :
    (l.filter fun y => y.1 != address).map Prod.fst = (l.map Prod.fst).erase address := by
  rw [h.erase_eq_filter, List.filter_map]
  rfl

/-- A new handle is at an address that is not in the pool. -/
theorem Registered.cons {w : Registry} {held : List (ℕ × MetadataHandle)}
    (h : Registered (w, held)) {address : ℕ} (hnew : address ∉ w.handles.map Prod.fst)
    (hnd : MetadataHandle) :
    Registered (⟨(address, hnd) :: w.handles, w.add address⟩, (address, hnd) :: held) := by
  have hhandles : w.handles = held := h.handles_eq
  have hheld : address ∉ held.map Prod.fst := by rwa [hhandles] at hnew
  have hpool : w.pool = held.map Prod.fst := h.pool_eq
  have hadd : w.add address = address :: w.pool := by
    rw [Registry.add, if_neg]
    rwa [hpool]
  refine ⟨congrArg _ h.handles_eq, ?_, List.nodup_cons.mpr ⟨hheld, h.nodup⟩⟩
  dsimp only
  rw [hadd, hpool]
  rfl

/-- A handle that ends leaves the pool. -/
theorem Registered.erase {w : Registry} {held : List (ℕ × MetadataHandle)}
    (h : Registered (w, held)) (address : ℕ) :
    Registered (⟨w.handles.filter fun x => x.1 != address, w.pool.erase address⟩,
      held.filter fun x => x.1 != address) := by
  have hpool : w.pool = held.map Prod.fst := h.pool_eq
  refine ⟨congrArg _ h.handles_eq, ?_, h.nodup.sublist (List.filter_sublist.map Prod.fst)⟩
  dsimp only
  rw [hpool]
  exact (map_fst_filter held address h.nodup).symm

/-- **Every call keeps the pool.** -/
theorem registered_step (h : Registered x) (c : PoolCall) : Registered (step x c) := by
  obtain ⟨w, held⟩ := x
  cases c with
  | importBuffer malloc clone =>
    rcases clone with _ | ⟨raw, m⟩
    · exact h
    · exact h.cons (malloc.pick_notMem _) _
  | freeBuffer address =>
    cases hcast : w.handleCast address with
    | none =>
      have hrun : PoolCall.run w (.freeBuffer address) = (.refused, w) := by
        rw [PoolCall.run, freeBuffer, hcast]
      rw [step, hrun]
      exact h
    | some hnd =>
      have hrun : PoolCall.run w (.freeBuffer address) =
          (.freed address,
            ⟨w.handles.filter fun x => x.1 != address, w.pool.erase address⟩) := by
        rw [PoolCall.run, freeBuffer, hcast]
      rw [step, hrun]
      exact h.erase address

/-- **After any calls** the pool is what the client has. -/
theorem registered_runPoolCalls (calls : List PoolCall) : Registered (runPoolCalls calls) := by
  have hempty : Registered (.empty, []) := ⟨rfl, rfl, List.nodup_nil⟩
  exact Transition.invariant_foldl hempty (fun _ c h => registered_step h c) calls

end

/-! ### Calling back -/

/-- What a client is called back with. -/
inductive Callback where
  | begin
  | entry (t : StandardMetadataType) (bytes : List (BitVec 8))
  deriving DecidableEq, Repr

/-- The entries of a buffer. -/
def entriesOf (dump : List (StandardMetadataType × List (BitVec 8))) : List Callback :=
  dump.map fun e => .entry e.1 e.2

section

variable (enc : StableCodec)

/-- The dumps of some handles. -/
def dumpEach : List MetadataHandle →
    Run (List (List (StandardMetadataType × List (BitVec 8))))
  | [] => .ok []
  | hnd :: hnds => do
    let dump ← dumpBuffer enc hnd
    let dumps ← dumpEach hnds
    .ok (dump :: dumps)

variable (w : Registry) (order : List ℕ)

/-- The dumps of the pool, in the order in which it is gone through. An address at which there is
no handle is left out: another mapper has freed it. -/
def dumpBuffers : Run (List (List (StandardMetadataType × List (BitVec 8)))) :=
  dumpEach enc (order.filterMap w.handleCast)

/-- **The calls back of all the buffers.** -/
def dumpAllBuffers : Run (List Callback) := do
  let dumps ← dumpBuffers enc w order
  .ok (dumps.flatMap fun dump => entriesOf dump ++ [.begin])

end

/-- **What a client expects** of some handles: in some order, each begins, and has its entries
called back with before the next one begins. -/
def Grouped (enc : StableCodec) (hnds : List MetadataHandle) (trace : List Callback) : Prop :=
  ∃ order dumps, order.Perm hnds ∧
    List.Forall₂ (fun hnd dump => dumpBuffer enc hnd = .ok dump) order dumps ∧
    trace = dumps.flatMap fun dump => .begin :: entriesOf dump

/-- **The calls back are grouped**: they are those of the handles that the client has. -/
def DumpsGrouped (enc : StableCodec) (x : Registry × List (ℕ × MetadataHandle))
    (order : List ℕ) : Prop :=
  ∃ trace, dumpAllBuffers enc x.1 order = .ok trace ∧ Grouped enc (x.2.map Prod.snd) trace

section

variable {enc : StableCodec} {x : Registry × List (ℕ × MetadataHandle)} {order : List ℕ}

/-- At every address is the handle that was imported there, by induction on them. -/
theorem lookup_of_mem {l : List (ℕ × MetadataHandle)} (h : (l.map Prod.fst).Nodup)
    {y : ℕ × MetadataHandle} (hy : y ∈ l) : l.lookup y.1 = some y.2 := by
  induction l with
  | nil => exact absurd hy List.not_mem_nil
  | cons z l ih =>
    obtain ⟨hz, hl⟩ := List.nodup_cons.mp h
    rcases List.mem_cons.mp hy with rfl | hy
    · exact List.lookup_cons_self
    · have hne : (y.1 == z.1) = false := by
        rw [beq_eq_false_iff_ne]
        rintro heq
        exact hz (heq ▸ List.mem_map_of_mem hy)
      rw [List.lookup_cons, hne]
      exact ih hl hy

/-- **The handles that are dumped** are those that the client has, in some order. -/
theorem perm_filterMap_handleCast (h : Registered x) (horder : order.Perm x.1.pool) :
    (order.filterMap x.1.handleCast).Perm (x.2.map Prod.snd) := by
  have hall : (x.2.map Prod.fst).filterMap x.1.handleCast = x.2.map Prod.snd := by
    rw [List.filterMap_map, ← List.filterMap_eq_map]
    refine List.filterMap_congr fun y hy => ?_
    have hcast : x.1.handleCast y.1 = some y.2 := by
      rw [Registry.handleCast, h.handles_eq]
      exact lookup_of_mem h.nodup hy
    exact hcast
  rw [← hall, ← h.pool_eq]
  exact horder.filterMap _

/-- The dumps of some handles, one by one, by induction on them. -/
theorem forall₂_of_dumpEach {hnds : List MetadataHandle}
    {dumps : List (List (StandardMetadataType × List (BitVec 8)))}
    (h : dumpEach enc hnds = .ok dumps) :
    List.Forall₂ (fun hnd dump => dumpBuffer enc hnd = .ok dump) hnds dumps := by
  induction hnds generalizing dumps with
  | nil =>
    cases h
    exact .nil
  | cons hnd hnds ih =>
    obtain ⟨dump, hdump, h⟩ := bind_eq_ok.mp h
    obtain ⟨rest, hrest, h⟩ := bind_eq_ok.mp h
    cases h
    exact .cons hdump (ih hrest)

/-- As many buffers begin as are dumped, by induction on them. -/
theorem count_begin (dumps : List (List (StandardMetadataType × List (BitVec 8)))) :
    (dumps.flatMap fun dump => entriesOf dump ++ [.begin]).count .begin = dumps.length := by
  have hentries (dump : List (StandardMetadataType × List (BitVec 8))) :
      (entriesOf dump).count .begin = 0 := by
    refine List.count_eq_zero.mpr fun h => ?_
    obtain ⟨e, -, he⟩ := List.mem_map.mp h
    cases he
  induction dumps with
  | nil => rfl
  | cons dump dumps ih =>
    rw [List.flatMap_cons, List.count_append, List.count_append, hentries, ih,
      List.count_singleton_self, List.length_cons]
    omega

/-- **Each buffer of the client begins once**, after any calls. -/
theorem count_begin_of_dumpAllBuffers {calls : List PoolCall} {trace : List Callback}
    (horder : order.Perm (runPoolCalls calls).1.pool)
    (h : dumpAllBuffers enc (runPoolCalls calls).1 order = .ok trace) :
    trace.count .begin = (runPoolCalls calls).2.length := by
  obtain ⟨dumps, hdumps, h⟩ := bind_eq_ok.mp h
  cases h
  have hperm := perm_filterMap_handleCast (registered_runPoolCalls calls) horder
  rw [count_begin, ← (forall₂_of_dumpEach hdumps).length_eq, hperm.length_eq, List.length_map]

/-- **Identifiers fit** into the memory of a dump: the framework encodes them into 8 bytes behind
a name and a number. -/
def StableCodec.IdsFit (enc : StableCodec) : Prop :=
  ∀ id, ∃ bs, enc.encode .bufferId (.uint64 id) = .ok bs ∧ bs.length ≤ maxRequiredSize

/-- Every buffer has an entry, then. -/
theorem ne_nil_of_dumpBuffer (hid : enc.IdsFit) {hnd : MetadataHandle}
    {dump : List (StandardMetadataType × List (BitVec 8))} (h : dumpBuffer enc hnd = .ok dump) :
    dump ≠ [] := by
  obtain ⟨bs, hbs, hle⟩ := hid hnd.backingStoreId
  have hvis : ¬Hidden hnd .bufferId := fun h => absurd h.2 (by decide)
  have hentry : dumpType enc hnd .bufferId = .ok (some (padded bs)) :=
    dumpType_eq_some_iff.mpr ⟨bs, ⟨hvis, _, rfl, hbs⟩, hle, rfl⟩
  exact List.ne_nil_of_mem ((mem_dumpTypes h).mpr ⟨by decide, hentry⟩)

/-- **When the calls back are grouped**: after any calls, and in whichever order the pool is gone
through, exactly if the client has no buffer. -/
theorem dumpsGrouped_iff (hid : enc.IdsFit) (calls : List PoolCall)
    (horder : order.Perm (runPoolCalls calls).1.pool) :
    DumpsGrouped enc (runPoolCalls calls) order ↔ (runPoolCalls calls).2 = [] := by
  have hperm := perm_filterMap_handleCast (registered_runPoolCalls calls) horder
  constructor
  · rintro ⟨trace, hrun, expected, dumps', hexpected, hdumps', htrace⟩
    by_contra hne
    obtain ⟨dumps, hdumps, hrun⟩ := bind_eq_ok.mp hrun
    cases hrun
    -- both sequences are not empty: the first begins with an entry, and the other does not
    have hlen := (forall₂_of_dumpEach hdumps).length_eq
    have hlen' := hdumps'.length_eq
    have hpos : 0 < (runPoolCalls calls).2.length := List.length_pos_iff.mpr hne
    rw [hperm.length_eq, List.length_map] at hlen
    rw [hexpected.length_eq, List.length_map] at hlen'
    obtain ⟨dump, rest, rfl⟩ := List.exists_cons_of_length_pos (hlen ▸ hpos)
    obtain ⟨dump', rest', rfl⟩ := List.exists_cons_of_length_pos (hlen' ▸ hpos)
    obtain ⟨hnd, hnds, hfirst, -, -⟩ := List.forall₂_cons_right_iff.mp (forall₂_of_dumpEach hdumps)
    obtain ⟨e, es, rfl⟩ := List.exists_cons_of_ne_nil (ne_nil_of_dumpBuffer hid hfirst)
    have hhead := congrArg List.head? htrace
    cases hhead
  · intro hnil
    have hpool : order = [] := by
      rw [(registered_runPoolCalls calls).pool_eq, hnil] at horder
      exact horder.eq_nil
    refine ⟨[], by rw [hpool]; rfl, [], [], ?_, .nil, rfl⟩
    rw [hnil]
    exact .nil

end

/-! ### One buffer -/

/-- An address beyond all the others. -/
def Malloc.beyond : Malloc where
  pick used := used.sum + 1
  pick_notMem used h := by
    have hle := List.le_sum_of_mem h
    omega

/-- A process that imports one handle. -/
def oneCall : List PoolCall :=
  [.importBuffer .beyond (some (squareHandle, .init [] dataspaceUnknown chromaSitingNone))]

theorem idsFit_uint64Codec : uint64Codec.IdsFit := by
  rintro id
  refine ⟨_, rfl, ?_⟩
  rw [length_encodeUint64 (t := .bufferId) (v := .uint64 id) rfl]
  decide

/-- **One buffer is dumped with its entries before it begins.** -/
theorem not_dumpsGrouped_one :
    (dumpAllBuffers uint64Codec (runPoolCalls oneCall).1 [1]).map (fun trace =>
        (trace.length, trace.getLast?, trace.head? == some .begin)) =
        .ok (9, some .begin, false) ∧
      [1].Perm (runPoolCalls oneCall).1.pool ∧
      ¬DumpsGrouped uint64Codec (runPoolCalls oneCall) [1] := by
  have hfirst : (dumpAllBuffers uint64Codec (runPoolCalls oneCall).1 [1]).map (fun trace =>
      (trace.length, trace.getLast?, trace.head? == some .begin)) =
      .ok (9, some .begin, false) := by
    decide +kernel
  refine ⟨hfirst, by decide, ?_⟩
  rintro ⟨trace, hrun, order, dumps, hperm, hdumps, rfl⟩
  rw [hrun] at hfirst
  have hlen : dumps.length = 1 := by
    rw [← hdumps.length_eq, hperm.length_eq]
    rfl
  obtain ⟨dump, rfl⟩ := List.length_eq_one_iff.mp hlen
  -- the client expects a beginning first
  have hbegin : ((([dump] : List _).flatMap fun dump =>
      Callback.begin :: entriesOf dump).head? == some .begin) = true := rfl
  exact absurd (hbegin.symm.trans (congrArg (fun x => x.2.2) (Except.ok.inj hfirst))) (by decide)

/-- The equivalence, at the process that imports one handle. -/
theorem dumpsGrouped_iff_one :
    DumpsGrouped uint64Codec (runPoolCalls oneCall) [1] ↔ (runPoolCalls oneCall).2 = [] :=
  dumpsGrouped_iff idsFit_uint64Codec oneCall (by decide)

end Stablec

end Gralloc
