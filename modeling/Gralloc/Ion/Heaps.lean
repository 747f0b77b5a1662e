import Gralloc.Heap.Pick
import Gralloc.Resource.Attempts

/-!
# The heaps of ION

Where the kernel has no dma-buf heaps yet, memory comes from ION. The device is opened when it is
first needed, and then the heaps of the kernel are listed and kept in a table
(`Gralloc.Ion.IonDevice`); it is closed again if that fails. In every state that a process
can bring it to, an open device has the table of the last listing
(`Gralloc.Ion.represents_run`).

An allocation goes through the table twice at most: once for the heaps of the type that was picked,
and, where that is allowed, once more for those of the system, with other flags
(`Gralloc.Ion.allocFromIonHeap`). Both loops look at an entry before they compare with the number
of entries, so that an empty table is a table of one cleared entry, which is a system heap.
What an allocation does is told by the list of its attempts, in order, of which the first one
that is granted counts (`Gralloc.Ion.allocFromIonHeap_iff_of_run`).
-/

namespace Gralloc

namespace Ion

open Resource

/-! ### Heaps -/

/-- The types of heaps, numbers of the kernel's. -/
abbrev HeapType : Type := BitVec 32

namespace HeapType

def system : HeapType := 0#32
def dma : HeapType := 4#32
def custom : HeapType := 16#32

/-- Types that the kernel does not have. -/
def fb : HeapType := custom + 1#32
def secure : HeapType := custom + 2#32
def invalid : HeapType := ~~~0#32

end HeapType

/-- A heap, as the kernel describes it. -/
structure HeapData where
  name : String
  type : HeapType
  heapId : BitVec 32
  deriving DecidableEq, Repr

/-- A cleared entry of the table. -/
def HeapData.zero : HeapData := ⟨"", 0#32, 0#32⟩

def ionNumHeapIds : ℕ := 32

/-- The heap of protected memory is known by its name. -/
def HeapData.retype (h : HeapData) : HeapData :=
  if h.name = "secure_ion" then { h with type := .secure } else h

/-! ### The device -/

/-- **The device**: its descriptor if it is open, and the table of the heaps. -/
structure IonDevice where
  client : Option ℕ
  secureHeapExists : Bool
  heapCnt : ℕ
  heapInfo : ℕ → HeapData

/-- The device at the start of a process. -/
def IonDevice.start : IonDevice := ⟨none, false, 0, fun _ => .zero⟩

/-- What the kernel replies to an opening. -/
structure OpenReply where
  ionOpen : Option ℕ
  ionQueryHeapCnt : Option ℕ
  /-- The heaps, in a vector of as many entries as were counted. -/
  ionQueryGetHeaps : Option (ℕ → HeapData)

namespace IonDevice

/-- The heaps are copied into the table. -/
def cacheHeaps : ℕ → List HeapData → IonDevice → IonDevice
  | _, [], dev => dev
  | i, heap :: heaps, dev =>
    cacheHeaps (i + 1) heaps
      { dev with
        secureHeapExists := dev.secureHeapExists || heap.name == "secure_ion"
        heapInfo := Function.update dev.heapInfo i heap.retype }

variable (dev : IonDevice) (r : OpenReply)

/-- The device is opened, and its heaps are listed; whether that went well. -/
def openAndQueryIon : Bool × IonDevice :=
  if dev.client.isSome then (true, dev)
  else
    match r.ionOpen with
    | none => (false, dev)
    | some client =>
      let dev := { dev with client := some client, heapCnt := 0, heapInfo := fun _ => .zero }
      match r.ionQueryHeapCnt with
      | none => (false, dev)
      | some cnt =>
        if ionNumHeapIds < cnt then (false, dev)
        else
          match r.ionQueryGetHeaps with
          | none => (false, dev)
          | some heaps =>
            (true, { cacheHeaps 0 ((List.range cnt).map heaps) dev with heapCnt := cnt })

def close : IonDevice := { dev with client := none }

def get : IonDevice :=
  if dev.client.isSome then dev
  else
    let (ok, dev) := openAndQueryIon dev r
    if ok then dev else dev.close

/-- The entries of the table that a loop looks at: the first one, and then as many as there are. -/
def entries : List HeapData := (List.range (max 1 dev.heapCnt)).map dev.heapInfo

end IonDevice

/-- What a process does with the device. -/
inductive DeviceCall where
  | get (r : OpenReply)
  | close

def DeviceCall.run (dev : IonDevice) : DeviceCall → IonDevice
  | .get r => dev.get r
  | .close => dev.close

/-- What an opening lists, if it goes well. -/
def OpenReply.listing (r : OpenReply) : Option (List HeapData) :=
  match r.ionOpen, r.ionQueryHeapCnt, r.ionQueryGetHeaps with
  | some _, some cnt, some heaps =>
    if ionNumHeapIds < cnt then none else some ((List.range cnt).map heaps)
  | _, _, _ => none

/-- **The heaps that are known**: those that were listed last, while the device is open. -/
def DeviceCall.next (known : Option (List HeapData)) : DeviceCall → Option (List HeapData)
  | .get r => known.or r.listing
  | .close => none

/-- **The table of a device** is what is known. -/
def Represents (dev : IonDevice) : Option (List HeapData) → Prop
  | none => dev.client = none
  | some heaps => dev.client.isSome = true ∧ dev.heapCnt = heaps.length ∧
    ∀ i, dev.heapInfo i = (heaps.map HeapData.retype).getD i .zero

section

variable {dev : IonDevice} {known : Option (List HeapData)}

/-- What is copied, by induction on the heaps. -/
theorem cacheHeaps_eq (i : ℕ) (heaps : List HeapData) (dev : IonDevice) :
    (IonDevice.cacheHeaps i heaps dev).client = dev.client ∧
      ∀ j, (IonDevice.cacheHeaps i heaps dev).heapInfo j =
        if i ≤ j then ((heaps.map HeapData.retype)[j - i]?).getD (dev.heapInfo j)
        else dev.heapInfo j := by
  induction heaps generalizing i dev with
  | nil =>
    refine ⟨rfl, fun j => ?_⟩
    split_ifs <;> rfl
  | cons heap heaps ih =>
    rw [IonDevice.cacheHeaps]
    refine ⟨(ih _ _).1, fun j => ?_⟩
    rw [(ih _ _).2 j]
    rcases lt_trichotomy i j with hlt | rfl | hgt
    · have hsub : j - i = (j - (i + 1)) + 1 := by omega
      rw [if_pos (by omega), if_pos hlt.le, hsub, List.map_cons, List.getElem?_cons_succ]
      simp only [Function.update_of_ne hlt.ne']
    · rw [if_neg (by omega), if_pos le_rfl, Nat.sub_self, List.map_cons, List.getElem?_cons_zero]
      simp only [Function.update_self, Option.getD_some]
    · rw [if_neg (by omega), if_neg (by omega)]
      simp only [Function.update_of_ne hgt.ne]

/-- **An opening** leaves the table of what it lists. -/
theorem represents_get (h : Represents dev known) (r : OpenReply) :
    Represents (dev.get r) (known.or r.listing) := by
  cases known with
  | some heaps =>
    rw [Option.some_or, IonDevice.get, if_pos h.1]
    exact h
  | none =>
    have hclient : ¬dev.client.isSome = true := by
      rw [show dev.client = none from h]
      exact Bool.false_ne_true
    rw [Option.none_or, IonDevice.get, if_neg hclient, IonDevice.openAndQueryIon, if_neg hclient,
      OpenReply.listing]
    cases r.ionOpen with
    | none => exact rfl
    | some client =>
      cases r.ionQueryHeapCnt with
      | none => exact rfl
      | some cnt =>
        cases r.ionQueryGetHeaps with
        | none =>
          by_cases hcnt : ionNumHeapIds < cnt
          · simp only [if_pos hcnt]
            exact rfl
          · simp only [if_neg hcnt]
            exact rfl
        | some heaps =>
          by_cases hcnt : ionNumHeapIds < cnt
          · simp only [if_pos hcnt]
            exact rfl
          · simp only [if_neg hcnt]
            obtain ⟨hopen, hinfo⟩ := cacheHeaps_eq 0 ((List.range cnt).map heaps)
              { dev with client := some client, heapCnt := 0, heapInfo := fun _ => .zero }
            refine ⟨congrArg Option.isSome hopen, ?_, fun i => ?_⟩
            · show cnt = ((List.range cnt).map heaps).length
              rw [List.length_map, List.length_range]
            · refine (hinfo i).trans ?_
              rw [if_pos (Nat.zero_le i), Nat.sub_zero, List.getD_eq_getElem?_getD]

theorem represents_step (h : Represents dev known) (c : DeviceCall) :
    Represents (c.run dev) (c.next known) := by
  cases c with
  | get r => exact represents_get h r
  | close => exact rfl

/-- **The table of an open device** is that of the last listing, after any calls. -/
theorem represents_run (calls : List DeviceCall) :
    Represents (calls.foldl DeviceCall.run .start) (calls.foldl DeviceCall.next none) := by
  have hrun : ∀ dev known, Represents dev known →
      Represents (calls.foldl DeviceCall.run dev) (calls.foldl DeviceCall.next known) := by
    induction calls with
    | nil => exact fun _ _ h => h
    | cons c calls ih => exact fun _ _ h => ih _ _ (represents_step h c)
  exact hrun _ _ rfl

/-- What is taken for the heaps: a cleared entry if there are none. -/
def triedHeaps (heaps : List HeapData) : List HeapData :=
  if heaps = [] then [.zero] else heaps.map HeapData.retype

/-- **The entries that a loop looks at.** -/
theorem entries_eq {heaps : List HeapData} (h : Represents dev (some heaps)) :
    dev.entries = triedHeaps heaps := by
  obtain ⟨-, hcnt, hinfo⟩ := h
  rw [IonDevice.entries, hcnt, triedHeaps]
  split_ifs with hnil
  · rw [hnil, List.length_nil, Nat.max_eq_left (Nat.zero_le 1), List.range_one, List.map_singleton,
      hinfo, hnil]
    rfl
  · have hpos := List.length_pos_iff.mpr hnil
    rw [Nat.max_eq_right hpos]
    refine List.ext_getElem (by rw [List.length_map, List.length_range, List.length_map]) ?_
    intro i hi hi'
    rw [List.getElem_map, List.getElem_range, hinfo, List.getD_eq_getElem?_getD,
      List.getElem?_eq_getElem hi', Option.getD_some]

end

/-! ### Allocation -/

/-- What the kernel is asked for: memory of a heap, with some flags; and the type of heap that is
reported for it. -/
structure Attempt where
  heap : HeapData
  flags : BitVec 32
  type : HeapType
  deriving DecidableEq, Repr

def ionFlagCached : BitVec 32 := 1#32
def ionFlagCachedNeedsSync : BitVec 32 := 2#32
def ionFlagExtendMesonHeap : BitVec 32 := 1#32 <<< 30
def ionFlagExtendMesonHeapSecure : BitVec 32 := 1#32 <<< 29

/-- The flags of a request to ION: memory that the CPU or the texture unit uses is cached. -/
def setIonFlags (type : HeapType) (usage : Usage) (ionFlags : BitVec 32) : BitVec 32 :=
  if type ≠ .dma ∧ type ≠ .custom ∧ type ≠ .secure ∧
      (usage.hasCpu = true ∨ usage = Usage.hwTexture) then
    ionFlagCached ||| ionFlagCachedNeedsSync
  else ionFlags

/-- The flags for the heaps of the vendor. -/
def mesonFlags (type : HeapType) (flags : BitVec 32) : BitVec 32 :=
  let flags :=
    if type = .custom ∨ type = .dma ∨ type = .fb ∨ type = .secure then
      flags ||| ionFlagExtendMesonHeap
    else flags
  if type = .secure then flags ||| ionFlagExtendMesonHeapSecure else flags

/-- A heap is of a type; the one of the frame buffer is known by its name. -/
def HeapData.isOf (type : HeapType) (h : HeapData) : Bool :=
  type == h.type && h.name != "ion-fb" || type == .fb && h.name == "ion-fb"

section

variable (reply : ℕ → Attempt → Option ℕ)

/-- The heaps of a kind are asked, one after the other, until one has memory; and the number of the
attempt that follows. -/
def askHeaps (p : HeapData → Bool) (type : HeapType) (flags : BitVec 32) :
    ℕ → List HeapData → Option (Attempt × ℕ) × ℕ
  | k, [] => (none, k)
  | k, heap :: heaps =>
    if p heap then
      match reply k ⟨heap, flags, type⟩ with
      | some fd => (some (⟨heap, flags, type⟩, fd), k + 1)
      | none => askHeaps p type flags (k + 1) heaps
    else askHeaps p type flags k heaps

/-- Memory of another heap may take the place of the one that was picked. -/
def mayFallBack (usage : Usage) (type : HeapType) : Bool :=
  type != .custom && type != .secure && !usage.has Usage.hwFb && type != .system

/-- **An allocation from ION**: the attempt that was granted, and its descriptor. -/
def allocFromIonHeap (dev : IonDevice) (usage : Usage) (size : ℕ) (type : HeapType)
    (flags : BitVec 32) : Option (Attempt × ℕ) :=
  if dev.client = none ∨ size = 0 ∨ type = .invalid then none
  else
    let flags := mesonFlags type flags
    match askHeaps reply (HeapData.isOf type) type flags 0 dev.entries with
    | (some got, _) => some got
    | (none, k) =>
      if mayFallBack usage type then
        let flags := setIonFlags .system usage flags
        if dev.entries.any fun h => h.type == .system then
          (askHeaps reply (fun h => h.type == .system) .system flags k dev.entries).1
        else none
      else none

end

/-- The attempts at the heaps of a kind. -/
def attemptsAt (p : HeapData → Bool) (type : HeapType) (flags : BitVec 32)
    (heaps : List HeapData) : List Attempt :=
  (heaps.filter p).map fun heap => ⟨heap, flags, type⟩

/-- **The attempts of an allocation**, in order: the heaps of the type, then those of the system. -/
def attempts (usage : Usage) (type : HeapType) (flags : BitVec 32) (heaps : List HeapData) :
    List Attempt :=
  attemptsAt (HeapData.isOf type) type (mesonFlags type flags) heaps ++
    if mayFallBack usage type then
      attemptsAt (fun h => h.type == .system) .system
        (setIonFlags .system usage (mesonFlags type flags)) heaps
    else []

section

variable {reply : ℕ → Attempt → Option ℕ} {type : HeapType} {flags : BitVec 32}
  {dev : IonDevice} {usage : Usage} {size : ℕ}

/-- **One loop** makes the attempts at the heaps of its kind, by induction on the table. -/
theorem askHeaps_eq (reply : ℕ → Attempt → Option ℕ) (p : HeapData → Bool) (type : HeapType)
    (flags : BitVec 32) (k : ℕ) (heaps : List HeapData) :
    (askHeaps reply p type flags k heaps).1 =
        firstGranted reply k (attemptsAt p type flags heaps) ∧
      ((askHeaps reply p type flags k heaps).1 = none →
        (askHeaps reply p type flags k heaps).2 = k + (attemptsAt p type flags heaps).length) := by
  induction heaps generalizing k with
  | nil => exact ⟨rfl, fun _ => rfl⟩
  | cons heap heaps ih =>
    rw [askHeaps]
    by_cases hp : p heap = true
    · have hcons : attemptsAt p type flags (heap :: heaps) =
          ⟨heap, flags, type⟩ :: attemptsAt p type flags heaps := by
        rw [attemptsAt, List.filter_cons_of_pos hp, List.map_cons, attemptsAt]
      rw [if_pos hp, hcons]
      cases hr : reply k ⟨heap, flags, type⟩ with
      | some fd =>
        rw [firstGranted_cons_of_some hr]
        exact ⟨rfl, fun h => absurd h (Option.some_ne_none _)⟩
      | none =>
        obtain ⟨hfirst, hcount⟩ := ih (k + 1)
        rw [firstGranted_cons_of_none hr, List.length_cons]
        refine ⟨hfirst, fun h => (hcount h).trans ?_⟩
        omega
    · have hskip : attemptsAt p type flags (heap :: heaps) = attemptsAt p type flags heaps := by
        rw [attemptsAt, List.filter_cons_of_neg hp, attemptsAt]
      rw [if_neg hp, hskip]
      exact ih k

/-- **The two loops** are one list of attempts. -/
theorem allocFromIonHeap_eq (hopen : dev.client ≠ none) (hsize : size ≠ 0)
    (htype : type ≠ .invalid) :
    allocFromIonHeap reply dev usage size type flags =
      firstGranted reply 0 (attempts usage type flags dev.entries) := by
  obtain ⟨hfirst, hcount⟩ :=
    askHeaps_eq reply (HeapData.isOf type) type (mesonFlags type flags) 0 dev.entries
  rw [allocFromIonHeap, if_neg (by simp [hopen, hsize, htype])]
  dsimp only
  rw [attempts, firstGranted_append, ← hfirst]
  cases hask : askHeaps reply (HeapData.isOf type) type (mesonFlags type flags) 0 dev.entries with
  | mk got k =>
    rw [hask] at hcount
    cases got with
    | some got => rfl
    | none =>
      rw [Option.none_or]
      by_cases hfall : mayFallBack usage type = true
      · simp only [if_pos hfall]
        rw [← hcount rfl, ← (askHeaps_eq _ _ _ _ _ _).1]
        split_ifs with hany
        · rfl
        · -- without a heap of the system there is nothing to ask
          have hnil : attemptsAt (fun h => h.type == HeapType.system) .system
              (setIonFlags .system usage (mesonFlags type flags)) dev.entries = [] := by
            rw [attemptsAt, List.map_eq_nil_iff, List.filter_eq_nil_iff]
            intro h hh heq
            exact hany (List.any_eq_true.mpr ⟨h, hh, heq⟩)
          rw [(askHeaps_eq _ _ _ _ _ _).1, hnil]
          rfl
      · simp only [if_neg hfall]
        rfl

/-- **An allocation from ION**, after any openings and closings of the device, and whatever the
kernel replies: it needs an open device, a size and a type of heap; then the first attempt that is
granted is the result, at a heap of the type that was listed last, or after all of these have
refused, where this is allowed, at one of the system's. -/
theorem allocFromIonHeap_iff_of_run (calls : List DeviceCall) (got : Attempt) (fd : ℕ) :
    allocFromIonHeap reply (calls.foldl DeviceCall.run .start) usage size type flags =
        some (got, fd) ↔
      ∃ heaps, calls.foldl DeviceCall.next none = some heaps ∧ size ≠ 0 ∧ type ≠ .invalid ∧
        ∃ i, (attempts usage type flags (triedHeaps heaps))[i]? = some got ∧
          reply i got = some fd ∧
          ∀ j < i, ∀ a, (attempts usage type flags (triedHeaps heaps))[j]? = some a →
            reply j a = none := by
  have hrep := represents_run calls
  cases hknown : calls.foldl DeviceCall.next none with
  | none =>
    rw [hknown] at hrep
    have hclosed : (calls.foldl DeviceCall.run .start).client = none := hrep
    rw [allocFromIonHeap, if_pos (Or.inl hclosed)]
    refine iff_of_false (Option.some_ne_none _).symm ?_
    rintro ⟨heaps, ⟨⟩, -⟩
  | some heaps =>
    rw [hknown] at hrep
    have hopen : (calls.foldl DeviceCall.run .start).client ≠ none :=
      Option.isSome_iff_ne_none.mp hrep.1
    by_cases hbad : size = 0 ∨ type = .invalid
    · rw [allocFromIonHeap, if_pos (Or.inr hbad)]
      refine iff_of_false (Option.some_ne_none _).symm ?_
      rintro ⟨_, -, hsize, htype, -⟩
      exact hbad.elim hsize htype
    · obtain ⟨hsize, htype⟩ := not_or.mp hbad
      rw [allocFromIonHeap_eq hopen hsize htype, entries_eq hrep, firstGranted_eq_some_iff]
      simp only [Nat.zero_add]
      constructor
      · exact fun h => ⟨heaps, rfl, hsize, htype, h⟩
      · rintro ⟨_, ⟨⟩, -, -, h⟩
        exact h

end

end Ion

end Gralloc
