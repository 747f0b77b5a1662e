import Gralloc.Heap.Batch

/-!
# Asking whether a request is supported

Before it asks for buffers a client of the AIDL allocator may ask whether it would get
them (`Gralloc.isSupported`), and the allocator asks itself (`Gralloc.allocate2`). The
answer is that of a derivation – and, for protected content, whether the heap that the
request would be served from is installed. That heap depends on the request, and the
answer about it is kept for good in a variable of the function
(`Gralloc.allocatorSupportsProtectedMemory`).

So the state of the service is an answer or none, written once, by the first call that
gets as far as to ask (`Gralloc.cache_of_runCalls`). What is answered later is right
whenever the two heaps, the first one's and the one at hand, are both there or both
missing, and wrong otherwise (`Gralloc.historyFree_iff`).
-/

namespace Gralloc

open CInt

/-! ### Requests -/

/-- A request of the AIDL interface. -/
structure AidlDescriptorInfo where
  name : List (BitVec 8)
  width : BitVec 32
  height : BitVec 32
  layerCount : BitVec 32
  format : BitVec 32
  usage : Usage
  /-- The names of the options. -/
  additionalOptions : List String
  deriving DecidableEq, Repr

/-- The descriptor of a request; `flags` are those of the service. -/
def AidlDescriptorInfo.toDescriptor (info : AidlDescriptorInfo) (flags : DescriptorFlags) :
    BufferDescriptor :=
  { BufferDescriptor.request info.width info.height info.usage
      -- an enumeration over `int`, widened with its sign
      (info.format.signExtend 64) info.layerCount with
    flags := flags }

/-- The allocator service, and what stays fixed around it. -/
structure AidlService where
  platform : Platform
  flags : DescriptorFlags
  node : ℕ → Option DecoderPara
  /-- The names of the installed heaps. -/
  heapList : List String

/-- The options that are understood: none. -/
def supportedOptions : List String := []

/-! ### The cache -/

/-- The variable of `allocator_supports_protected_memory`. -/
abbrev ProtectedCache : Type := Option Bool

section

variable (svc : AidlService)

/-- The heap that protected content of this request would come from is installed. -/
def allocatorHasProtectedHeap (d : BufferDescriptor) : Bool :=
  svc.heapList.contains
    (pickDmaBufHeap svc.platform.heaps false d Usage.protectedContent).name

/-- The answer, from the cache when there is one. -/
def allocatorSupportsProtectedMemory (cache : ProtectedCache) (d : BufferDescriptor) :
    Bool × ProtectedCache :=
  match cache with
  | some b => (b, cache)
  | none =>
    let b := allocatorHasProtectedHeap svc d
    (b, some b)

/-- **Whether a request is supported.** -/
def isSupported (cache : ProtectedCache) (info : AidlDescriptorInfo) :
    Run (Bool × ProtectedCache) := do
  let options := info.additionalOptions.all supportedOptions.contains
  let r ← deriveFormatAndSize wrapping svc.platform.caps svc.node (info.toDescriptor svc.flags)
  match r.1 with
  | .einval => .ok (false, cache)
  | .success =>
    if r.2.producerUsage.has Usage.protectedContent then
      let (b, cache) := allocatorSupportsProtectedMemory svc cache r.2
      .ok (b && options, cache)
    else .ok (options, cache)

/-- The name of a request that only changes the level of the log. -/
def AidlDescriptorInfo.isDebugLog (info : AidlDescriptorInfo) : Bool :=
  info.name.takeWhile (· != 0#8) ==
    "gralloc_debug_log".toList.map fun c => BitVec.ofNat 8 c.toNat

/-- **An allocation**, one buffer for each attempt; what is left of it is the cache. -/
def allocate2 (cache : ProtectedCache) (info : AidlDescriptorInfo) (es : List Attempt) :
    Run ProtectedCache := do
  if info.isDebugLog then .ok cache
  else do
    let (supported, cache) ← isSupported svc cache info
    if supported then do
      let _ ← allocate svc.platform es (info.toDescriptor svc.flags)
      .ok cache
    else .ok cache

/-- A call of the interface. -/
inductive AidlCall where
  | isSupported (info : AidlDescriptorInfo)
  | allocate2 (info : AidlDescriptorInfo) (es : List Attempt)

def AidlCall.run (cache : ProtectedCache) : AidlCall → Run ProtectedCache
  | .isSupported info => do
    let r ← Gralloc.isSupported svc cache info
    .ok r.2
  | .allocate2 info es => Gralloc.allocate2 svc cache info es

/-- Calls, one after the other. -/
def runCalls (cache : ProtectedCache) : List AidlCall → Run ProtectedCache
  | [] => .ok cache
  | c :: cs => do
    let cache ← c.run svc cache
    runCalls cache cs

/-! ### Who asks about heaps -/

/-- A request that gets as far as to ask about its heap: it is protected and derived. -/
def asksHeap (info : AidlDescriptorInfo) : Bool :=
  info.usage.has Usage.protectedContent &&
    match deriveFormatAndSize wrapping svc.platform.caps svc.node
      (info.toDescriptor svc.flags) with
    | .ok (.success, _) => true
    | _ => false

/-- The heap that a protected request is served from. -/
def AidlDescriptorInfo.protectedHeap (info : AidlDescriptorInfo) : DmaBufHeap :=
  pickDmaBufHeap svc.platform.heaps false (info.toDescriptor svc.flags) info.usage

/-- That heap is installed. -/
def heapInstalled (info : AidlDescriptorInfo) : Bool :=
  svc.heapList.contains (info.protectedHeap svc).name

/-- The request of a call that looks at requests. -/
def AidlCall.request : AidlCall → Option AidlDescriptorInfo
  | .isSupported info => some info
  | .allocate2 info _ => if info.isDebugLog then none else some info

/-- The first request of a history that asks about its heap. -/
def firstAsked (cs : List AidlCall) : Option AidlDescriptorInfo :=
  (cs.filterMap AidlCall.request).find? (asksHeap svc)

end

section

variable {svc : AidlService} {cache cache' : ProtectedCache} {info : AidlDescriptorInfo}

/-- What a derivation leaves of a request. -/
theorem of_derive_request {st : Status} {r : BufferDescriptor}
    (hr : deriveFormatAndSize wrapping svc.platform.caps svc.node (info.toDescriptor svc.flags) =
      .ok (st, r)) :
    r.producerUsage = info.usage ∧ r.isAndroidYuv = (info.toDescriptor svc.flags).isAndroidYuv := by
  have h : r.fresh = (info.toDescriptor svc.flags).fresh := fresh_of_derive hr
  have husage := congrArg BufferDescriptor.producerUsage h
  have hformat := congrArg BufferDescriptor.isAndroidYuv h
  exact ⟨husage, hformat⟩

/-- The heap that is asked about is that of the request. -/
theorem allocatorHasProtectedHeap_eq (hp : info.usage.has Usage.protectedContent = true)
    {st : Status} {r : BufferDescriptor}
    (hr : deriveFormatAndSize wrapping svc.platform.caps svc.node (info.toDescriptor svc.flags) =
      .ok (st, r)) :
    allocatorHasProtectedHeap svc r = heapInstalled svc info := by
  rw [allocatorHasProtectedHeap, heapInstalled, AidlDescriptorInfo.protectedHeap,
    pickDmaBufHeap_of_protected (by decide), pickDmaBufHeap_of_protected hp,
    (of_derive_request hr).2]

/-- **A request that asks about its heap** gets the cached answer, or is the first. -/
theorem isSupported_of_asksHeap (h : asksHeap svc info = true) (cache : ProtectedCache) :
    isSupported svc cache info =
      .ok (cache.getD (heapInstalled svc info) &&
          info.additionalOptions.all supportedOptions.contains,
        some (cache.getD (heapInstalled svc info))) := by
  rw [asksHeap, Bool.and_eq_true] at h
  obtain ⟨hp, h⟩ := h
  split at h
  · next r hr =>
    have hp' : r.producerUsage.has Usage.protectedContent = true := by
      rw [(of_derive_request hr).1, hp]
    simp only [isSupported, hr, ok_bind, hp', if_true]
    cases cache with
    | some b => rfl
    | none =>
      rw [allocatorSupportsProtectedMemory, allocatorHasProtectedHeap_eq hp hr]
      rfl
  · cases h

/-- **Any other request** is answered without the cache. -/
theorem isSupported_of_not_asksHeap (h : asksHeap svc info = false) (cache : ProtectedCache) :
    isSupported svc cache info =
      (isSupported svc none info).map fun r => (r.1, cache) := by
  unfold isSupported
  cases hr : deriveFormatAndSize wrapping svc.platform.caps svc.node
      (info.toDescriptor svc.flags) with
  | error e => rfl
  | ok x =>
    obtain ⟨st, r⟩ := x
    cases st with
    | einval => rfl
    | success =>
      have hp : ¬r.producerUsage.has Usage.protectedContent = true := by
        rw [(of_derive_request hr).1]
        intro hp
        simp [asksHeap, hp, hr] at h
      simp only [ok_bind, if_neg hp]
      rfl

/-- What a call leaves in the cache. -/
def cacheAfter (svc : AidlService) (cache : ProtectedCache) (info : AidlDescriptorInfo) :
    ProtectedCache :=
  if asksHeap svc info then some (cache.getD (heapInstalled svc info)) else cache

theorem snd_of_isSupported {r : Bool × ProtectedCache} (h : isSupported svc cache info = .ok r) :
    r.2 = cacheAfter svc cache info := by
  cases ha : asksHeap svc info with
  | true =>
    rw [isSupported_of_asksHeap ha] at h
    cases h
    rw [cacheAfter, if_pos ha]
  | false =>
    rw [isSupported_of_not_asksHeap ha] at h
    obtain ⟨r', -, rfl⟩ := map_eq_ok.mp h
    rw [cacheAfter, if_neg (by simp [ha])]

/-- **One call** leaves the cache as its request, if it looks at one, does. -/
theorem cache_of_run {c : AidlCall} (h : c.run svc cache = .ok cache') :
    cache' = (c.request.map (cacheAfter svc cache)).getD cache := by
  cases c with
  | isSupported info =>
    obtain ⟨r, hr, h⟩ := bind_eq_ok.mp h
    cases h
    exact snd_of_isSupported hr
  | allocate2 info es =>
    change Gralloc.allocate2 svc cache info es = .ok cache' at h
    unfold Gralloc.allocate2 at h
    rw [AidlCall.request]
    split_ifs at h ⊢
    · cases h
      rfl
    · obtain ⟨r, hr, h⟩ := bind_eq_ok.mp h
      have hc := snd_of_isSupported hr
      dsimp only at h
      split_ifs at h
      · obtain ⟨-, -, h⟩ := bind_eq_ok.mp h
        cases h
        exact hc
      · cases h
        exact hc

/-- **A history** leaves the answer that it found, or that of the first request that asked
about its heap. -/
theorem cache_of_runCalls (cs : List AidlCall) :
    ∀ {cache cache' : ProtectedCache}, runCalls svc cache cs = .ok cache' →
      cache' = cache.or ((firstAsked svc cs).map (heapInstalled svc)) := by
  induction cs with
  | nil =>
    intro cache cache' h
    cases h
    cases cache <;> rfl
  | cons c cs ih =>
    intro cache cache' h
    obtain ⟨cache₁, hc, h⟩ := bind_eq_ok.mp h
    rw [ih h, cache_of_run hc, firstAsked, firstAsked, List.filterMap_cons]
    cases hq : c.request with
    | none => rfl
    | some info =>
      rw [Option.map_some, Option.getD_some, cacheAfter, List.find?_cons]
      cases ha : asksHeap svc info with
      | true => cases cache <;> rfl
      | false => rfl

/-! ### Answers -/

/-- What is answered about a request. -/
def answer (svc : AidlService) (cache : ProtectedCache) (info : AidlDescriptorInfo) : Run Bool :=
  (isSupported svc cache info).map Prod.fst

/-- **The answer does not depend on earlier calls**, and says that a protected request is
supported only if its heap is installed. -/
structure HistoryFree (svc : AidlService) (cache : ProtectedCache) (info : AidlDescriptorInfo) :
    Prop where
  answer_eq : answer svc cache info = answer svc none info
  installed : info.usage.has Usage.protectedContent = true → answer svc cache info = .ok true →
    heapInstalled svc info = true

/-- A protected request that is supported was asked about. -/
theorem asksHeap_of_answer (hp : info.usage.has Usage.protectedContent = true)
    (h : answer svc cache info = .ok true) : asksHeap svc info = true := by
  obtain ⟨r, hr, hr₁⟩ := map_eq_ok.mp h
  obtain ⟨⟨st, r'⟩, hd, hr⟩ := bind_eq_ok.mp hr
  cases st with
  | einval =>
    cases hr
    exact nomatch hr₁
  | success => rw [asksHeap, hp, hd, Bool.true_and]

/-- A request that asks about its heap, answered. -/
theorem answer_of_asksHeap (ha : asksHeap svc info = true) (cache : ProtectedCache) :
    answer svc cache info =
      .ok (cache.getD (heapInstalled svc info) && decide (info.additionalOptions = [])) := by
  have hopt : info.additionalOptions.all supportedOptions.contains =
      decide (info.additionalOptions = []) := by
    cases info.additionalOptions <;> simp [supportedOptions]
  rw [answer, isSupported_of_asksHeap ha, hopt]
  rfl

/-- **When the answer does not depend on earlier calls**: the first request that asked about
its heap, if there was one, found its heap as this one would find its own. -/
theorem historyFree_iff {cs : List AidlCall} (h : runCalls svc none cs = .ok cache) :
    HistoryFree svc cache info ↔
      (asksHeap svc info = true → info.additionalOptions = [] →
        ∀ first, firstAsked svc cs = some first →
          heapInstalled svc first = heapInstalled svc info) := by
  have hcache : cache = (firstAsked svc cs).map (heapInstalled svc) := cache_of_runCalls cs h
  constructor
  · intro hfree ha hopt first hfirst
    have heq := hfree.answer_eq
    rw [hfirst, Option.map_some] at hcache
    rw [answer_of_asksHeap ha, answer_of_asksHeap ha, hcache, hopt] at heq
    simpa using heq
  · intro hcond
    have heq : answer svc cache info = answer svc none info := by
      cases ha : asksHeap svc info with
      | false =>
        rw [answer, isSupported_of_not_asksHeap ha, answer]
        cases isSupported svc none info <;> rfl
      | true =>
        rw [answer_of_asksHeap ha, answer_of_asksHeap ha]
        by_cases hopt : info.additionalOptions = []
        · cases hfirst : firstAsked svc cs with
          | none => rw [hcache, hfirst, Option.map_none]
          | some first =>
            rw [hcache, hfirst, Option.map_some, Option.getD_some, hcond ha hopt first hfirst,
              Option.getD_none]
        · rw [decide_eq_false hopt, Bool.and_false, Bool.and_false]
    refine ⟨heq, fun hp htrue => ?_⟩
    rw [heq] at htrue
    rw [answer_of_asksHeap (asksHeap_of_answer hp htrue), Option.getD_none] at htrue
    exact (Bool.and_eq_true_iff.mp (Except.ok.inj htrue)).1

/-! ### A history of two formats -/

/-- A product whose codec has heaps, and that has no protected one. -/
def codecOnly : AidlService where
  platform := .plain
  flags := 0#32
  node := noDecoder
  heapList := ["system", "system-uncached", "heap-codecmm", "heap-cached-codecmm"]

/-- A protected 16 × 16 request. -/
def protectedInfo (format : BitVec 32) : AidlDescriptorInfo where
  name := []
  width := 16#32
  height := 16#32
  layerCount := 1#32
  format := format
  usage := 0x4300#64
  additionalOptions := []

/-- The equivalence, for RGBA_8888 after YV12. -/
theorem historyFree_iff_rgba_yv12 :
    HistoryFree codecOnly (some true) (protectedInfo 1#32) ↔
      (asksHeap codecOnly (protectedInfo 1#32) = true →
        (protectedInfo 1#32).additionalOptions = [] →
        ∀ first, firstAsked codecOnly [.isSupported (protectedInfo Hal.yv12)] = some first →
          heapInstalled codecOnly first = heapInstalled codecOnly (protectedInfo 1#32)) :=
  historyFree_iff (by decide +kernel)

/-- **Protected RGBA_8888 is not supported**, and is once YV12 was asked about; there is no
heap for it. -/
theorem not_historyFree_rgba_yv12 :
    runCalls codecOnly none [.isSupported (protectedInfo Hal.yv12)] = .ok (some true) ∧
      answer codecOnly none (protectedInfo 1#32) = .ok false ∧
      answer codecOnly (some true) (protectedInfo 1#32) = .ok true ∧
      heapInstalled codecOnly (protectedInfo 1#32) = false := by
  refine ⟨by decide +kernel, by decide +kernel, by decide +kernel, by decide +kernel⟩

end

end Gralloc
