import Gralloc.Hwc.PlaneFds
import Gralloc.Sharing.Requested

/-!
# What the composer opens

The composer gets handles like any other process, and asks the mapper for the descriptors of the
planes. The mapper repeats the descriptor of the memory for every plane, the numbers cross as
bytes, and the composer stores what it decodes. The number of a descriptor says nothing outside of
its process; what matters is which file is behind it.

In every state that the processes can reach, what the composer stores for a buffer is one
descriptor for each plane, and behind each of them is the memory that the allocator gave to the
buffer (`Gralloc.Sharing.getFds_of_reach`), unless the number is zero: the composer takes a
descriptor zero for none.
-/

namespace Gralloc

open CInt Mapper

namespace Hwc

/-! ### The same descriptor for every plane -/

/-- A descriptor that is repeated is stored as often. -/
theorem storeFds_replicate {fd : BitVec 64} (hfd : validFd fd = true) (i n : ℕ) :
    storeFds i (List.replicate n fd) =
      (.ok (), (List.range' i n).map fun k => ⟨k, fd.setWidth 32⟩) := by
  induction n generalizing i with
  | zero => rfl
  | succ n ih => rw [List.replicate_succ, storeFds, if_pos hfd, ih, List.range'_succ, List.map_cons]

/-- The numbers of descriptors are valid, but for zero. -/
theorem validFd_ofInt {n : ℕ} (hn : n < 2 ^ 31) :
    validFd (BitVec.ofInt 64 n) = decide (n ≠ 0) := by
  have hint : (BitVec.ofInt 64 n).toInt = n := by
    rw [BitVec.toInt_ofInt]
    exact Int.bmod_eq_of_le_mul_two (by omega) (by omega)
  rw [validFd, hint, ← Bool.decide_and]
  exact decide_eq_decide.mpr (by omega)

section

variable {hnd : MetadataHandle} {n : ℕ}

/-- **What the composer stores** of a handle whose descriptor is `n`. -/
theorem exists_getFds (gralloc4 : Hidl.Gralloc4) (hfd : hnd.shareFd = n) (hn : n < 2 ^ 31) :
    ∃ v : HidlVec, Hidl.get gralloc4 hnd (.arm .planeFds) = .ok (.ok v.bytes) ∧
      getFds .none v =
        if n = 0 then (.error .badValue, [])
        else (.ok (), (List.range' 0 hnd.getNumPlanes).map fun k => ⟨k, BitVec.ofNat 32 n⟩) := by
  have hplanes : planeFds hnd = List.replicate hnd.getNumPlanes (BitVec.ofInt 64 n) := by
    rw [planeFds, hfd]
  have hlen : (planeFds hnd).length = hnd.getNumPlanes := by
    rw [hplanes, List.length_replicate]
  have hle : 0 < hnd.getNumPlanes ∧ hnd.getNumPlanes ≤ 3 := by
    rcases getNumPlanes_cases hnd.toPrivateHandle with h | h | h <;> omega
  have hbytes : (planeFdBytes (planeFds hnd)).length < 2 ^ 32 := by
    rw [length_planeFdBytes, hlen]
    omega
  have hencode : encodeArmPlaneFdsHidl (planeFds hnd) =
      some ⟨planeFdBytes (planeFds hnd), hbytes⟩ := dif_pos hbytes
  have hdecode : decodePlaneFds ⟨planeFdBytes (planeFds hnd), hbytes⟩ = .ok (planeFds hnd) :=
    decodePlaneFds_of_prefix (List.prefix_refl _)
  refine ⟨⟨planeFdBytes (planeFds hnd), hbytes⟩, ?_, ?_⟩
  · have hfixed : ¬(hnd.attr.isNone ∧ isMutable (.arm .planeFds)) := fun h => Bool.noConfusion h.2
    rw [Hidl.get, Mapper.get, if_neg hfixed]
    exact congrArg Except.ok (getEncodeFunction_planeFds gralloc4 hencode)
  · have hne : (planeFds hnd).isEmpty = false := by
      rw [List.isEmpty_eq_false_iff, ← List.length_pos_iff]
      omega
    rw [getFds, if_neg (by decide), hdecode]
    simp only [hne, Bool.false_eq_true, if_false]
    obtain ⟨k, hk⟩ : ∃ k, hnd.getNumPlanes = k + 1 := ⟨hnd.getNumPlanes - 1, by omega⟩
    split_ifs with h
    · rw [hplanes, hk, List.replicate_succ, storeFds, if_neg]
      rw [validFd_ofInt hn, h]
      decide
    · have hvalid : validFd (BitVec.ofInt 64 n) = true :=
        (validFd_ofInt hn).trans (decide_eq_true h)
      have hword : (BitVec.ofInt 64 n).setWidth 32 = BitVec.ofNat 32 n := by
        rw [BitVec.ofInt_natCast]
        exact BitVec.setWidth_ofNat_of_le (by decide) n
      rw [hplanes, storeFds_replicate hvalid, hword]

end

end Hwc

namespace Sharing

open Transition Hwc

/-! ### In every process -/

/-- **The planes are open**: one descriptor for each of them, and behind it the memory. -/
structure OpensPlanes (p : Process) (ph : PrivateHandle) (share : File) (fds : List PrimeFd) :
    Prop where
  planes : fds.map PrimeFd.index = List.range ph.getNumPlanes
  opens : ∀ x ∈ fds, p.files (.fd x.value.toNat) = some share

section

variable {ι : Type*} [DecidableEq ι] {pageSize : ℤ} {g : Aml.Gralloctypes} {s₀ s s' : System ι}
  {i j : ι} {a c : ℕ} {h : Handle} {order : List ℕ} {ints : Integers} {fds : Fds}
  {share attr : File} {m : SharedMetadata}

/-- **What the composer opens** is the memory of the buffer: in every state that the processes can
reach, through every handle of it, unless the descriptor of the handle is zero. -/
theorem getFds_of_reach (h₀ : s₀.Bare) (hr : Reach (System.step pageSize g) Fair s₀ s)
    (hfair : Fair s (.allocate i a ints fds share attr m))
    (hr' : Reach (System.step pageSize g) (fun s call => Fair s call ∧ KeepsFile attr call)
      (s.step pageSize g (.allocate i a ints fds share attr m)) s')
    (hc : (s'.procs j).handles c = some h)
    (hf : (s'.procs j).files (.fd h.fds.shareAttrFd) = some attr) (hn : h.fds.shareFd < 2 ^ 31)
    (gralloc4 : Hidl.Gralloc4) :
    ∃ v : HidlVec, Hidl.get gralloc4 ((s'.view j order).metadataHandle c) (.arm .planeFds) =
        .ok (.ok v.bytes) ∧
      (h.fds.shareFd ≠ 0 → (getFds .none v).1 = .ok () ∧
        OpensPlanes (s'.procs j) ints.toPrivateHandle share (getFds .none v).2) ∧
      (h.fds.shareFd = 0 → getFds .none v = (.error .badValue, [])) := by
  have hs := consistent_of_reach h₀ hr
  obtain ⟨hd, -⟩ := mem_descriptions_allocate (g := g) hs hfair
  obtain ⟨-, hdesc⟩ := description_of_reach (hs.step _ hfair) hd rfl hr'
  have heq := hdesc _ ⟨j, c, h, hc, rfl⟩ hf
  have hshare : (s'.procs j).files (.fd h.fds.shareFd) = some share :=
    congrArg Description.share heq
  have hph : h.ints.toPrivateHandle = ints.toPrivateHandle :=
    congrArg (fun d => d.ints.toPrivateHandle) heq
  have hasked : ((s'.view j order).metadataHandle c).toPrivateHandle = ints.toPrivateHandle := by
    rw [← hph]
    unfold Aml.Process.metadataHandle
    rw [handle_view hc]
    rfl
  have hfd : ((s'.view j order).metadataHandle c).shareFd = h.fds.shareFd := by
    unfold Aml.Process.metadataHandle
    rw [handle_view hc]
    rfl
  obtain ⟨v, hget, hfds⟩ := exists_getFds gralloc4 hfd hn
  refine ⟨v, hget, fun hne => ?_, fun hzero => by rw [hfds, if_pos hzero]⟩
  rw [hfds, if_neg hne, hasked]
  refine ⟨rfl, ?_, ?_⟩
  · rw [List.map_map, List.range_eq_range']
    exact List.map_id _
  · intro x hx
    obtain ⟨k, -, rfl⟩ := List.mem_map.mp hx
    rw [BitVec.toNat_ofNat, Nat.mod_eq_of_lt (by omega)]
    exact hshare

end

/-! ### A composer -/

/-- The second process is the composer, and has the memory open as 6. -/
theorem getFds_of_reach_rgba :
    ∃ v : HidlVec,
      Hidl.get namesOnly ((sentRgba.view false [200]).metadataHandle 200) (.arm .planeFds) =
        .ok (.ok v.bytes) ∧
      OpensPlanes (sentRgba.procs false) rgbaInts.toPrivateHandle 1 (getFds .none v).2 := by
  obtain ⟨v, hget, hopens, -⟩ := getFds_of_reach bare_twoProcesses .start fair_rgbaAllocate
    ((reach_sentRgba .other).mono fun _ _ h => ⟨h.1, h.2.keepsFile⟩) (j := false) (c := 200) rfl rfl
    (show 6 < 2 ^ 31 by decide) namesOnly
  exact ⟨v, hget, (hopens (show 6 ≠ 0 by decide)).2⟩

end Sharing

end Gralloc
