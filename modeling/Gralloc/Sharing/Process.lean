import Gralloc.Idl.Slot
import Gralloc.Mapper.ImportFailure
import Gralloc.Resource.Owners

/-!
# A process with its handles

A process works with the handles that it was given and with those that it imported itself. Behind
both are descriptors of the same files: one for the memory of the buffer, one for its metadata, and
a duplicate of the first. What an imported handle has besides is its own: a mapping of the metadata,
one of the memory once the buffer was locked, and the counters of the locks
(`Gralloc.Sharing.LocalFields`).

Here a process has a table of what is open in it, descriptors and mappings, each with the file
behind it (`Gralloc.Sharing.Process`). The mapper's calls are the ones that change it: an import
duplicates and maps (`Gralloc.Sharing.importBuffer`), a lock may map
(`Gralloc.Sharing.lock`), and the end of a handle unmaps and closes
(`Gralloc.Sharing.freeBuffer`). Which numbers and addresses the kernel chooses is a parameter
of each call.

The fields of an imported handle are those of the block of words that
`Gralloc.Mapper.importBuffer` makes (`Gralloc.Sharing.localFields_importBuffer`).
-/

namespace Gralloc

namespace Sharing

open Mapper Resource

/-! ### Handles -/

/-- A file: the memory of a buffer, or its metadata. -/
abbrev File : Type := ℕ

/-- What is open in a process: a descriptor, or a mapping of some bytes at an address. -/
inductive Res where
  | fd (n : ℕ)
  | mapping (address : ℕ) (size : ℤ)
  deriving DecidableEq, Repr

inductive HandleType where
  | raw
  | imported
  deriving DecidableEq, Repr

/-- The descriptors of a handle, in order. -/
structure Fds where
  shareFd : ℕ
  shareAttrFd : ℕ
  amExtendFd : ℕ
  deriving DecidableEq, Repr

def Fds.toList (fds : Fds) : List ℕ := [fds.shareFd, fds.shareAttrFd, fds.amExtendFd]

/-- The integers of a handle, which cross to another process with it. -/
structure Integers extends PrivateHandle where
  ionDelayAlloc : BitVec 32
  needMmap : Bool
  attrSize : BitVec 64
  backingStoreId : BitVec 64
  type : HandleType
  deriving DecidableEq, Repr

/-- **The fields of a process**, behind the integers, which do not cross. -/
structure LocalFields where
  lockCount : ℤ
  invalidWriteLocks : Bool
  cpuWrite : Bool
  importPid : ℤ
  base : Option ℕ
  attrBase : Option ℕ
  deriving DecidableEq, Repr

/-- **A handle in a process**; the fields of the process are there if it was imported here. -/
structure Handle where
  ints : Integers
  fds : Fds
  mine : Option LocalFields
  deriving DecidableEq, Repr

namespace Handle

/-- A handle for the functions that lock. -/
def toImportedHandle (h : Handle) (l : LocalFields) : ImportedHandle :=
  { h.ints.toPrivateHandle with
    ionDelayAlloc := h.ints.ionDelayAlloc
    needMmap := h.ints.needMmap
    lockCount := l.lockCount
    invalidWriteLocks := l.invalidWriteLocks
    cpuWrite := l.cpuWrite
    importPid := l.importPid
    base := l.base }

/-- What the functions that lock have changed. -/
def after (h : Handle) (l : LocalFields) (hnd : ImportedHandle) : Handle :=
  { h with
    mine := some
      { lockCount := hnd.lockCount
        invalidWriteLocks := hnd.invalidWriteLocks
        cpuWrite := hnd.cpuWrite
        importPid := hnd.importPid
        base := hnd.base
        attrBase := l.attrBase } }

/-- The cast to an imported handle looks at the type. A handle of that type that was not
imported here ends before these fields. -/
def castImported (h : Handle) : Option LocalFields :=
  if h.ints.type = .imported then h.mine else none

/-- The size of a mapping of the metadata. -/
def attrBytes (h : Handle) : ℤ := h.ints.attrSize.toNat

/-- The usage a buffer was allocated with. -/
def usage (h : Handle) : Usage := h.ints.consumerUsage ||| h.ints.producerUsage

/-- The size of a mapping of the memory. -/
def baseBytes (h : Handle) (pageSize : ℤ) : ℤ :=
  if h.usage.isVideoDecoderReplace then pageSize else h.ints.size

end Handle

/-! ### Processes -/

/-- **A process**: its handles, by their addresses, those that are registered, and what is open. -/
structure Process where
  pid : ℤ
  handles : ℕ → Option Handle
  pool : List ℕ
  files : Res → Option File

namespace Process

variable (p : Process)

def close (n : ℕ) : Process := { p with files := Function.update p.files (.fd n) none }

/-- Another descriptor of the same file. -/
def dup (fd n : ℕ) : Process :=
  { p with files := Function.update p.files (.fd n) (p.files (.fd fd)) }

def mmap (fd : ℕ) (size : ℤ) (address : ℕ) : Process :=
  { p with files := Function.update p.files (.mapping address size) (p.files (.fd fd)) }

/-- Unmapping what was mapped, and as much of it. -/
def munmap (address : ℕ) (size : ℤ) : Process :=
  { p with files := Function.update p.files (.mapping address size) none }

def put (a : ℕ) (h : Option Handle) : Process :=
  { p with handles := Function.update p.handles a h }

/-- A handle is registered, once. -/
def register (a : ℕ) : Process := { p with pool := if a ∈ p.pool then p.pool else a :: p.pool }

def unregister (a : ℕ) : Process := { p with pool := p.pool.erase a }

/-- A handle is received, with descriptors of two files; the memory has two. -/
def receive (a : ℕ) (ints : Integers) (fds : Fds) (share attr : File) : Process :=
  { p with
    handles := Function.update p.handles a (some ⟨ints, fds, none⟩)
    files := fun r =>
      if r = .fd fds.shareFd ∨ r = .fd fds.amExtendFd then some share
      else if r = .fd fds.shareAttrFd then some attr
      else p.files r }

end Process

/-! ### Importing -/

/-- What an import gets from the kernel and the C library. -/
structure ImportAnswers where
  /-- A block for a handle, with what is in it where the counter of the locks and the flag of
  invalid write locks will be. -/
  block : Option (ℕ × ℤ × Bool)
  /-- The duplicates of the descriptors. -/
  dup : ℕ → Option ℕ
  /-- Where the metadata is mapped. -/
  mmap : Option ℕ

section

variable (p : Process)

/-- The descriptors are duplicated one by one; those that were are closed if one fails. -/
def cloneFds (fds : Fds) (dup : ℕ → Option ℕ) : Except Process (Fds × Process) :=
  match dup 0 with
  | none => .error p
  | some n₀ =>
    let p := p.dup fds.shareFd n₀
    match dup 1 with
    | none => .error (p.close n₀)
    | some n₁ =>
      let p := p.dup fds.shareAttrFd n₁
      match dup 2 with
      | none => .error ((p.close n₀).close n₁)
      | some n₂ => .ok (⟨n₀, n₁, n₂⟩, p.dup fds.amExtendFd n₂)

/-- **The import** of a handle, and where the imported one is. -/
def importBuffer (raw : ℕ) (ans : ImportAnswers) : Except MapperError ℕ × Process :=
  match p.handles raw with
  | none => (.error .badBuffer, p)
  | some h =>
    match ans.block with
    | none => (.error .noResources, p)
    | some (address, lockCount, invalidWriteLocks) =>
      match cloneFds p h.fds ans.dup with
      | .error p => (.error .noResources, p)
      | .ok (fds, p) =>
        match ans.mmap with
        | none => (.error .noResources, fds.toList.foldl Process.close p)
        | some attrBase =>
          let p := p.mmap fds.shareAttrFd h.attrBytes attrBase
          let handle : Handle :=
            { ints := { h.ints with type := .imported }
              fds := fds
              mine := some
                { lockCount := lockCount
                  invalidWriteLocks := invalidWriteLocks
                  cpuWrite := false
                  importPid := p.pid
                  base := none
                  attrBase := some attrBase } }
          (.ok address, (p.put address (some handle)).register address)

/-! ### The end of a handle -/

variable (pageSize : ℤ)

/-- The memory is unmapped if it is mapped. -/
def unmapBuffer (h : Handle) (l : LocalFields) : Process :=
  match l.base with
  | none => p
  | some base =>
    match (allocatorUnmap pageSize (h.toImportedHandle l)).1 with
    | none => p
    | some size => p.munmap base size

/-- The metadata is unmapped if it is mapped. -/
def unmapAttr (h : Handle) (l : LocalFields) : Process :=
  match l.attrBase with
  | none => p
  | some address => p.munmap address h.attrBytes

/-- The descriptors are closed, and the block is freed. -/
def deleteHandle (a : ℕ) (h : Handle) : Process :=
  (h.fds.toList.foldl Process.close p).put a none

/-- **The end of an imported handle.** -/
def freeBuffer (a : ℕ) : Except MapperError Unit × Process :=
  match p.handles a with
  | none => (.error .badBuffer, p)
  | some h =>
    match h.castImported with
    | none => (.error .badBuffer, p)
    | some l =>
      let p := p.unregister a
      -- what another process has mapped is not unmapped
      let p := if l.importPid = p.pid then unmapAttr (unmapBuffer p pageSize h l) h l else p
      (.ok (), deleteHandle p a h)

/-- The end of a handle that was not imported here, by the framework. -/
def closeHandle (a : ℕ) : Process :=
  match p.handles a with
  | none => p
  | some h => deleteHandle p a h

/-! ### Access by the CPU -/

/-- What the kernel answers to a lock or an unlock. -/
structure LockAnswers where
  syncStart : ℤ
  syncEnd : ℤ
  mmap : Except ℕ ℕ

def LockAnswers.kernel (k : LockAnswers) (pageSize : ℤ) : Mapper.Kernel where
  syncStart := k.syncStart
  syncEnd := k.syncEnd
  mmap _ := k.mmap
  pageSize := pageSize

/-- The memory that was mapped on the way, if some was. -/
def mapped (h : Handle) (l : LocalFields) (base : Option ℕ) : Process :=
  match l.base, base with
  | none, some address => p.mmap h.fds.shareFd (h.baseBytes pageSize) address
  | _, _ => p

/-- **A lock.** -/
def lock (a : ℕ) (k : LockAnswers) (usage : Usage) (region : ARect) :
    Except MapperError (Option ℕ) × Process :=
  match p.handles a with
  | none => (.error .badBuffer, p)
  | some h =>
    match h.castImported with
    | none => (.error .badBuffer, p)
    | some l =>
      let r := lockBuffer (k.kernel pageSize) (h.toImportedHandle l) p.pid usage region
      (r.1, (mapped p pageSize h l r.2.1.base).put a (some (h.after l r.2.1)))

/-- **An unlock.** -/
def unlock (a : ℕ) (k : LockAnswers) : Except MapperError Unit × Process :=
  match p.handles a with
  | none => (.error .badBuffer, p)
  | some h =>
    match h.castImported with
    | none => (.error .badBuffer, p)
    | some l =>
      let r := unlockBuffer (k.kernel pageSize) (h.toImportedHandle l)
      (r.1, p.put a (some (h.after l r.2.1)))

/-- Flushing a buffer, or reading it again: the caches are synchronised, with any result. -/
def syncLockedBuffer (a : ℕ) (sync : Sync) : Except MapperError (List Sync) :=
  match p.handles a with
  | none => .error .badBuffer
  | some h =>
    match h.castImported with
    | none => .error .badBuffer
    | some l => if l.lockCount = 0 then .error .badBuffer else .ok [sync]

def flushLockedBuffer (a : ℕ) : Except MapperError (List Sync) :=
  syncLockedBuffer p a (.finish false true)

def rereadLockedBuffer (a : ℕ) : Except MapperError (List Sync) :=
  syncLockedBuffer p a (.start true false)

end

/-! ### The fields of an imported handle -/

/-- The fields of a process in the words of a handle. -/
def localFields (l : HandleLayout) (w : Words) : LocalFields where
  lockCount := l.getLockCount w
  invalidWriteLocks := l.getInvalidWriteLocks w
  cpuWrite := w l.cpuWrite != 0#32
  importPid := (w l.importPid).toInt
  base := if w.ptr l.base = 0#64 then none else some (w.ptr l.base).toNat
  attrBase := if w.ptr l.attrBase = -1 then none else some (w.ptr l.attrBase).toNat

/-- **The block that an import makes** has these fields: the counter and the flag are what was in
the block, and the metadata is mapped. -/
theorem localFields_importBuffer {l : HandleLayout} {env : ImportEnv} {raw h : NativeHandle}
    {mem : Words} {address : BitVec 64} (hmem : env.create = some mem)
    (hmmap : env.mmap = some address) (haddress : address ≠ -1)
    (hi : Mapper.importBuffer l env raw = .ok h) :
    localFields l h.data =
      { lockCount := (received l raw mem l.lockCount).toInt
        invalidWriteLocks := (received l raw mem l.invalidWriteLocks).setWidth 8 != 0#8
        cpuWrite := false
        importPid := env.pid.toInt
        base := none
        attrBase := some address.toNat } := by
  obtain ⟨address', hsome, hattr, hpid, hbase, hwrite, -⟩ := importBuffer_data hmem hi
  obtain rfl : address = address' := Option.some.inj (hmmap.symm.trans hsome)
  obtain ⟨hcount, hflag⟩ := importBuffer_received hmem hi
  rw [localFields, hattr, hpid, hbase, hwrite, if_pos rfl, if_neg haddress,
    HandleLayout.getLockCount, HandleLayout.getInvalidWriteLocks, hcount, hflag]
  rfl

end Sharing

end Gralloc
