import VirtioCrash.Harness.Plain

/-!
# The virtio-fs harness

`proto_fuzz_virtio_fs.cc` without its mock backend: typed FUSE requests, whose arguments are packed
behind an `in` header, on the request queues and on the high-priority queue.
-/

namespace VirtioCrash.Fs

open StateProgram Bytes

abbrev kMaxQueues : Nat := 8

abbrev FsM := Harness kMaxQueues (Synth Unit)

/-- The extra field of `GlobalState` as it is constructed. -/
def constructedExt : Synth Unit := Plain.constructedExt

def resetIterationState : FsM Unit := Plain.resetIterationState

structure FuseInit where
  major : UInt32
  minor : UInt32
  maxReadahead : UInt32
  flags : UInt32

structure FuseLookup where
  name : List UInt8

structure FuseGetattr where
  getattrFlags : UInt32
  fh : UInt64

structure FuseSetattr where
  valid : UInt32
  fh : UInt64
  size : UInt64
  lockOwner : UInt64
  atime : UInt64
  mtime : UInt64
  ctime : UInt64
  mode : UInt32
  uid : UInt32
  gid : UInt32

structure FuseOpen where
  flags : UInt32
  openFlags : UInt32

structure FuseRead where
  fh : UInt64
  offset : UInt64
  size : UInt32
  readFlags : UInt32
  lockOwner : UInt64
  flags : UInt32

structure FuseWrite where
  fh : UInt64
  offset : UInt64
  size : UInt32
  writeFlags : UInt32
  lockOwner : UInt64
  flags : UInt32
  data : List UInt8

structure FuseRelease where
  fh : UInt64
  flags : UInt32
  releaseFlags : UInt32
  lockOwner : UInt64

structure FuseMkdir where
  mode : UInt32
  umask : UInt32
  name : List UInt8

structure FuseUnlink where
  name : List UInt8

structure FuseRmdir where
  name : List UInt8

structure FuseFlush where
  fh : UInt64
  unused : UInt32
  padding : UInt32
  lockOwner : UInt64

structure FuseGetXattr where
  size : UInt32
  name : List UInt8

structure FuseSetXattr where
  flags : UInt32
  name : List UInt8
  value : List UInt8

structure FuseListXattr where
  size : UInt32

structure FuseRemoveXattr where
  name : List UInt8

structure FuseIoctl where
  fh : UInt64
  flags : UInt32
  cmd : UInt32
  arg : UInt64
  inSize : UInt32
  outSize : UInt32
  inData : List UInt8

structure FuseRaw where
  opcode : UInt32
  payload : List UInt8

/-- The cases of `op` in a `FuseRequest`. -/
inductive FuseOp where
  | kInit (m : FuseInit)
  | kLookup (m : FuseLookup)
  | kGetattr (m : FuseGetattr)
  | kSetattr (m : FuseSetattr)
  | kOpen (m : FuseOpen)
  | kRead (m : FuseRead)
  | kWrite (m : FuseWrite)
  | kRelease (m : FuseRelease)
  | kMkdir (m : FuseMkdir)
  | kUnlink (m : FuseUnlink)
  | kRmdir (m : FuseRmdir)
  | kFlush (m : FuseFlush)
  | kGetxattr (m : FuseGetXattr)
  | kSetxattr (m : FuseSetXattr)
  | kListxattr (m : FuseListXattr)
  | kRemovexattr (m : FuseRemoveXattr)
  | kIoctl (m : FuseIoctl)
  | kRaw (m : FuseRaw)
  | opNotSet

structure FuseRequest where
  vqIdx : UInt32
  unique : UInt64
  nodeid : UInt64
  uid : UInt32
  gid : UInt32
  pid : UInt32
  inBufSize : UInt32
  op : FuseOp

structure FuseHpReq where
  opcode : UInt32
  unique : UInt64
  nodeid : UInt64
  payload : List UInt8

inductive VirtioOp where
  | common (op : CommonOp)
  | fuseRequest (r : FuseRequest)
  | fuseHpReq (m : FuseHpReq)

def fuseLookup : UInt32 := 1
def fuseGetattr : UInt32 := 3
def fuseSetattr : UInt32 := 4
def fuseMkdir : UInt32 := 9
def fuseUnlink : UInt32 := 10
def fuseRmdir : UInt32 := 11
def fuseOpen : UInt32 := 14
def fuseRead : UInt32 := 15
def fuseWrite : UInt32 := 16
def fuseRelease : UInt32 := 18
def fuseSetxattr : UInt32 := 21
def fuseGetxattr : UInt32 := 22
def fuseListxattr : UInt32 := 23
def fuseRemovexattr : UInt32 := 24
def fuseFlush : UInt32 := 25
def fuseInit : UInt32 := 26
def fuseIoctl : UInt32 := 39

/-- `fuse_in_header` -/
def buildInHeader (opcode : UInt32) (unique nodeid : UInt64) (uid gid pid totalLen : UInt32) :
    List UInt8 :=
  le32 totalLen ++ le32 opcode ++ le64 unique ++ le64 nodeid ++ le32 uid ++ le32 gid ++ le32 pid ++
    le32 0

/-- What a name is appended as: no more than 256 bytes of it, and a NUL unless it ends in one. -/
def nameTail (name : List UInt8) : List UInt8 :=
  let n := min name.length 256
  name.take n ++ if n = 0 ∨ name[n - 1]? ≠ some 0 then [0] else []

/-- What data is appended as. -/
def dataTail (data : List UInt8) : List UInt8 := data.take (min data.length 4096)

/-- The opcode of a request and what is appended to its header. -/
structure FuseArgs where
  opcode : UInt32
  bytes : List UInt8

/-- LOOKUP, UNLINK, RMDIR and REMOVEXATTR differ in the opcode. -/
def packName (opcode : UInt32) (name : List UInt8) : FuseArgs where
  opcode := opcode
  bytes := nameTail name

def packInit (m : FuseInit) : FuseArgs where
  opcode := fuseInit
  bytes := le32 m.major ++ le32 m.minor ++ le32 m.maxReadahead ++ le32 m.flags

def packLookup (m : FuseLookup) : FuseArgs := packName fuseLookup m.name

def packGetattr (m : FuseGetattr) : FuseArgs where
  opcode := fuseGetattr
  bytes := le32 m.getattrFlags ++ le32 0 ++ le64 m.fh

def packSetattr (m : FuseSetattr) : FuseArgs where
  opcode := fuseSetattr
  bytes := le32 m.valid ++ le32 0 ++ le64 m.fh ++ le64 m.size ++ le64 m.lockOwner ++
    le64 m.atime ++ le64 m.mtime ++ le64 m.ctime ++
    le32 0 ++ le32 0 ++ le32 0 ++ le32 m.mode ++ le32 0 ++ le32 m.uid ++ le32 m.gid

def packOpen (m : FuseOpen) : FuseArgs where
  opcode := fuseOpen
  bytes := le32 m.flags ++ le32 m.openFlags

def packRead (m : FuseRead) : FuseArgs where
  opcode := fuseRead
  bytes := le64 m.fh ++ le64 m.offset ++ le32 m.size ++ le32 m.readFlags ++ le64 m.lockOwner ++
    le32 m.flags ++ le32 0

def packWrite (m : FuseWrite) : FuseArgs where
  opcode := fuseWrite
  bytes := le64 m.fh ++ le64 m.offset ++ le32 m.size ++ le32 m.writeFlags ++ le64 m.lockOwner ++
    le32 m.flags ++ le32 0 ++ dataTail m.data

def packRelease (m : FuseRelease) : FuseArgs where
  opcode := fuseRelease
  bytes := le64 m.fh ++ le32 m.flags ++ le32 m.releaseFlags ++ le64 m.lockOwner

def packMkdir (m : FuseMkdir) : FuseArgs where
  opcode := fuseMkdir
  bytes := le32 m.mode ++ le32 m.umask ++ nameTail m.name

def packUnlink (m : FuseUnlink) : FuseArgs := packName fuseUnlink m.name

def packRmdir (m : FuseRmdir) : FuseArgs := packName fuseRmdir m.name

def packFlush (m : FuseFlush) : FuseArgs where
  opcode := fuseFlush
  bytes := le64 m.fh ++ le32 m.unused ++ le32 m.padding ++ le64 m.lockOwner

def packGetxattr (m : FuseGetXattr) : FuseArgs where
  opcode := fuseGetxattr
  bytes := le32 m.size ++ le32 0 ++ nameTail m.name

def packSetxattr (m : FuseSetXattr) : FuseArgs where
  opcode := fuseSetxattr
  bytes :=
    let vlen := UInt32.ofNat (min m.value.length 4096)
    le32 vlen ++ le32 m.flags ++ nameTail m.name ++ m.value.take vlen.toNat

def packListxattr (m : FuseListXattr) : FuseArgs where
  opcode := fuseListxattr
  bytes := le32 m.size ++ le32 0

def packRemovexattr (m : FuseRemoveXattr) : FuseArgs := packName fuseRemovexattr m.name

def packIoctl (m : FuseIoctl) : FuseArgs where
  opcode := fuseIoctl
  bytes := le64 m.fh ++ le32 m.flags ++ le32 m.cmd ++ le64 m.arg ++ le32 m.inSize ++
    le32 m.outSize ++ dataTail m.inData

def packRaw (m : FuseRaw) : FuseArgs where
  opcode := m.opcode
  bytes := dataTail m.payload

/-- A request without an op is an INIT for version 7.38. -/
def packDefault : FuseArgs where
  opcode := fuseInit
  bytes := le32 7 ++ le32 38 ++ le32 0 ++ le32 0

/-- The switch of `submit_fuse`. -/
def packOp : FuseOp → FuseArgs
  | .kInit m => packInit m
  | .kLookup m => packLookup m
  | .kGetattr m => packGetattr m
  | .kSetattr m => packSetattr m
  | .kOpen m => packOpen m
  | .kRead m => packRead m
  | .kWrite m => packWrite m
  | .kRelease m => packRelease m
  | .kMkdir m => packMkdir m
  | .kUnlink m => packUnlink m
  | .kRmdir m => packRmdir m
  | .kFlush m => packFlush m
  | .kGetxattr m => packGetxattr m
  | .kSetxattr m => packSetxattr m
  | .kListxattr m => packListxattr m
  | .kRemovexattr m => packRemovexattr m
  | .kIoctl m => packIoctl m
  | .kRaw m => packRaw m
  | .opNotSet => packDefault

/-- The out buffer of a request: 40 bytes are reserved for the header, which is copied over them
once the total size is known. -/
def fuseOut (r : FuseRequest) : List UInt8 :=
  let args := packOp r.op
  let out := List.replicate 40 0 ++ args.bytes
  buildInHeader args.opcode r.unique r.nodeid r.uid r.gid r.pid (UInt32.ofNat out.length) ++
    out.drop 40

/-- The size of the response buffer. -/
def inLen (inBufSize : UInt32) : UInt32 :=
  let inLen := if inBufSize ≠ 0 then inBufSize else 1024
  let inLen := if inLen > 4096 then 4096 else inLen
  if inLen < 16 then 16 else inLen

/-- The queue of a request; the first two are no request queues. -/
def requestVq (vqIdx : UInt32) : Fin kMaxQueues :=
  let vq := Fin.ofNat kMaxQueues vqIdx.toNat
  if vq < 2 then 2 else vq

def submitFuse (r : FuseRequest) : FsM Unit := do
  let vq := requestVq r.vqIdx
  let s ← getState
  if (s.vqs vq).size = 0 then return
  if (s.vqs vq).nextDescIdx + 3 ≥ (s.vqs vq).size then return
  let inBuf := List.replicate (inLen r.inBufSize).toNat 0
  let outId ← allocBuf (fuseOut r) (UInt32.ofNat (fuseOut r).length)
  if outId = 0 then return
  let inId ← allocBuf inBuf (UInt32.ofNat inBuf.length)
  if inId = 0 then return
  let _ ← placeBuf vq outId false true
  let _ ← placeBuf vq inId true false
  notify vq

/-- The queue of FORGET, BATCH_FORGET and INTERRUPT. -/
def kHpVq : Fin kMaxQueues := 0

def fuseHpOut (m : FuseHpReq) : List UInt8 :=
  let out := List.replicate 40 0 ++ m.payload.take 256
  buildInHeader m.opcode m.unique m.nodeid 0 0 0 (UInt32.ofNat out.length) ++ out.drop 40

def submitFuseHp (m : FuseHpReq) : FsM Unit := do
  let s ← getState
  if (s.vqs kHpVq).size = 0 then return
  if (s.vqs kHpVq).nextDescIdx + 1 ≥ (s.vqs kHpVq).size then return
  let outId ← allocBuf (fuseHpOut m) (UInt32.ofNat (fuseHpOut m).length)
  if outId = 0 then return
  let _ ← placeBuf kHpVq outId false false
  notify kHpVq

def dispatch : VirtioOp → FsM Unit
  | .common op => dispatchCommon Plain.handlers op
  | .fuseRequest r => submitFuse r
  | .fuseHpReq m => submitFuseHp m

/-- `proto_fuzz_virtio_fs`. -/
def target : Target kMaxQueues (Synth Unit) VirtioOp where
  dispatch := dispatch
  resetIterationState := resetIterationState
  ext := constructedExt

private theorem within_submitFuse (r : FuseRequest) : Within (Steps typedActs) (submitFuse r) := by
  apply within_ifSetUp
  intro s
  exact WithinFrom.ite (Within.pure _).from (submits_reqResp _ _ _ _ _)

private theorem within_submitFuseHp (m : FuseHpReq) :
    Within (Steps typedActs) (submitFuseHp m) := by
  apply within_ifSetUp
  intro s
  exact WithinFrom.ite (Within.pure _).from (submits_lone _ _ _ _)

def asCommon : VirtioOp → Option CommonOp
  | .common op => some op
  | _ => none

theorem confined : target.Confined asCommon := by
  apply Plain.confined rfl
  · intro op c hop
    cases op with
    | common op => cases hop; rfl
    | _ => cases hop
  · intro op hop
    cases op with
    | common op => cases hop
    | fuseRequest r => exact within_submitFuse r
    | fuseHpReq m => exact within_submitFuseHp m

end VirtioCrash.Fs
