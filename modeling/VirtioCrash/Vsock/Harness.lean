import VirtioCrash.Harness.Plain

/-!
# The virtio-vsock harness

`proto_fuzz_virtio_vsock.cc`: packets for the device behind a header that is packed from the
message, and empty buffers for the packets it sends.
-/

namespace VirtioCrash.Vsock

open StateProgram Bytes

abbrev kMaxQueues : Nat := 8

abbrev VsockM := Harness kMaxQueues (Synth Unit)

/-- The extra field of `G` as it is constructed. -/
def constructedExt : Synth Unit := Plain.constructedExt

def resetIter : VsockM Unit := Plain.resetIterationState

structure VsockPacket where
  srcCid : UInt64
  dstCid : UInt64
  srcPort : UInt32
  dstPort : UInt32
  type : UInt32
  op : UInt32
  flags : UInt32
  bufAlloc : UInt32
  fwdCnt : UInt32
  payload : List UInt8

inductive VirtioOp where
  | common (op : CommonOp)
  | vsockTx (pkt : VsockPacket)
  | vsockRxBuf (size : UInt32)

/-- The queue of packets to the device. -/
def kTxVq : Fin kMaxQueues := 1

/-- The queue of packets from the device. -/
def kRxVq : Fin kMaxQueues := 0

/-- The header of a packet. Its length is that of the whole payload. -/
def packHdr (p : VsockPacket) : List UInt8 :=
  le64 p.srcCid ++ le64 p.dstCid ++ le32 p.srcPort ++ le32 p.dstPort ++
    le32 (UInt32.ofNat p.payload.length) ++ le16 p.type.toUInt16 ++ le16 p.op.toUInt16 ++
    le32 p.flags ++ le32 p.bufAlloc ++ le32 p.fwdCnt

/-- A packet: its header and no more than 4096 bytes of its payload. -/
def packPacket (p : VsockPacket) : List UInt8 := packHdr p ++ p.payload.take 4096

def submitTx (p : VsockPacket) : VsockM Unit := do
  let s ← getState
  if (s.vqs kTxVq).size = 0 then return
  if (s.vqs kTxVq).nextDescIdx + 1 ≥ (s.vqs kTxVq).size then return
  let id ← allocBuf (packPacket p) (UInt32.ofNat (packPacket p).length)
  if id = 0 then return
  let _ ← placeBuf kTxVq id false false
  notify kTxVq

/-- The size of a receive buffer: at least a header, at most a page. -/
def rxLen (size : UInt32) : UInt32 :=
  let sz := if size ≠ 0 then size else 1024
  let sz := if sz < 44 then 44 else sz
  if sz > 4096 then 4096 else sz

def submitRxBuf (size : UInt32) : VsockM Unit := do
  let s ← getState
  if (s.vqs kRxVq).size = 0 then return
  if (s.vqs kRxVq).nextDescIdx + 1 ≥ (s.vqs kRxVq).size then return
  let id ← allocBuf (List.replicate (rxLen size).toNat 0) (rxLen size)
  if id = 0 then return
  let _ ← placeBuf kRxVq id true false
  notify kRxVq

def dispatch : VirtioOp → VsockM Unit
  | .common op => dispatchCommon Plain.handlers op
  | .vsockTx pkt => submitTx pkt
  | .vsockRxBuf size => submitRxBuf size

/-- `proto-fuzz-virtio-vsock`. -/
def target : Target kMaxQueues (Synth Unit) VirtioOp where
  dispatch := dispatch
  resetIterationState := resetIter
  ext := constructedExt

private theorem within_submitTx (p : VsockPacket) : Within (Steps typedActs) (submitTx p) := by
  apply within_ifSetUp
  intro s
  exact WithinFrom.ite (Within.pure _).from (submits_lone _ _ _ _)

private theorem within_submitRxBuf (size : UInt32) :
    Within (Steps typedActs) (submitRxBuf size) := by
  apply within_ifSetUp
  intro s
  exact WithinFrom.ite (Within.pure _).from (submits_lone _ _ _ _)

def asCommon : VirtioOp → Option CommonOp
  | .common op => some op
  | _ => none

theorem confined : target.Confined asCommon := by
  apply Plain.confined rfl
  · intro op c hop
    cases op with
    | common op => cases hop; rfl
    | _ => cases hop
  · intro op hop
    cases op with
    | common op => cases hop
    | vsockTx pkt => exact within_submitTx pkt
    | vsockRxBuf size => exact within_submitRxBuf size

end VirtioCrash.Vsock
