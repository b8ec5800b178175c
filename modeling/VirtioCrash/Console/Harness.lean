import VirtioCrash.Harness.Plain

/-!
# The virtio-console harness

`proto_fuzz_virtio_console.cc`: bytes and receive buffers for the ports of a virtio-serial device,
and control messages. Every port has a queue for each direction; the control queues lie between the
queues of port 0 and those of the others.
-/

namespace VirtioCrash.Console

open StateProgram Bytes

abbrev kMaxQueues : Nat := 16

abbrev ConsoleM := Harness kMaxQueues (Synth Unit)

/-- The extra field of `G` as it is constructed. -/
def constructedExt : Synth Unit := Plain.constructedExt

def resetIter : ConsoleM Unit := Plain.resetIterationState

structure TxData where
  portId : UInt32
  data : List UInt8

structure RxBuf where
  portId : UInt32
  size : UInt32

structure CtrlMsg where
  portId : UInt32
  event : UInt32
  value : UInt32
  data : List UInt8

inductive VirtioOp where
  | common (op : CommonOp)
  | txData (m : TxData)
  | rxBuf (m : RxBuf)
  | ctrlMsg (m : CtrlMsg)

def portTxVq (pid : UInt32) : UInt32 := if pid = 0 then 1 else 3 + 2 * pid

def portRxVq (pid : UInt32) : UInt32 := if pid = 0 then 0 else 2 + 2 * pid

def ctrlTxVq : Fin kMaxQueues := 3

/-- The port is taken modulo 16; the queues of the last ones are beyond the table. -/
def submitTx (m : TxData) : ConsoleM Unit := do
  let vq := portTxVq (m.portId &&& 0xf)
  if h : vq.toNat < kMaxQueues then
    Plain.submitBuf ⟨vq.toNat, h⟩ m.data (UInt32.ofNat (min m.data.length 4096)) false

def rxLen (size : UInt32) : UInt32 :=
  let sz := if size ≠ 0 then size else 1024
  if sz > 4096 then 4096 else sz

def submitRx (m : RxBuf) : ConsoleM Unit := do
  let vq := portRxVq (m.portId &&& 0xf)
  if h : vq.toNat < kMaxQueues then
    Plain.submitBuf ⟨vq.toNat, h⟩ (List.replicate (rxLen m.size).toNat 0) (rxLen m.size) true

/-- A `virtio_console_control` and no more than 256 bytes behind it. -/
def packCtrl (m : CtrlMsg) : List UInt8 :=
  le32 m.portId ++ le16 m.event.toUInt16 ++ le16 m.value.toUInt16 ++ m.data.take 256

def submitCtrl (m : CtrlMsg) : ConsoleM Unit :=
  Plain.submitBuf ctrlTxVq (packCtrl m) (UInt32.ofNat (packCtrl m).length) false

def dispatch : VirtioOp → ConsoleM Unit
  | .common op => dispatchCommon Plain.handlers op
  | .txData m => submitTx m
  | .rxBuf m => submitRx m
  | .ctrlMsg m => submitCtrl m

/-- `proto-fuzz-virtio-console`. -/
def target : Target kMaxQueues (Synth Unit) VirtioOp where
  dispatch := dispatch
  resetIterationState := resetIter
  ext := constructedExt

private theorem within_submitTx (m : TxData) : Within (Steps typedActs) (submitTx m) := by
  apply Within.dite
  · intro h
    exact Plain.within_submitBuf _ _ _ _
  · exact fun _ => Within.pure _

private theorem within_submitRx (m : RxBuf) : Within (Steps typedActs) (submitRx m) := by
  apply Within.dite
  · intro h
    exact Plain.within_submitBuf _ _ _ _
  · exact fun _ => Within.pure _

def asCommon : VirtioOp → Option CommonOp
  | .common op => some op
  | _ => none

theorem confined : target.Confined asCommon := by
  apply Plain.confined rfl
  · intro op c hop
    cases op with
    | common op => cases hop; rfl
    | _ => cases hop
  · intro op hop
    cases op with
    | common op => cases hop
    | txData m => exact within_submitTx m
    | rxBuf m => exact within_submitRx m
    | ctrlMsg m => exact Plain.within_submitBuf _ _ _ _

end VirtioCrash.Console
