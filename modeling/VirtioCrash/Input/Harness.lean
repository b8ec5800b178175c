import VirtioCrash.Harness.Plain

/-!
# The virtio-input harness

`proto_fuzz_virtio_input.cc`: status events for a virtio-keyboard device, and empty buffers for the
events it sends.
-/

namespace VirtioCrash.Input

open StateProgram Bytes

abbrev kMaxQueues : Nat := 4

abbrev InputM := Harness kMaxQueues (Synth Unit)

/-- The extra field of `G` as it is constructed. -/
def constructedExt : Synth Unit := Plain.constructedExt

def resetIter : InputM Unit := Plain.resetIterationState

structure StatusEvent where
  type : UInt32
  code : UInt32
  value : UInt32

inductive VirtioOp where
  | common (op : CommonOp)
  | statusEvent (m : StatusEvent)
  | eventBuf (size : UInt32)

def statusVq : Fin kMaxQueues := 1

def eventVq : Fin kMaxQueues := 0

/-- A `virtio_input_event`. -/
def packStatus (m : StatusEvent) : List UInt8 :=
  le16 m.type.toUInt16 ++ le16 m.code.toUInt16 ++ le32 m.value

def submitStatus (m : StatusEvent) : InputM Unit :=
  Plain.submitBuf statusVq (packStatus m) 8 false

def eventLen (size : UInt32) : UInt32 :=
  let sz := if size ≠ 0 then size else 64
  let sz := if sz < 8 then 8 else sz
  if sz > 4096 then 4096 else sz

def submitEventBuf (size : UInt32) : InputM Unit :=
  Plain.submitBuf eventVq (List.replicate (eventLen size).toNat 0) (eventLen size) true

def dispatch : VirtioOp → InputM Unit
  | .common op => dispatchCommon Plain.handlers op
  | .statusEvent m => submitStatus m
  | .eventBuf size => submitEventBuf size

/-- `proto-fuzz-virtio-input`. -/
def target : Target kMaxQueues (Synth Unit) VirtioOp where
  dispatch := dispatch
  resetIterationState := resetIter
  ext := constructedExt

def asCommon : VirtioOp → Option CommonOp
  | .common op => some op
  | _ => none

theorem confined : target.Confined asCommon := by
  apply Plain.confined rfl
  · intro op c hop
    cases op with
    | common op => cases hop; rfl
    | _ => cases hop
  · intro op hop
    cases op with
    | common op => cases hop
    | statusEvent m => exact Plain.within_submitBuf _ _ _ _
    | eventBuf size => exact Plain.within_submitBuf _ _ _ _

end VirtioCrash.Input
