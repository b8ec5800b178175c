import VirtioCrash.Harness.Plain

/-!
# The virtio-balloon harness

`proto_fuzz_virtio_balloon.cc`: page numbers for the inflate and the deflate queue, statistics and
free-page commands. A list from the message is packed record by record into one buffer.
-/

namespace VirtioCrash.Balloon

open StateProgram Bytes

abbrev kMaxQueues : Nat := 8

abbrev BalloonM := Harness kMaxQueues (Synth Unit)

/-- The extra field of `G` as it is constructed. -/
def constructedExt : Synth Unit := Plain.constructedExt

def resetIter : BalloonM Unit := Plain.resetIterationState

structure StatsEntry where
  tag : UInt32
  value : UInt64

inductive VirtioOp where
  | common (op : CommonOp)
  | inflate (pfns : List UInt32)
  | deflate (pfns : List UInt32)
  | stats (entries : List StatsEntry)
  | freePage (cmdId : UInt32)

/-- A buffer is never empty: in place of no record it has one of zeros. -/
def orZeros (size : Nat) (buf : List UInt8) : List UInt8 :=
  if buf.isEmpty then List.replicate size 0 else buf

/-- The buffer of `submit_pfn_list`. -/
def packPfns (pfns : List UInt32) : List UInt8 :=
  orZeros 4 ((pfns.take 1024).flatMap le32)

/-- A `virtio_balloon_stat`. -/
def packStat (e : StatsEntry) : List UInt8 := le16 e.tag.toUInt16 ++ le64 e.value

/-- The buffer of `submit_stats`. -/
def packStats (entries : List StatsEntry) : List UInt8 :=
  orZeros 10 ((entries.take 64).flatMap packStat)

/-- What the three submissions do with their buffer: it is one descriptor for the device. -/
def submitBuf (vq : Fin kMaxQueues) (buf : List UInt8) : BalloonM Unit := do
  let s ← getState
  if (s.vqs vq).size = 0 then return
  if (s.vqs vq).nextDescIdx + 1 ≥ (s.vqs vq).size then return
  let id ← allocBuf buf (UInt32.ofNat buf.length)
  if id = 0 then return
  let _ ← placeBuf vq id false false
  notify vq

def submitPfnList (vq : Fin kMaxQueues) (pfns : List UInt32) : BalloonM Unit :=
  submitBuf vq (packPfns pfns)

def statsVq : Fin kMaxQueues := 2

def submitStats (entries : List StatsEntry) : BalloonM Unit :=
  submitBuf statsVq (packStats entries)

def fpVq : Fin kMaxQueues := 3

def submitFreePage (cmdId : UInt32) : BalloonM Unit :=
  submitBuf fpVq (le32 cmdId)

def dispatch : VirtioOp → BalloonM Unit
  | .common op => dispatchCommon Plain.handlers op
  | .inflate pfns => submitPfnList 0 pfns
  | .deflate pfns => submitPfnList 1 pfns
  | .stats entries => submitStats entries
  | .freePage cmdId => submitFreePage cmdId

/-- `proto-fuzz-virtio-balloon`. -/
def target : Target kMaxQueues (Synth Unit) VirtioOp where
  dispatch := dispatch
  resetIterationState := resetIter
  ext := constructedExt

private theorem within_submitBuf (vq : Fin kMaxQueues) (buf : List UInt8) :
    Within (Steps typedActs) (submitBuf vq buf) := by
  apply within_ifSetUp
  intro s
  exact WithinFrom.ite (Within.pure _).from (submits_lone _ _ _ _)

def asCommon : VirtioOp → Option CommonOp
  | .common op => some op
  | _ => none

theorem confined : target.Confined asCommon := by
  apply Plain.confined rfl
  · intro op c hop
    cases op with
    | common op => cases hop; rfl
    | _ => cases hop
  · intro op hop
    cases op with
    | common op => cases hop
    | inflate pfns => exact within_submitBuf 0 _
    | deflate pfns => exact within_submitBuf 1 _
    | stats entries => exact within_submitBuf statsVq _
    | freePage cmdId => exact within_submitBuf fpVq _

end VirtioCrash.Balloon
