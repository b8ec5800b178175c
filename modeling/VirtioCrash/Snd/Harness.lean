import VirtioCrash.Harness.Confined

/-!
# The virtio-snd harness

`proto_fuzz_virtio_snd.cc`: typed control requests, whose payload is packed from the message and
prefixed with its code, and PCM transfers on the TX and RX queues.
-/

namespace VirtioCrash.Snd

open StateProgram Bytes

abbrev kMaxQueues : Nat := 8

abbrev SndM := Harness kMaxQueues (Synth Unit)

def resetExt : Synth Unit where
  synthBufId := 0x80000000
  device := ()

/-- `synth_buf_id` as it is constructed: the struct gives it no initial value. -/
def constructedExt : Synth Unit where
  synthBufId := 0
  device := ()

def resetIterationState : SndM Unit := do
  resetCommon
  modifyExt fun _ => resetExt

structure SndJackInfo where
  startId : UInt32
  count : UInt32

structure SndJackRemap where
  jackId : UInt32
  association : UInt32
  sequence : UInt32

structure SndPcmInfo where
  startId : UInt32
  count : UInt32

structure SndPcmSetParams where
  streamId : UInt32
  bufferBytes : UInt32
  periodBytes : UInt32
  features : UInt32
  channels : UInt32
  format : UInt32
  rate : UInt32

structure SndPcmCmd where
  streamId : UInt32

structure SndChmapInfo where
  startId : UInt32
  count : UInt32

structure SndCtrlRaw where
  code : UInt32
  payload : List UInt8
  inLen : UInt32

inductive SndCmd where
  | jackInfo (m : SndJackInfo)
  | jackRemap (m : SndJackRemap)
  | pcmInfo (m : SndPcmInfo)
  | pcmSetParams (m : SndPcmSetParams)
  | pcmPrepare (m : SndPcmCmd)
  | pcmRelease (m : SndPcmCmd)
  | pcmStart (m : SndPcmCmd)
  | pcmStop (m : SndPcmCmd)
  | chmapInfo (m : SndChmapInfo)
  | raw (m : SndCtrlRaw)
  | cmdNotSet

structure SndCtrl where
  vqIdx : UInt32
  cmd : SndCmd

structure SndPcmXfer where
  vqIdx : UInt32
  streamId : UInt32
  samples : List UInt8
  inLen : UInt32

inductive VirtioOp where
  | common (op : CommonOp)
  | sndCtrl (c : SndCtrl)
  | sndPcmXfer (x : SndPcmXfer)

def virtioSndRJackInfo : UInt32 := 0x0001
def virtioSndRJackRemap : UInt32 := 0x0002
def virtioSndRPcmInfo : UInt32 := 0x0100
def virtioSndRPcmSetParams : UInt32 := 0x0101
def virtioSndRPcmPrepare : UInt32 := 0x0102
def virtioSndRPcmRelease : UInt32 := 0x0103
def virtioSndRPcmStart : UInt32 := 0x0104
def virtioSndRPcmStop : UInt32 := 0x0105
def virtioSndRChmapInfo : UInt32 := 0x0200

/-- An out and an in buffer, staged and placed as one chain on `vq`. -/
def submitBufs (vq : Fin kMaxQueues) (out inBuf : List UInt8) : SndM Unit := do
  let outId ← allocBuf out (UInt32.ofNat out.length)
  if outId = 0 then return
  let inId ← allocBuf inBuf (UInt32.ofNat inBuf.length)
  if inId = 0 then return
  let _ ← placeBuf vq outId false true
  let _ ← placeBuf vq inId true false
  notify vq

/-- The length of the in buffer of a control request. -/
def ctrlInLen (inLen : UInt32) : UInt32 :=
  let inLen := if inLen < 16 then 16 else inLen
  if inLen > 4096 then 4096 else inLen

def submitCtrl (vq : Fin kMaxQueues) (code : UInt32) (payload : List UInt8) (inLen : UInt32) :
    SndM Unit := do
  let s ← getState
  if (s.vqs vq).size = 0 then return
  if (s.vqs vq).nextDescIdx + 3 ≥ (s.vqs vq).size then return
  submitBufs vq (le32 code ++ payload) (List.replicate (ctrlInLen inLen).toNat 0)

/-- The arguments `submit_snd_ctrl` calls `submit_ctrl` with. -/
structure CtrlCall where
  code : UInt32
  payload : List UInt8
  inLen : UInt32

def ctrlJackInfo (m : SndJackInfo) : CtrlCall where
  code := virtioSndRJackInfo
  payload := le32 m.startId ++ le32 m.count ++ le32 0
  inLen := 256 + 32 * m.count

def ctrlJackRemap (m : SndJackRemap) : CtrlCall where
  code := virtioSndRJackRemap
  payload := le32 0 ++ le32 m.jackId ++ le32 m.association ++ le32 m.sequence
  inLen := 4

def ctrlPcmInfo (m : SndPcmInfo) : CtrlCall where
  code := virtioSndRPcmInfo
  payload := le32 m.startId ++ le32 m.count ++ le32 0
  inLen := 256 + 64 * m.count

def ctrlPcmSetParams (m : SndPcmSetParams) : CtrlCall where
  code := virtioSndRPcmSetParams
  payload := le32 0 ++ le32 m.streamId ++ le32 m.bufferBytes ++ le32 m.periodBytes ++
    le32 m.features ++
    [(m.channels &&& 0xff).toUInt8, (m.format &&& 0xff).toUInt8, (m.rate &&& 0xff).toUInt8, 0]
  inLen := 4

/-- PREPARE, RELEASE, START and STOP differ in the code. -/
def ctrlPcmCmd (code : UInt32) (m : SndPcmCmd) : CtrlCall where
  code := code
  payload := le32 0 ++ le32 m.streamId
  inLen := 4

def ctrlChmapInfo (m : SndChmapInfo) : CtrlCall where
  code := virtioSndRChmapInfo
  payload := le32 m.startId ++ le32 m.count ++ le32 0
  inLen := 256 + 64 * m.count

def ctrlRaw (m : SndCtrlRaw) : CtrlCall where
  code := m.code
  payload := m.payload.take 4096
  inLen := if m.inLen ≠ 0 then m.inLen else 256

/-- The switch of `submit_snd_ctrl`. -/
def ctrlCall : SndCmd → Option CtrlCall
  | .jackInfo m => some (ctrlJackInfo m)
  | .jackRemap m => some (ctrlJackRemap m)
  | .pcmInfo m => some (ctrlPcmInfo m)
  | .pcmSetParams m => some (ctrlPcmSetParams m)
  | .pcmPrepare m => some (ctrlPcmCmd virtioSndRPcmPrepare m)
  | .pcmRelease m => some (ctrlPcmCmd virtioSndRPcmRelease m)
  | .pcmStart m => some (ctrlPcmCmd virtioSndRPcmStart m)
  | .pcmStop m => some (ctrlPcmCmd virtioSndRPcmStop m)
  | .chmapInfo m => some (ctrlChmapInfo m)
  | .raw m => some (ctrlRaw m)
  | .cmdNotSet => none

/-- Whatever queue the message names, its request goes to the control queue. -/
def ctrlVq (vqIdx : UInt32) : Fin kMaxQueues :=
  let vq := Fin.ofNat kMaxQueues vqIdx.toNat
  if vq ≠ 0 then 0 else vq

def submitSndCtrl (c : SndCtrl) : SndM Unit :=
  match ctrlCall c.cmd with
  | some call => submitCtrl (ctrlVq c.vqIdx) call.code call.payload call.inLen
  | none => pure ()

/-- TX (queue 2) unless the message names RX (queue 3). -/
def xferVq (vqIdx : UInt32) : Fin kMaxQueues :=
  let vq := Fin.ofNat kMaxQueues vqIdx.toNat
  if vq ≠ 2 ∧ vq ≠ 3 then 2 else vq

/-- The length of the in buffer of an RX transfer. -/
def xferInLen (inLen : UInt32) : UInt32 :=
  let inLen := if inLen ≠ 0 then inLen else 1024
  let inLen := if inLen > 4096 then 4096 else inLen
  if inLen < 28 then 28 else inLen

def submitPcmXfer (x : SndPcmXfer) : SndM Unit := do
  let vq := xferVq x.vqIdx
  let s ← getState
  if (s.vqs vq).size = 0 then return
  if (s.vqs vq).nextDescIdx + 4 ≥ (s.vqs vq).size then return
  if vq = 2 then
    submitBufs vq (le32 x.streamId ++ x.samples.take 4096) (List.replicate 28 0)
  else
    submitBufs vq (le32 x.streamId) (List.replicate (xferInLen x.inLen).toNat 0)

/-- The target of a descriptor: as in the other harnesses, but never of length 0. -/
def descTarget : TargetRule := fun bufs bufId len exoticRegion =>
  if exoticRegion ≠ 0 then some (exoticAddr bufId exoticRegion, max (min len 4) 1)
  else (bufs bufId).map fun buf =>
    let dlen := min len buf.len
    (buf.gpa, if dlen = 0 then 1 else dlen)

def opVqKick (vqIdx : UInt32) : SndM Unit := mmioWritel rQueueNotify vqIdx

def opVqWaitUsed (_vqIdx : UInt32) : SndM Unit := flushEvents

/-- Whatever size the message names, a word is written. -/
def opMmioCorrupt (offset value _size : UInt32) : SndM Unit :=
  mmioWritel (offset &&& 0x1ff).toUInt64 value

def handlers : Handlers kMaxQueues (Synth Unit) where
  configRead := opConfigReadWord
  guestMemWrite := opGuestMemWrite
  vqAddDesc := addDescWith descTarget
  vqKick := opVqKick
  vqWaitUsed := opVqWaitUsed
  resetIterationState := resetIterationState
  mmioCorrupt := opMmioCorrupt

def dispatch : VirtioOp → SndM Unit
  | .common op => dispatchCommon handlers op
  | .sndCtrl c => submitSndCtrl c
  | .sndPcmXfer x => submitPcmXfer x

/-- `proto_fuzz_virtio_snd`. -/
def target : Target kMaxQueues (Synth Unit) VirtioOp where
  dispatch := dispatch
  resetIterationState := resetIterationState
  ext := constructedExt

/-- `submitBufs` behind the staging of the out buffer. -/
def afterOut (vq : Fin kMaxQueues) (inBuf : List UInt8) (outId : UInt32) : SndM Unit := do
  if outId = 0 then return
  let inId ← allocBuf inBuf (UInt32.ofNat inBuf.length)
  if inId = 0 then return
  let _ ← placeBuf vq outId false true
  let _ ← placeBuf vq inId true false
  notify vq

theorem submits_afterOut (vq : Fin kMaxQueues) (inBuf : List UInt8) (outId : UInt32) :
    Submits typedActs vq (afterOut vq inBuf outId) :=
  submits_afterReq vq inBuf _ outId

private theorem submits_submitBufs (vq : Fin kMaxQueues) (out inBuf : List UInt8) :
    Submits typedActs vq (submitBufs vq out inBuf) :=
  submits_reqResp vq out inBuf _ _

private theorem within_submitCtrl (vq : Fin kMaxQueues) (code : UInt32) (payload : List UInt8)
    (inLen : UInt32) : Within (Steps typedActs) (submitCtrl vq code payload inLen) := by
  apply within_ifSetUp
  intro s
  exact WithinFrom.ite (Within.pure _).from (submits_submitBufs _ _ _)

private theorem within_submitSndCtrl (c : SndCtrl) :
    Within (Steps typedActs) (submitSndCtrl c) := by
  rw [submitSndCtrl]
  cases ctrlCall c.cmd with
  | some call => exact within_submitCtrl _ _ _ _
  | none => exact Within.pure ()

private theorem within_submitPcmXfer (x : SndPcmXfer) :
    Within (Steps typedActs) (submitPcmXfer x) := by
  apply within_ifSetUp
  intro s
  exact WithinFrom.ite (Within.pure _).from
    (WithinFrom.ite (submits_submitBufs _ _ _) (submits_submitBufs _ _ _))

private theorem handlers_sound : handlers.Sound where
  configRead := within_opConfigReadWord (by decide)
  guestMemWrite := within_opGuestMemWrite (by decide) (by decide) (by decide)
  vqAddDesc := within_addDescWith (by decide) descTarget
  vqKick _ := within_mmioWritel (by decide) _ _
  vqWaitUsed _ := within_flushEvents (by decide)
  mmioCorrupt _ _ _ := within_mmioWritel (by decide) _ _

def asCommon : VirtioOp → Option CommonOp
  | .common op => some op
  | _ => none

theorem resetIterationState_run (w : World kMaxQueues (Synth Unit)) :
    resetIterationState.run w = ((), w.afterReset.setExt fun _ => resetExt) := by
  rw [resetIterationState, StateT.run_bind, resetCommon_run]
  rfl

theorem confined : target.Confined asCommon := by
  apply Target.confined_of_handlers handlers_sound _ rfl
  · intro op c hop
    cases op with
    | common op => cases hop; rfl
    | _ => cases hop
  · intro op hop
    cases op with
    | common op => cases hop
    | sndCtrl c => exact within_submitSndCtrl c
    | sndPcmXfer x => exact within_submitPcmXfer x
  · exact fun w => ⟨fun _ => resetExt, congrArg Prod.snd (resetIterationState_run w)⟩

end VirtioCrash.Snd
