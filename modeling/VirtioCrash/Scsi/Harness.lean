import VirtioCrash.Harness.Confined

/-!
# The virtio-scsi harness

`proto_fuzz_virtio_scsi.cc`: typed SCSI commands packed into CDBs and submitted on a request queue,
and task management and notification requests on the control queue.
-/

namespace VirtioCrash.Scsi

open StateProgram Bytes

abbrev kMaxQueues : Nat := 8

abbrev ScsiM := Harness kMaxQueues (Synth Unit)

def resetExt : Synth Unit where
  synthBufId := 0x80000000
  device := ()

/-- `synth_buf_id` as it is constructed: the struct gives it no initial value. -/
def constructedExt : Synth Unit where
  synthBufId := 0
  device := ()

def resetIterationState : ScsiM Unit := do
  resetCommon
  modifyExt fun _ => resetExt

structure CdbInquiry where
  evpd : Bool
  pageCode : UInt32
  allocLen : UInt32

structure CdbReadCapacity10 where
  lba : UInt32
  pmi : Bool

structure CdbReadCapacity16 where
  lba : UInt64
  allocLen : UInt32
  pmi : Bool

/-- READ (10) and the fields of WRITE (10) without its data. -/
structure CdbRead10 where
  dpo : Bool
  fua : Bool
  lba : UInt32
  transferLen : UInt32
  group : UInt32

structure CdbRead16 where
  dpo : Bool
  fua : Bool
  lba : UInt64
  transferLen : UInt32
  group : UInt32

structure CdbModeSense6 where
  dbd : Bool
  pc : UInt32
  pageCode : UInt32
  subpage : UInt32
  allocLen : UInt32

structure CdbModeSelect6 where
  pf : Bool
  sp : Bool
  paramLen : UInt32
  parameters : List UInt8

structure CdbRequestSense where
  desc : Bool
  allocLen : UInt32

structure CdbReportLuns where
  selectReport : UInt32
  allocLen : UInt32

structure CdbStartStopUnit where
  immed : Bool
  power : UInt32
  loej : Bool
  start : Bool

structure CdbSynchronizeCache10 where
  immed : Bool
  lba : UInt32
  numBlocks : UInt32

structure CdbRaw where
  cdbBytes : List UInt8
  outData : List UInt8
  inLen : UInt32

inductive Cdb where
  | inquiry (m : CdbInquiry)
  | testUnitReady
  | readCapacity10 (m : CdbReadCapacity10)
  | readCapacity16 (m : CdbReadCapacity16)
  | read10 (m : CdbRead10)
  | write10 (m : CdbRead10) (data : List UInt8)
  | read16 (m : CdbRead16)
  | write16 (m : CdbRead16) (data : List UInt8)
  | modeSense6 (m : CdbModeSense6)
  | modeSelect6 (m : CdbModeSelect6)
  | requestSense (m : CdbRequestSense)
  | reportLuns (m : CdbReportLuns)
  | startStopUnit (m : CdbStartStopUnit)
  | syncCache10 (m : CdbSynchronizeCache10)
  | raw (m : CdbRaw)
  | cdbNotSet

structure ScsiCmd where
  vqIdx : UInt32
  target : UInt32
  lun : UInt32
  tag : UInt64
  taskAttr : UInt32
  prio : UInt32
  crn : UInt32
  cdb : Cdb

structure TmfReq where
  subtype : UInt32
  target : UInt32
  lun : UInt32
  tag : UInt64

structure AnReq where
  subtype : UInt32
  target : UInt32
  lun : UInt32
  eventRequested : UInt32

inductive VirtioOp where
  | common (op : CommonOp)
  | scsiCmd (c : ScsiCmd)
  | tmfReq (m : TmfReq)
  | anReq (m : AnReq)

def kCdbSize : Nat := 32
def kSenseSize : Nat := 96

def packBe32 (v : UInt32) : List UInt8 :=
  [(v >>> 24).toUInt8, (v >>> 16).toUInt8, (v >>> 8).toUInt8, v.toUInt8]

def packBe16 (v : UInt16) : List UInt8 := [(v >>> 8).toUInt8, v.toUInt8]

def packBe64 (v : UInt64) : List UInt8 :=
  packBe32 (v >>> 32).toUInt32 ++ packBe32 v.toUInt32

/-- What a `pack_*` function stores from the start of the CDB, and the lengths it returns. -/
structure PackedCdb where
  bytes : List UInt8
  inLen : UInt32
  outLen : UInt32

def flag (b : Bool) (v : UInt8) : UInt8 := if b then v else 0

def packInquiry (m : CdbInquiry) : PackedCdb where
  bytes := [0x12, flag m.evpd 1, m.pageCode.toUInt8] ++ packBe16 m.allocLen.toUInt16 ++ [0]
  inLen := m.allocLen &&& 0xffff
  outLen := 0

def packTestUnitReady : PackedCdb where
  bytes := [0x00]
  inLen := 0
  outLen := 0

def packReadCapacity10 (m : CdbReadCapacity10) : PackedCdb where
  bytes := [0x25, 0] ++ packBe32 m.lba ++ [0, 0, flag m.pmi 1]
  inLen := 8
  outLen := 0

def packReadCapacity16 (m : CdbReadCapacity16) : PackedCdb where
  bytes := [0x9e, 0x10] ++ packBe64 m.lba ++ packBe32 m.allocLen ++ [flag m.pmi 1]
  inLen := m.allocLen
  outLen := 0

/-- READ (10) and WRITE (10) differ in the opcode. -/
def rw10Bytes (opcode : UInt8) (m : CdbRead10) : List UInt8 :=
  [opcode, flag m.dpo 0x10 ||| flag m.fua 0x08] ++ packBe32 m.lba ++
    [(m.group &&& 0x1f).toUInt8] ++ packBe16 m.transferLen.toUInt16 ++ [0]

def packRead10 (m : CdbRead10) : PackedCdb where
  bytes := rw10Bytes 0x28 m
  inLen := (m.transferLen &&& 0xffff) * 512
  outLen := 0

def packWrite10 (m : CdbRead10) : PackedCdb where
  bytes := rw10Bytes 0x2a m
  inLen := 0
  outLen := (m.transferLen &&& 0xffff) * 512

/-- READ (16) and WRITE (16) differ in the opcode. -/
def rw16Bytes (opcode : UInt8) (m : CdbRead16) : List UInt8 :=
  [opcode, flag m.dpo 0x10 ||| flag m.fua 0x08] ++ packBe64 m.lba ++ packBe32 m.transferLen ++
    [(m.group &&& 0x1f).toUInt8, 0]

def packRead16 (m : CdbRead16) : PackedCdb where
  bytes := rw16Bytes 0x88 m
  inLen := m.transferLen * 512
  outLen := 0

def packWrite16 (m : CdbRead16) : PackedCdb where
  bytes := rw16Bytes 0x8a m
  inLen := 0
  outLen := m.transferLen * 512

def packModeSense6 (m : CdbModeSense6) : PackedCdb where
  bytes := [0x1a, flag m.dbd 0x08, (((m.pc &&& 0x3) <<< 6) ||| (m.pageCode &&& 0x3f)).toUInt8,
    m.subpage.toUInt8, m.allocLen.toUInt8, 0]
  inLen := m.allocLen &&& 0xff
  outLen := 0

def packModeSelect6 (m : CdbModeSelect6) : PackedCdb where
  bytes := [0x15, flag m.pf 0x10 ||| flag m.sp 0x01, 0, 0, m.paramLen.toUInt8, 0]
  inLen := 0
  outLen := m.paramLen &&& 0xff

def packRequestSense (m : CdbRequestSense) : PackedCdb where
  bytes := [0x03, flag m.desc 1, 0, 0, m.allocLen.toUInt8, 0]
  inLen := m.allocLen &&& 0xff
  outLen := 0

def packReportLuns (m : CdbReportLuns) : PackedCdb where
  bytes := [0xa0, 0, m.selectReport.toUInt8, 0, 0, 0] ++ packBe32 m.allocLen ++ [0, 0]
  inLen := m.allocLen
  outLen := 0

def packStartStopUnit (m : CdbStartStopUnit) : PackedCdb where
  bytes := [0x1b, flag m.immed 1, 0, 0,
    ((m.power &&& 0xf) <<< 4).toUInt8 ||| flag m.loej 0x02 ||| flag m.start 0x01, 0]
  inLen := 0
  outLen := 0

def packSyncCache10 (m : CdbSynchronizeCache10) : PackedCdb where
  bytes :=
    [0x35, flag m.immed 0x02] ++ packBe32 m.lba ++ [0] ++ packBe16 m.numBlocks.toUInt16 ++ [0]
  inLen := 0
  outLen := 0

def packRaw (m : CdbRaw) : PackedCdb where
  bytes := m.cdbBytes.take kCdbSize
  inLen := min m.inLen 4096
  outLen := UInt32.ofNat (min m.outData.length 4096)

/-- The switch of `submit_scsi_cmd`; without a CDB it sends TEST UNIT READY. -/
def packCdb : Cdb → PackedCdb
  | .inquiry m => packInquiry m
  | .testUnitReady => packTestUnitReady
  | .readCapacity10 m => packReadCapacity10 m
  | .readCapacity16 m => packReadCapacity16 m
  | .read10 m => packRead10 m
  | .write10 m _ => packWrite10 m
  | .read16 m => packRead16 m
  | .write16 m _ => packWrite16 m
  | .modeSense6 m => packModeSense6 m
  | .modeSelect6 m => packModeSelect6 m
  | .requestSense m => packRequestSense m
  | .reportLuns m => packReportLuns m
  | .startStopUnit m => packStartStopUnit m
  | .syncCache10 m => packSyncCache10 m
  | .raw m => packRaw m
  | .cdbNotSet => packTestUnitReady

/-- The bytes that go out with a WRITE-class CDB. -/
def outDataOf : Cdb → List UInt8
  | .write10 _ data => data
  | .write16 _ data => data
  | .modeSelect6 m => m.parameters
  | .raw m => m.outData
  | _ => []

/-- The `kCdbSize` bytes of the CDB: the request is zeroed before it is packed. -/
def cdbBytes (cdb : Cdb) : List UInt8 :=
  let bytes := (packCdb cdb).bytes
  bytes ++ List.replicate (kCdbSize - bytes.length) 0

def encodeLun (target lun : UInt32) : List UInt8 :=
  [1, target.toUInt8, 0x40 ||| (lun &&& 0x3f).toUInt8, (lun >>> 8).toUInt8, 0, 0, 0, 0]

/-- The request of `submit_scsi_cmd`: LUN, tag, three attributes, a reserved byte and the CDB. -/
def scsiReq (c : ScsiCmd) : List UInt8 :=
  encodeLun c.target c.lun ++ le64 c.tag ++
    [(c.taskAttr &&& 0x07).toUInt8, c.prio.toUInt8, c.crn.toUInt8, 0] ++ cdbBytes c.cdb

/-- The out data brought to `out_len` bytes with zeros when there is less. -/
def paddedOut (outData : List UInt8) (outLen : UInt32) : List UInt8 :=
  let n := min outData.length outLen.toNat
  if n < outLen.toNat then outData.take n ++ List.replicate (outLen.toNat - n) 0 else outData

/-- The data lengths of a command are capped: a message can ask for giant transfers. -/
def capLen (len : UInt32) : UInt32 := if len > 4096 then 4096 else len

def submitScsiCmd (c : ScsiCmd) : ScsiM Unit := do
  let vq := Fin.ofNat kMaxQueues c.vqIdx.toNat
  let s ← getState
  if (s.vqs vq).size = 0 then return
  if (s.vqs vq).nextDescIdx + 5 ≥ (s.vqs vq).size then return
  let inLen := capLen (packCdb c.cdb).inLen
  let outLen := capLen (packCdb c.cdb).outLen
  let reqId ← allocBuf (scsiReq c) 52
  if reqId = 0 then return
  let outId ← (if outLen > 0 then allocBuf (paddedOut (outDataOf c.cdb) outLen) outLen else pure 0)
  if outLen > 0 ∧ outId = 0 then return
  let respId ← allocBuf (List.replicate (12 + kSenseSize) 0) (12 + UInt32.ofNat kSenseSize)
  if respId = 0 then return
  let inId ← (if inLen > 0 then allocBuf (List.replicate inLen.toNat 0) inLen else pure 0)
  if inLen > 0 ∧ inId = 0 then return
  let _ ← placeBuf vq reqId false true
  let _ ← (if outLen > 0 then placeBuf vq outId false true else pure 0)
  let _ ← placeBuf vq respId true (decide (inLen > 0))
  let _ ← (if inLen > 0 then placeBuf vq inId true false else pure 0)
  notify vq

/-- The control queue, on which `submit_tmf` and `submit_an` send their requests. -/
def kCtrlVq : Fin kMaxQueues := 0

def tmfRequest (m : TmfReq) : List UInt8 :=
  le32 0 ++ le32 m.subtype ++ encodeLun m.target m.lun ++ le64 m.tag

def submitTmf (m : TmfReq) : ScsiM Unit := do
  let s ← getState
  if (s.vqs kCtrlVq).size = 0 then return
  if (s.vqs kCtrlVq).nextDescIdx + 3 ≥ (s.vqs kCtrlVq).size then return
  let reqId ← allocBuf (tmfRequest m) 24
  if reqId = 0 then return
  let respId ← allocBuf [0] 1
  if respId = 0 then return
  let _ ← placeBuf kCtrlVq reqId false true
  let _ ← placeBuf kCtrlVq respId true false
  notify kCtrlVq

def anRequest (m : AnReq) : List UInt8 :=
  le32 (if m.subtype = 1 then 1 else 2) ++ encodeLun m.target m.lun ++ le32 m.eventRequested

def submitAn (m : AnReq) : ScsiM Unit := do
  let s ← getState
  if (s.vqs kCtrlVq).size = 0 then return
  if (s.vqs kCtrlVq).nextDescIdx + 3 ≥ (s.vqs kCtrlVq).size then return
  let reqId ← allocBuf (anRequest m) 16
  if reqId = 0 then return
  let respId ← allocBuf (List.replicate 5 0) 5
  if respId = 0 then return
  let _ ← placeBuf kCtrlVq reqId false true
  let _ ← placeBuf kCtrlVq respId true false
  notify kCtrlVq

/-- The target of a descriptor: as in the other harnesses, but never of length 0. -/
def descTarget : TargetRule := fun bufs bufId len exoticRegion =>
  if exoticRegion ≠ 0 then some (exoticAddr bufId exoticRegion, max (min len 4) 1)
  else (bufs bufId).map fun buf =>
    let dlen := min len buf.len
    (buf.gpa, if dlen = 0 then 1 else dlen)

def opVqKick (vqIdx : UInt32) : ScsiM Unit := mmioWritel rQueueNotify vqIdx

def opVqWaitUsed (_vqIdx : UInt32) : ScsiM Unit := flushEvents

/-- Every size is written as a word. -/
def opMmioCorrupt (offset value size : UInt32) : ScsiM Unit := do
  let off := (offset &&& 0x1ff).toUInt64
  if size = 1 then
    mmioWrite 4 off (value &&& 0xff)
  else if size = 2 then
    mmioWrite 4 off (value &&& 0xffff)
  else
    mmioWrite 4 off value

def handlers : Handlers kMaxQueues (Synth Unit) where
  configRead := opConfigReadWord
  guestMemWrite := opGuestMemWrite
  vqAddDesc := addDescWith descTarget
  vqKick := opVqKick
  vqWaitUsed := opVqWaitUsed
  resetIterationState := resetIterationState
  mmioCorrupt := opMmioCorrupt

def dispatch : VirtioOp → ScsiM Unit
  | .common op => dispatchCommon handlers op
  | .scsiCmd c => submitScsiCmd c
  | .tmfReq m => submitTmf m
  | .anReq m => submitAn m

/-- `proto_fuzz_virtio_scsi`. -/
def target : Target kMaxQueues (Synth Unit) VirtioOp where
  dispatch := dispatch
  resetIterationState := resetIterationState
  ext := constructedExt

/-- `submit_scsi_cmd` behind its guards and the staging of the request. -/
def afterRequest (c : ScsiCmd) (reqId : UInt32) : ScsiM Unit := do
  let vq := Fin.ofNat kMaxQueues c.vqIdx.toNat
  let inLen := capLen (packCdb c.cdb).inLen
  let outLen := capLen (packCdb c.cdb).outLen
  if reqId = 0 then return
  let outId ← (if outLen > 0 then allocBuf (paddedOut (outDataOf c.cdb) outLen) outLen else pure 0)
  if outLen > 0 ∧ outId = 0 then return
  let respId ← allocBuf (List.replicate (12 + kSenseSize) 0) (12 + UInt32.ofNat kSenseSize)
  if respId = 0 then return
  let inId ← (if inLen > 0 then allocBuf (List.replicate inLen.toNat 0) inLen else pure 0)
  if inLen > 0 ∧ inId = 0 then return
  let _ ← placeBuf vq reqId false true
  let _ ← (if outLen > 0 then placeBuf vq outId false true else pure 0)
  let _ ← placeBuf vq respId true (decide (inLen > 0))
  let _ ← (if inLen > 0 then placeBuf vq inId true false else pure 0)
  notify vq

theorem submits_afterRequest (c : ScsiCmd) (reqId : UInt32) :
    Submits typedActs (Fin.ofNat kMaxQueues c.vqIdx.toNat) (afterRequest c reqId) := by
  let vq := Fin.ofNat kMaxQueues c.vqIdx.toNat
  have hplace (id : UInt32) (deviceWritable chainNext : Bool) :
      Submits typedActs vq (placeBuf vq id deviceWritable chainNext : ScsiM UInt32) :=
    submits_placeBuf (by decide) vq id deviceWritable chainNext
  refine WithinFrom.ite (Within.pure _).from ?_
  refine Submits.bind (Within.ite (within_typedBuf _ _) (Within.pure _)).from fun outId => ?_
  refine WithinFrom.ite (Within.pure _).from ?_
  refine Submits.bind (within_typedBuf _ _).from fun respId => ?_
  refine WithinFrom.ite (Within.pure _).from ?_
  refine Submits.bind (Within.ite (within_typedBuf _ _) (Within.pure _)).from fun inId => ?_
  refine WithinFrom.ite (Within.pure _).from ?_
  refine Submits.bind (hplace _ _ _) fun _ => ?_
  refine Submits.bind (WithinFrom.ite (hplace _ _ _) (Within.pure _).from) fun _ => ?_
  refine Submits.bind (hplace _ _ _) fun _ => ?_
  refine Submits.bind (WithinFrom.ite (hplace _ _ _) (Within.pure _).from) fun _ => ?_
  exact (within_notify (by decide) _).from

private theorem within_submitScsiCmd (c : ScsiCmd) :
    Within (Steps typedActs) (submitScsiCmd c) := by
  apply within_ifSetUp
  intro s
  refine WithinFrom.ite (Within.pure _).from ?_
  exact Submits.bind (within_typedBuf _ _).from (submits_afterRequest c)

private theorem within_submitTmf (m : TmfReq) : Within (Steps typedActs) (submitTmf m) := by
  apply within_ifSetUp
  intro s
  exact WithinFrom.ite (Within.pure _).from (submits_reqResp _ _ _ _ _)

private theorem within_submitAn (m : AnReq) : Within (Steps typedActs) (submitAn m) := by
  apply within_ifSetUp
  intro s
  exact WithinFrom.ite (Within.pure _).from (submits_reqResp _ _ _ _ _)

private theorem within_opMmioCorrupt (offset value size : UInt32) :
    Within (Steps [.event]) (opMmioCorrupt offset value size) := by
  refine Within.ite ?_ (Within.ite ?_ ?_)
  · exact within_mmioWrite (by decide) _ _ _
  · exact within_mmioWrite (by decide) _ _ _
  · exact within_mmioWrite (by decide) _ _ _

private theorem handlers_sound : handlers.Sound where
  configRead := within_opConfigReadWord (by decide)
  guestMemWrite := within_opGuestMemWrite (by decide) (by decide) (by decide)
  vqAddDesc := within_addDescWith (by decide) descTarget
  vqKick _ := within_mmioWritel (by decide) _ _
  vqWaitUsed _ := within_flushEvents (by decide)
  mmioCorrupt := within_opMmioCorrupt

def asCommon : VirtioOp → Option CommonOp
  | .common op => some op
  | _ => none

theorem resetIterationState_run (w : World kMaxQueues (Synth Unit)) :
    resetIterationState.run w = ((), w.afterReset.setExt fun _ => resetExt) := by
  rw [resetIterationState, StateT.run_bind, resetCommon_run]
  rfl

theorem confined : target.Confined asCommon := by
  apply Target.confined_of_handlers handlers_sound _ rfl
  · intro op c hop
    cases op with
    | common op => cases hop; rfl
    | _ => cases hop
  · intro op hop
    cases op with
    | common op => cases hop
    | scsiCmd c => exact within_submitScsiCmd c
    | tmfReq m => exact within_submitTmf m
    | anReq m => exact within_submitAn m
  · exact fun w => ⟨fun _ => resetExt, congrArg Prod.snd (resetIterationState_run w)⟩

end VirtioCrash.Scsi
