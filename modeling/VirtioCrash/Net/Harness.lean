import VirtioCrash.Harness.Confined

/-!
# The virtio-net harness

`proto_fuzz_virtio_net.cc`: eight queues, packets and control commands that stage their own buffers,
and the device-aware state that earlier commands leave for later ones.
-/

namespace VirtioCrash.Net

open StateProgram Bytes

abbrev kMaxQueues : Nat := 8
abbrev kVlanSlots : Nat := 16
abbrev kMacListSlots : Nat := 4

structure MacList where
  unicast : List (List UInt8)
  multicast : List (List UInt8)
  deriving DecidableEq

structure NetDevice where
  activePairs : UInt32
  currentMac : List UInt8
  vlanSlots : Fin kVlanSlots → UInt16
  vlanSlotValid : Fin kVlanSlots → Bool
  macListSlots : Fin kMacListSlots → MacList

/-- The fields only this harness has, as they are constructed and as a reset leaves them. -/
def resetExt : Synth NetDevice where
  synthBufId := 0x80000000
  device :=
    { activePairs := 1
      currentMac := List.replicate 6 0
      vlanSlots := fun _ => 0
      vlanSlotValid := fun _ => false
      macListSlots := fun _ => ⟨[], []⟩ }

abbrev NetM := Harness kMaxQueues (Synth NetDevice)

def resetIterationState : NetM Unit := do
  resetCommon
  modifyExt fun _ => resetExt

def modifyDevice (f : NetDevice → NetDevice) : NetM Unit :=
  modifyExt fun e => { e with device := f e.device }

structure TxPacket where
  vqIdx : UInt32
  hdrFlags : UInt32
  gsoType : UInt32
  hdrLen : UInt32
  gsoSize : UInt32
  csumStart : UInt32
  csumOffset : UInt32
  numBuffers : UInt32
  payload : List UInt8
  vlanTci : UInt32

structure CtrlCmd where
  vqIdx : UInt32
  vclass : UInt32
  cmd : UInt32
  data : List UInt8

structure CtrlMacTableSet where
  macsSlot : UInt32
  unicastMacs : List (List UInt8)
  multicastMacs : List (List UInt8)

structure CtrlVlanAdd where
  vlanSlot : UInt32
  vid : UInt32

structure CtrlVlanDel where
  vlanSlot : UInt32
  useSlot : Bool
  vid : UInt32

structure CtrlRssConfig where
  hashTypes : UInt32
  indirectionTableMask : UInt32
  unclassifiedQueue : UInt32
  indirectionTable : List UInt8
  maxTxVq : UInt32
  hashKey : List UInt8

inductive VirtioOp where
  | common (op : CommonOp)
  | txPacket (p : TxPacket)
  | ctrlCmd (c : CtrlCmd)
  | ctrlRx (cmd enable : UInt32)
  | ctrlMacAddrSet (mac : List UInt8)
  | ctrlMacTableSet (m : CtrlMacTableSet)
  | ctrlVlanAdd (m : CtrlVlanAdd)
  | ctrlVlanDel (m : CtrlVlanDel)
  | ctrlAnnounceAck
  | ctrlMqVqPairsSet (pairCount : UInt32)
  | ctrlGuestOffloads (offloads : UInt64)
  | ctrlRssConfig (m : CtrlRssConfig)
  | hostSetLink (up : Bool)

/-- The modern 12-byte `virtio_net_hdr`. -/
def packNetHdr (p : TxPacket) : List UInt8 :=
  [p.hdrFlags.toUInt8, p.gsoType.toUInt8] ++ le16 p.hdrLen.toUInt16 ++ le16 p.gsoSize.toUInt16 ++
    le16 p.csumStart.toUInt16 ++ le16 p.csumOffset.toUInt16 ++ le16 p.numBuffers.toUInt16

/-- The frame with its 802.1Q tag, when there is one and the frame has an Ethernet header. -/
def taggedPayload (p : TxPacket) : List UInt8 :=
  if p.vlanTci ≠ 0 ∧ p.payload.length ≥ 14 then
    let tag : List UInt8 :=
      [0x81, 0x00, ((p.vlanTci >>> 8) &&& 0xff).toUInt8, (p.vlanTci &&& 0xff).toUInt8]
    p.payload.take 12 ++ tag ++ p.payload.drop 12
  else p.payload

/-- The queue a message names, modulo `kMaxQueues`. -/
def vqOf (vqIdx : UInt32) : Fin kMaxQueues := Fin.ofNat kMaxQueues vqIdx.toNat

def opTxPacket (p : TxPacket) : NetM Unit := do
  let vq := vqOf p.vqIdx
  let s ← getState
  if (s.vqs vq).size = 0 then return
  if (s.vqs vq).nextDescIdx + 2 ≥ (s.vqs vq).size then return
  let hdrId ← allocBuf (packNetHdr p) 12
  if hdrId = 0 then return
  let pl := taggedPayload p
  let plen := UInt32.ofNat (min pl.length 9018)
  let payId ← allocBuf pl plen
  if payId = 0 then return
  let _ ← placeBuf vq hdrId false (decide (plen > 0))
  let _ ← (if plen > 0 then placeBuf vq payId false false else pure 0)
  notify vq

def opCtrlCmd (c : CtrlCmd) : NetM Unit := do
  let vq := vqOf c.vqIdx
  let s ← getState
  if (s.vqs vq).size = 0 then return
  if (s.vqs vq).nextDescIdx + 3 ≥ (s.vqs vq).size then return
  let chId ← allocBuf [c.vclass.toUInt8, c.cmd.toUInt8] 2
  if chId = 0 then return
  let dlen := UInt32.ofNat (min c.data.length 1024)
  let dId ← (if dlen > 0 then allocBuf c.data dlen else pure 0)
  if dlen > 0 ∧ dId = 0 then return
  let ackId ← allocBuf [0xff] 1
  if ackId = 0 then return
  let _ ← placeBuf vq chId false true
  let _ ← (if dlen > 0 then placeBuf vq dId false true else pure 0)
  let _ ← placeBuf vq ackId true false
  notify vq

/-- `submit_ctrl`: a typed control command as the chain class and cmd, payload, ack. -/
def submitCtrl (vqIdx : UInt32) (vclass cmd : UInt8) (payload : List UInt8) : NetM Unit := do
  if h : vqIdx.toNat < kMaxQueues then
    let vq : Fin kMaxQueues := ⟨vqIdx.toNat, h⟩
    let s ← getState
    if (s.vqs vq).size = 0 then return
    if (s.vqs vq).nextDescIdx + 3 ≥ (s.vqs vq).size then return
    let chId ← allocBuf [vclass, cmd] 2
    if chId = 0 then return
    let dId ← (if ¬payload.isEmpty then
        allocBuf payload (min (UInt32.ofNat payload.length) 2048)
      else pure 0)
    if ¬payload.isEmpty ∧ dId = 0 then return
    let aId ← allocBuf [0xff] 1
    if aId = 0 then return
    let _ ← placeBuf vq chId false true
    let _ ← (if dId ≠ 0 then placeBuf vq dId false true else pure 0)
    let _ ← placeBuf vq aId true false
    notify vq

/-- The control queue behind the active queue pairs. -/
def cvq : NetM UInt32 := do
  let s ← getState
  return 2 * s.ext.device.activePairs

/-- `s.resize(6, 0); s.substr(0, 6)` -/
def pad6 (s : List UInt8) : List UInt8 := (s ++ List.replicate 6 0).take 6

def opCtrlRx (cmd enable : UInt32) : NetM Unit := do
  submitCtrl (← cvq) 0 (cmd &&& 0xff).toUInt8 [(enable &&& 0xff).toUInt8]

def opCtrlMacAddrSet (mac : List UInt8) : NetM Unit := do
  submitCtrl (← cvq) 1 1 (pad6 mac)
  modifyDevice fun d => { d with currentMac := pad6 mac }

def macTablePayload (l : MacList) : List UInt8 :=
  le32 (UInt32.ofNat l.unicast.length) ++ l.unicast.flatMap pad6 ++
    le32 (UInt32.ofNat l.multicast.length) ++ l.multicast.flatMap pad6

def opCtrlMacTableSet (m : CtrlMacTableSet) : NetM Unit := do
  let slot := Fin.ofNat kMacListSlots m.macsSlot.toNat
  let ml : MacList := ⟨m.unicastMacs, m.multicastMacs⟩
  modifyDevice fun d => { d with macListSlots := Function.update d.macListSlots slot ml }
  submitCtrl (← cvq) 1 0 (macTablePayload ml)

def vlanSlot (s : UInt32) : Fin kVlanSlots := Fin.ofNat kVlanSlots s.toNat

def opCtrlVlanAdd (m : CtrlVlanAdd) : NetM Unit := do
  let vid := (m.vid &&& 0x0fff).toUInt16
  let slot := vlanSlot m.vlanSlot
  modifyDevice fun d =>
    { d with
      vlanSlots := Function.update d.vlanSlots slot vid
      vlanSlotValid := Function.update d.vlanSlotValid slot true }
  submitCtrl (← cvq) 2 0 (le16 vid)

def opCtrlVlanDel (m : CtrlVlanDel) : NetM Unit := do
  let s ← getState
  let slot := vlanSlot m.vlanSlot
  let vid :=
    if m.useSlot then
      if s.ext.device.vlanSlotValid slot then s.ext.device.vlanSlots slot else 0
    else (m.vid &&& 0x0fff).toUInt16
  if m.useSlot ∧ s.ext.device.vlanSlotValid slot = true then
    modifyDevice fun d =>
      { d with vlanSlotValid := Function.update d.vlanSlotValid slot false }
  submitCtrl (← cvq) 2 1 (le16 vid)

def opCtrlAnnounceAck : NetM Unit := do
  submitCtrl (← cvq) 3 0 []

def opCtrlMqVqPairsSet (pairCount : UInt32) : NetM Unit := do
  let pairs := (min (max pairCount 1) 3).toUInt16
  submitCtrl (← cvq) 4 0 (le16 pairs)
  modifyDevice fun d => { d with activePairs := pairs.toUInt32 }

def opCtrlGuestOffloads (offloads : UInt64) : NetM Unit := do
  submitCtrl (← cvq) 5 0 (le64 offloads)

def rssPayload (m : CtrlRssConfig) : List UInt8 :=
  let mask := (m.indirectionTableMask &&& 0x7f).toUInt16
  let want := (mask.toNat + 1) * 2
  let it := (m.indirectionTable ++ List.replicate want 0).take want
  let hk := m.hashKey.take 40
  le32 m.hashTypes ++ le16 mask ++ le16 m.unclassifiedQueue.toUInt16 ++ it ++
    le16 m.maxTxVq.toUInt16 ++ [UInt8.ofNat hk.length] ++ hk

def opCtrlRssConfig (m : CtrlRssConfig) : NetM Unit := do
  submitCtrl (← cvq) 4 1 (rssPayload m)

def opHostSetLink (up : Bool) : NetM Unit := do
  emit (.setLink "user0" up)
  flushEvents

def handlers : Handlers kMaxQueues (Synth NetDevice) where
  configRead := opConfigReadSized
  guestMemWrite := opGuestMemWrite
  vqAddDesc := addDescWith descTarget
  vqKick := opVqKick
  vqWaitUsed := opVqWaitUsed
  resetIterationState := resetIterationState
  mmioCorrupt := opMmioCorrupt

def dispatch : VirtioOp → NetM Unit
  | .common op => dispatchCommon handlers op
  | .txPacket p => opTxPacket p
  | .ctrlCmd c => opCtrlCmd c
  | .ctrlRx cmd enable => opCtrlRx cmd enable
  | .ctrlMacAddrSet mac => opCtrlMacAddrSet mac
  | .ctrlMacTableSet m => opCtrlMacTableSet m
  | .ctrlVlanAdd m => opCtrlVlanAdd m
  | .ctrlVlanDel m => opCtrlVlanDel m
  | .ctrlAnnounceAck => opCtrlAnnounceAck
  | .ctrlMqVqPairsSet pairCount => opCtrlMqVqPairsSet pairCount
  | .ctrlGuestOffloads offloads => opCtrlGuestOffloads offloads
  | .ctrlRssConfig m => opCtrlRssConfig m
  | .hostSetLink up => opHostSetLink up

/-- `proto_fuzz_virtio_net`. -/
def target : Target kMaxQueues (Synth NetDevice) VirtioOp where
  dispatch := dispatch
  resetIterationState := resetIterationState
  ext := resetExt

private theorem within_modifyDevice (f : NetDevice → NetDevice) :
    Within (Steps typedActs) (modifyDevice f) :=
  within_modifyExt (by decide) _

private theorem within_cvq : Within (Steps typedActs) cvq :=
  within_getState.bind fun _ => Within.pure _

private theorem within_opTxPacket (p : TxPacket) : Within (Steps typedActs) (opTxPacket p) := by
  refine within_ifSetUp _ fun s => ?_
  refine WithinFrom.ite (Within.pure _).from ?_
  refine Submits.bind (within_typedBuf _ _).from fun hdrId => ?_
  refine WithinFrom.ite (Within.pure _).from ?_
  refine Submits.bind (within_typedBuf _ _).from fun payId => ?_
  refine WithinFrom.ite (Within.pure _).from ?_
  refine Submits.bind (submits_placeBuf (by decide) _ _ _ _) fun _ => ?_
  refine Submits.bind
    (WithinFrom.ite (submits_placeBuf (by decide) _ _ _ _) (Within.pure _).from) fun _ => ?_
  exact (within_notify (by decide) _).from

/-- What `op_ctrl_cmd` and `submit_ctrl` do behind their guards. They decide in different ways
whether there is data to place. -/
def ctrlSubmission (vq : Fin kMaxQueues) (hdr data : List UInt8) (len : UInt32) (hasData : Prop)
    [Decidable hasData] (place : UInt32 → Prop) [∀ id, Decidable (place id)] : NetM Unit := do
  let chId ← allocBuf hdr 2
  if chId = 0 then return
  let dId ← (if hasData then allocBuf data len else pure 0)
  if hasData ∧ dId = 0 then return
  let ackId ← allocBuf [0xff] 1
  if ackId = 0 then return
  let _ ← placeBuf vq chId false true
  let _ ← (if place dId then placeBuf vq dId false true else pure 0)
  let _ ← placeBuf vq ackId true false
  notify vq

private theorem submits_ctrlSubmission (vq : Fin kMaxQueues) (hdr data : List UInt8) (len : UInt32)
    (hasData : Prop) [Decidable hasData] (place : UInt32 → Prop) [∀ id, Decidable (place id)] :
    Submits typedActs vq (ctrlSubmission vq hdr data len hasData place) := by
  refine Submits.bind (within_typedBuf _ _).from fun chId => ?_
  refine WithinFrom.ite (Within.pure _).from ?_
  refine Submits.bind (Within.ite (within_typedBuf _ _) (Within.pure _)).from fun dId => ?_
  refine WithinFrom.ite (Within.pure _).from ?_
  refine Submits.bind (within_typedBuf _ _).from fun ackId => ?_
  refine WithinFrom.ite (Within.pure _).from ?_
  refine Submits.bind (submits_placeBuf (by decide) _ _ _ _) fun _ => ?_
  refine Submits.bind
    (WithinFrom.ite (submits_placeBuf (by decide) _ _ _ _) (Within.pure _).from) fun _ => ?_
  refine Submits.bind (submits_placeBuf (by decide) _ _ _ _) fun _ => ?_
  exact (within_notify (by decide) _).from

private theorem within_opCtrlCmd (c : CtrlCmd) : Within (Steps typedActs) (opCtrlCmd c) := by
  refine within_ifSetUp _ fun s => ?_
  exact WithinFrom.ite (Within.pure _).from (submits_ctrlSubmission _ _ _ _ _ _)

private theorem within_submitCtrl (vqIdx : UInt32) (vclass cmd : UInt8) (payload : List UInt8) :
    Within (Steps typedActs) (submitCtrl vqIdx vclass cmd payload) := by
  refine Within.dite (fun h => ?_) fun _ => Within.pure _
  refine within_ifSetUp _ fun s => ?_
  exact WithinFrom.ite (Within.pure _).from (submits_ctrlSubmission _ _ _ _ _ _)

private theorem within_onCvq (vclass cmd : UInt8) (payload : List UInt8) :
    Within (Steps typedActs) (cvq >>= fun vq => submitCtrl vq vclass cmd payload) :=
  within_cvq.bind fun _ => within_submitCtrl _ _ _ _

private theorem within_opCtrlVlanDel (m : CtrlVlanDel) :
    Within (Steps typedActs) (opCtrlVlanDel m) := by
  refine within_getState.bind fun s => ?_
  refine Within.ite ?_ (within_onCvq _ _ _)
  exact (within_modifyDevice _).bind fun _ => within_onCvq _ _ _

theorem handlers_sound : handlers.Sound where
  configRead := within_opConfigReadSized (by decide)
  guestMemWrite := within_opGuestMemWrite (by decide) (by decide) (by decide)
  vqAddDesc := within_addDescWith (by decide) descTarget
  vqKick := within_opVqKick (by decide)
  vqWaitUsed := within_opVqWaitUsed (by decide)
  mmioCorrupt := within_opMmioCorrupt (by decide)

def asCommon : VirtioOp → Option CommonOp
  | .common op => some op
  | _ => none

private theorem dispatch_typed (op : VirtioOp) (hop : asCommon op = none) :
    Within (Steps typedActs) (dispatch op) := by
  cases op with
  | common op => cases hop
  | txPacket p => exact within_opTxPacket p
  | ctrlCmd c => exact within_opCtrlCmd c
  | ctrlRx cmd enable => exact within_onCvq _ _ _
  | ctrlMacAddrSet mac =>
      exact within_cvq.bind fun _ => (within_submitCtrl _ _ _ _).bind fun _ => within_modifyDevice _
  | ctrlMacTableSet m => exact (within_modifyDevice _).bind fun _ => within_onCvq _ _ _
  | ctrlVlanAdd m => exact (within_modifyDevice _).bind fun _ => within_onCvq _ _ _
  | ctrlVlanDel m => exact within_opCtrlVlanDel m
  | ctrlAnnounceAck => exact within_onCvq _ _ _
  | ctrlMqVqPairsSet pairCount =>
      exact within_cvq.bind fun _ => (within_submitCtrl _ _ _ _).bind fun _ => within_modifyDevice _
  | ctrlGuestOffloads offloads => exact within_onCvq _ _ _
  | ctrlRssConfig m => exact within_onCvq _ _ _
  | hostSetLink up =>
      exact (within_emit (by decide) _ rfl).bind fun _ => within_flushEvents (by decide)

theorem resetIterationState_run (w : World kMaxQueues (Synth NetDevice)) :
    resetIterationState.run w = ((), w.afterReset.setExt fun _ => resetExt) := by
  rw [resetIterationState, StateT.run_bind, resetCommon_run]
  rfl

theorem confined : target.Confined asCommon := by
  apply Target.confined_of_handlers handlers_sound _ rfl _ dispatch_typed
  · exact fun w => ⟨fun _ => resetExt, congrArg Prod.snd (resetIterationState_run w)⟩
  · intro op c hop
    cases op with
    | common op => cases hop; rfl
    | _ => cases hop

end VirtioCrash.Net
