import VirtioCrash.Net.Harness
import VirtioCrash.Harness.Checked

/-!
# The net harness with its array indices and remainders checked

Every op, in the form in which an index outside `vqs`, `vlan_slots`, `mac_list_slots` or a region
table, and a remainder by zero, stops it. No op meets such a fault, in any state.
-/

namespace VirtioCrash.Net.Checked

open StateProgram StateProgram.Checked VirtioCrash.Checked Bytes

abbrev CheckedM := CheckedHarness kMaxQueues (Synth NetDevice)

/-- The fields that are not arrays, as a reset leaves them, and the VLAN and MAC slots as before. -/
def resetScalars (w : World kMaxQueues (Synth NetDevice)) : World kMaxQueues (Synth NetDevice) :=
  { w with
    st := { w.st with
      bufAlloc := kBufPoolBase kMaxQueues
      bufs := fun _ => none
      ext :=
        { synthBufId := 0x80000000
          device := { w.st.ext.device with
            activePairs := 1
            currentMac := List.replicate 6 0 } } }
    hist := .reset :: w.hist }

def storeVq (i : Fin kMaxQueues) (w : World kMaxQueues (Synth NetDevice)) :
    World kMaxQueues (Synth NetDevice) :=
  w.setVq i (resetVq i)

def storeDevice (f : NetDevice → NetDevice) (w : World kMaxQueues (Synth NetDevice)) :
    World kMaxQueues (Synth NetDevice) :=
  w.setExt fun e => { e with device := f e.device }

def resetIterationState : CheckedM Unit := do
  total <| mmioWritel rStatus 0
  total <| mmioWritel rStatus (kStatusAck ||| kStatusDriver)
  fill kMaxQueues storeVq
  total <| modify resetScalars
  fill kVlanSlots fun i => storeDevice fun d =>
    { d with
      vlanSlots := Function.update d.vlanSlots i 0
      vlanSlotValid := Function.update d.vlanSlotValid i false }
  fill kMacListSlots fun i => storeDevice fun d =>
    { d with macListSlots := Function.update d.macListSlots i ⟨[], []⟩ }

def opTxPacket (p : TxPacket) : CheckedM Unit := do
  let vq ← rem p.vqIdx 8
  let q ← vqAt vq
  if q.size = 0 then return
  let q ← vqAt vq
  if q.nextDescIdx + 2 ≥ q.size then return
  let hdrId ← total <| allocBuf (packNetHdr p) 12
  if hdrId = 0 then return
  let pl := taggedPayload p
  let plen := UInt32.ofNat (min pl.length 9018)
  let payId ← total <| allocBuf pl plen
  if payId = 0 then return
  let _ ← Checked.placeBuf vq hdrId false (decide (plen > 0))
  let _ ← (if plen > 0 then Checked.placeBuf vq payId false false else pure 0)
  Checked.notify vq

def opCtrlCmd (c : CtrlCmd) : CheckedM Unit := do
  let vq ← rem c.vqIdx 8
  let q ← vqAt vq
  if q.size = 0 then return
  let q ← vqAt vq
  if q.nextDescIdx + 3 ≥ q.size then return
  let chId ← total <| allocBuf [c.vclass.toUInt8, c.cmd.toUInt8] 2
  if chId = 0 then return
  let dlen := UInt32.ofNat (min c.data.length 1024)
  let dId ← (if dlen > 0 then total <| allocBuf c.data dlen else pure 0)
  if dlen > 0 ∧ dId = 0 then return
  let ackId ← total <| allocBuf [0xff] 1
  if ackId = 0 then return
  let _ ← Checked.placeBuf vq chId false true
  let _ ← (if dlen > 0 then Checked.placeBuf vq dId false true else pure 0)
  let _ ← Checked.placeBuf vq ackId true false
  Checked.notify vq

def submitCtrl (vqIdx : UInt32) (vclass cmd : UInt8) (payload : List UInt8) : CheckedM Unit := do
  if vqIdx.toNat ≥ kMaxQueues then return
  let q ← vqAt vqIdx
  if q.size = 0 then return
  let q ← vqAt vqIdx
  if q.nextDescIdx + 3 ≥ q.size then return
  let chId ← total <| allocBuf [vclass, cmd] 2
  if chId = 0 then return
  let dId ← (if ¬payload.isEmpty then
      total <| allocBuf payload (min (UInt32.ofNat payload.length) 2048)
    else pure 0)
  if ¬payload.isEmpty ∧ dId = 0 then return
  let aId ← total <| allocBuf [0xff] 1
  if aId = 0 then return
  let _ ← Checked.placeBuf vqIdx chId false true
  let _ ← (if dId ≠ 0 then Checked.placeBuf vqIdx dId false true else pure 0)
  let _ ← Checked.placeBuf vqIdx aId true false
  Checked.notify vqIdx

def opCtrlRx (cmd enable : UInt32) : CheckedM Unit := do
  submitCtrl (← total cvq) 0 (cmd &&& 0xff).toUInt8 [(enable &&& 0xff).toUInt8]

def opCtrlMacAddrSet (mac : List UInt8) : CheckedM Unit := do
  submitCtrl (← total cvq) 1 1 (pad6 mac)
  total <| modifyDevice fun d => { d with currentMac := pad6 mac }

def opCtrlMacTableSet (m : CtrlMacTableSet) : CheckedM Unit := do
  let slot ← rem m.macsSlot 4
  let i ← index kMacListSlots slot
  let ml : MacList := ⟨m.unicastMacs, m.multicastMacs⟩
  total <| modifyDevice fun d => { d with macListSlots := Function.update d.macListSlots i ml }
  submitCtrl (← total cvq) 1 0 (macTablePayload ml)

def opCtrlVlanAdd (m : CtrlVlanAdd) : CheckedM Unit := do
  let vid := (m.vid &&& 0x0fff).toUInt16
  let slot ← rem m.vlanSlot 16
  let i ← index kVlanSlots slot
  total <| modifyDevice fun d => { d with vlanSlots := Function.update d.vlanSlots i vid }
  let j ← index kVlanSlots slot
  total <| modifyDevice fun d => { d with vlanSlotValid := Function.update d.vlanSlotValid j true }
  submitCtrl (← total cvq) 2 0 (le16 vid)

def opCtrlVlanDel (m : CtrlVlanDel) : CheckedM Unit := do
  if m.useSlot then
    let slot ← rem m.vlanSlot 16
    let i ← index kVlanSlots slot
    let s ← total getState
    let vid ← (if s.ext.device.vlanSlotValid i then do
        let j ← index kVlanSlots slot
        return s.ext.device.vlanSlots j
      else pure 0)
    if s.ext.device.vlanSlotValid i then
      let j ← index kVlanSlots slot
      total <| modifyDevice fun d =>
        { d with vlanSlotValid := Function.update d.vlanSlotValid j false }
      submitCtrl (← total cvq) 2 1 (le16 vid)
    else
      submitCtrl (← total cvq) 2 1 (le16 vid)
  else
    submitCtrl (← total cvq) 2 1 (le16 (m.vid &&& 0x0fff).toUInt16)

def opCtrlAnnounceAck : CheckedM Unit := do
  submitCtrl (← total cvq) 3 0 []

def opCtrlMqVqPairsSet (pairCount : UInt32) : CheckedM Unit := do
  let pairs := (min (max pairCount 1) 3).toUInt16
  submitCtrl (← total cvq) 4 0 (le16 pairs)
  total <| modifyDevice fun d => { d with activePairs := pairs.toUInt32 }

def opCtrlGuestOffloads (offloads : UInt64) : CheckedM Unit := do
  submitCtrl (← total cvq) 5 0 (le64 offloads)

def opCtrlRssConfig (m : CtrlRssConfig) : CheckedM Unit := do
  submitCtrl (← total cvq) 4 1 (rssPayload m)

/-- The common ops; those not listed index no array and take no remainder. -/
def dispatchCommon : CommonOp → CheckedM Unit
  | .vqSetup vqIdx size => Checked.opVqSetup vqIdx size
  | .vqAddDesc d => Checked.opVqAddDesc d
  | .reset => resetIterationState
  | .memWriteAbsolute gpa data => Checked.opMemwriteAbsolute gpa data
  | op => total (VirtioCrash.dispatchCommon handlers op)

def dispatch : VirtioOp → CheckedM Unit
  | .common op => dispatchCommon op
  | .txPacket p => opTxPacket p
  | .ctrlCmd c => opCtrlCmd c
  | .ctrlRx cmd enable => opCtrlRx cmd enable
  | .ctrlMacAddrSet mac => opCtrlMacAddrSet mac
  | .ctrlMacTableSet m => opCtrlMacTableSet m
  | .ctrlVlanAdd m => opCtrlVlanAdd m
  | .ctrlVlanDel m => opCtrlVlanDel m
  | .ctrlAnnounceAck => opCtrlAnnounceAck
  | .ctrlMqVqPairsSet pairCount => opCtrlMqVqPairsSet pairCount
  | .ctrlGuestOffloads offloads => opCtrlGuestOffloads offloads
  | .ctrlRssConfig m => opCtrlRssConfig m
  | .hostSetLink up => total (opHostSetLink up)

/-- The ops one after another, in one thread. -/
def dispatchAll (ops : List VirtioOp) : CheckedM Unit := ops.forM dispatch

/-- A run of one thread that starts with `reset_iteration_state`. -/
def runFromReset (ops : List VirtioOp) : CheckedM Unit := do
  resetIterationState
  dispatchAll ops

private theorem vq_lt (vqIdx : UInt32) : (vqIdx % 8).toNat < kMaxQueues := by
  rw [UInt32.toNat_mod]
  exact Nat.mod_lt _ (by decide)

private theorem vqOf_eq (vqIdx : UInt32) :
    vqOf vqIdx = ⟨(vqIdx % 8).toNat, vq_lt vqIdx⟩ := by
  apply Fin.ext
  exact (UInt32.toNat_mod vqIdx 8).symm

theorem opTxPacket_run (p : TxPacket) (w : World kMaxQueues (Synth NetDevice)) :
    (opTxPacket p).run w = .ok ((Net.opTxPacket p).run w) := by
  rw [opTxPacket, rem_bind (by decide), Net.opTxPacket, vqOf_eq]
  apply guarded_run (vq_lt _)
  apply (Submission.total (within_typedBuf _ _)).bind
  intro hdrId
  apply Submission.ite (.pure _)
  apply (Submission.total (within_typedBuf _ _)).bind
  intro payId
  apply Submission.ite (.pure _)
  apply (Submission.placeBuf (vq_lt _) _ _ _).bind
  intro _
  apply (Submission.ite (.placeBuf (vq_lt _) _ _ _) (.pure _)).bind
  intro _
  exact Submission.notify (vq_lt _)

theorem opCtrlCmd_run (c : CtrlCmd) (w : World kMaxQueues (Synth NetDevice)) :
    (opCtrlCmd c).run w = .ok ((Net.opCtrlCmd c).run w) := by
  rw [opCtrlCmd, rem_bind (by decide), Net.opCtrlCmd, vqOf_eq]
  apply guarded_run (vq_lt _)
  apply (Submission.total (within_typedBuf _ _)).bind
  intro chId
  apply Submission.ite (.pure _)
  apply (Submission.ite (.total (within_typedBuf _ _)) (.pure _)).bind
  intro dId
  apply Submission.ite (.pure _)
  apply (Submission.total (within_typedBuf _ _)).bind
  intro ackId
  apply Submission.ite (.pure _)
  apply (Submission.placeBuf (vq_lt _) _ _ _).bind
  intro _
  apply (Submission.ite (.placeBuf (vq_lt _) _ _ _) (.pure _)).bind
  intro _
  apply (Submission.placeBuf (vq_lt _) _ _ _).bind
  intro _
  exact Submission.notify (vq_lt _)

private theorem submitCtrl_run (vqIdx : UInt32) (vclass cmd : UInt8) (payload : List UInt8)
    (w : World kMaxQueues (Synth NetDevice)) :
    (submitCtrl vqIdx vclass cmd payload).run w =
      .ok ((Net.submitCtrl vqIdx vclass cmd payload).run w) := by
  rw [submitCtrl, Net.submitCtrl]
  by_cases hi : vqIdx.toNat < kMaxQueues
  · rw [if_neg (not_le.mpr hi), dif_pos hi]
    apply guarded_run hi
    apply (Submission.total (within_typedBuf _ _)).bind
    intro chId
    apply Submission.ite (.pure _)
    apply (Submission.ite (.total (within_typedBuf _ _)) (.pure _)).bind
    intro dId
    apply Submission.ite (.pure _)
    apply (Submission.total (within_typedBuf _ _)).bind
    intro aId
    apply Submission.ite (.pure _)
    apply (Submission.placeBuf hi _ _ _).bind
    intro _
    apply (Submission.ite (.placeBuf hi _ _ _) (.pure _)).bind
    intro _
    apply (Submission.placeBuf hi _ _ _).bind
    intro _
    exact Submission.notify hi
  · rw [if_pos (not_lt.mp hi), dif_neg hi]
    rfl

theorem onCvq_run (vclass cmd : UInt8) (payload : List UInt8)
    (w : World kMaxQueues (Synth NetDevice)) :
    (total cvq >>= fun vq => submitCtrl vq vclass cmd payload).run w =
      .ok ((cvq >>= fun vq => Net.submitCtrl vq vclass cmd payload).run w) := by
  rw [total_bind_run, StateProgram.run_bind]
  exact submitCtrl_run _ _ _ _ _

theorem onCvq_then_run (vclass cmd : UInt8) (payload : List UInt8) (f : NetDevice → NetDevice)
    (w : World kMaxQueues (Synth NetDevice)) :
    (total cvq >>= fun vq => submitCtrl vq vclass cmd payload >>= fun _ =>
        total (modifyDevice f)).run w =
      .ok ((cvq >>= fun vq => Net.submitCtrl vq vclass cmd payload >>= fun _ =>
        modifyDevice f).run w) := by
  rw [total_bind_run, StateProgram.run_bind, StateT.run_bind, submitCtrl_run]
  rfl

private theorem macsSlot_lt (slot : UInt32) : (slot % 4).toNat < kMacListSlots := by
  rw [UInt32.toNat_mod]
  exact Nat.mod_lt _ (by decide)

theorem opCtrlMacTableSet_run (m : CtrlMacTableSet) (w : World kMaxQueues (Synth NetDevice)) :
    (opCtrlMacTableSet m).run w = .ok ((Net.opCtrlMacTableSet m).run w) := by
  have hslot : (⟨(m.macsSlot % 4).toNat, macsSlot_lt m.macsSlot⟩ : Fin kMacListSlots) =
      Fin.ofNat kMacListSlots m.macsSlot.toNat :=
    Fin.ext (UInt32.toNat_mod m.macsSlot 4)
  rw [opCtrlMacTableSet, rem_bind (by decide), index_bind (macsSlot_lt m.macsSlot), hslot,
    Net.opCtrlMacTableSet, total_bind_run, StateProgram.run_bind]
  exact onCvq_run _ _ _ _

private theorem vlanSlot_lt (slot : UInt32) : (slot % 16).toNat < kVlanSlots := by
  rw [UInt32.toNat_mod]
  exact Nat.mod_lt _ (by decide)

private theorem vlanSlot_eq (slot : UInt32) :
    (⟨(slot % 16).toNat, vlanSlot_lt slot⟩ : Fin kVlanSlots) = vlanSlot slot :=
  Fin.ext (UInt32.toNat_mod slot 16)

theorem opCtrlVlanAdd_run (m : CtrlVlanAdd) (w : World kMaxQueues (Synth NetDevice)) :
    (opCtrlVlanAdd m).run w = .ok ((Net.opCtrlVlanAdd m).run w) := by
  rw [opCtrlVlanAdd, rem_bind (by decide), index_bind (vlanSlot_lt m.vlanSlot), vlanSlot_eq,
    Net.opCtrlVlanAdd, total_bind_run, index_bind (vlanSlot_lt m.vlanSlot), vlanSlot_eq,
    total_bind_run, StateProgram.run_bind]
  exact onCvq_run _ _ _ _

theorem opCtrlVlanDel_run (m : CtrlVlanDel) (w : World kMaxQueues (Synth NetDevice)) :
    (opCtrlVlanDel m).run w = .ok ((Net.opCtrlVlanDel m).run w) := by
  rw [opCtrlVlanDel, Net.opCtrlVlanDel, StateProgram.run_bind, getState_run]
  cases huse : m.useSlot with
  | false =>
      rw [if_neg Bool.false_ne_true]
      exact onCvq_run _ _ _ _
  | true =>
      rw [if_pos rfl, rem_bind (by decide), index_bind (vlanSlot_lt m.vlanSlot), vlanSlot_eq,
        total_bind_run, getState_run]
      dsimp only
      cases hvalid : w.st.ext.device.vlanSlotValid (vlanSlot m.vlanSlot) with
      | false => exact onCvq_run _ _ _ _
      | true =>
          rw [if_pos rfl, index_bind (vlanSlot_lt m.vlanSlot), vlanSlot_eq, pure_bind, if_pos rfl,
            index_bind (vlanSlot_lt m.vlanSlot), vlanSlot_eq, total_bind_run, if_pos ⟨rfl, rfl⟩]
          exact onCvq_run _ _ _ _

private theorem foldl_update {α : Type} {length : Nat} (g v : Fin length → α) :
    (List.finRange length).foldl (fun g i => Function.update g i (v i)) g = v := by
  have hstored (is : List (Fin length)) (g : Fin length → α) (j : Fin length) :
      is.foldl (fun g i => Function.update g i (v i)) g j = if j ∈ is then v j else g j := by
    induction is generalizing g with
    | nil => simp
    | cons i is ih =>
        rw [List.foldl_cons, ih]
        by_cases hj : j = i
        · subst hj
          simp
        · simp [hj]
  funext j
  rw [hstored, if_pos (List.mem_finRange j)]

private theorem foldl_storeVq (w : World kMaxQueues (Synth NetDevice)) :
    (List.finRange kMaxQueues).foldl (fun w i => storeVq i w) w =
      { w with st := { w.st with vqs := fun i => resetVq i } } := by
  have hfold (is : List (Fin kMaxQueues)) (w : World kMaxQueues (Synth NetDevice)) :
      is.foldl (fun w i => storeVq i w) w =
        { w with st := { w.st with
          vqs := is.foldl (fun g i => Function.update g i (resetVq i)) w.st.vqs } } := by
    induction is generalizing w with
    | nil => rfl
    | cons i is ih => exact ih (storeVq i w)
  rw [hfold, foldl_update w.st.vqs fun i => resetVq i]

private theorem foldl_storeDevice {ι : Type} (f : ι → NetDevice → NetDevice) (is : List ι)
    (w : World kMaxQueues (Synth NetDevice)) :
    is.foldl (fun w i => storeDevice (f i) w) w =
      storeDevice (fun d => is.foldl (fun d i => f i d) d) w := by
  induction is generalizing w with
  | nil => rfl
  | cons i is ih => exact ih (storeDevice (f i) w)

private theorem foldl_vlanSlots (d : NetDevice) :
    (List.finRange kVlanSlots).foldl (fun d i =>
        { d with
          vlanSlots := Function.update d.vlanSlots i 0
          vlanSlotValid := Function.update d.vlanSlotValid i false }) d =
      { d with vlanSlots := fun _ => 0, vlanSlotValid := fun _ => false } := by
  have hfold (is : List (Fin kVlanSlots)) (d : NetDevice) :
      is.foldl (fun (d : NetDevice) i =>
          { d with
            vlanSlots := Function.update d.vlanSlots i 0
            vlanSlotValid := Function.update d.vlanSlotValid i false }) d =
        { d with
          vlanSlots := is.foldl (fun g i => Function.update g i 0) d.vlanSlots
          vlanSlotValid := is.foldl (fun g i => Function.update g i false) d.vlanSlotValid } := by
    induction is generalizing d with
    | nil => rfl
    | cons i is ih => exact ih _
  rw [hfold, foldl_update d.vlanSlots fun _ => 0, foldl_update d.vlanSlotValid fun _ => false]

private theorem foldl_macListSlots (d : NetDevice) :
    (List.finRange kMacListSlots).foldl (fun d i =>
        { d with macListSlots := Function.update d.macListSlots i ⟨[], []⟩ }) d =
      { d with macListSlots := fun _ => ⟨[], []⟩ } := by
  have hfold (is : List (Fin kMacListSlots)) (d : NetDevice) :
      is.foldl (fun (d : NetDevice) i =>
          { d with macListSlots := Function.update d.macListSlots i ⟨[], []⟩ }) d =
        { d with
          macListSlots := is.foldl (fun g i => Function.update g i ⟨[], []⟩) d.macListSlots } := by
    induction is generalizing d with
    | nil => rfl
    | cons i is ih => exact ih _
  rw [hfold, foldl_update d.macListSlots fun _ => ⟨[], []⟩]

theorem resetIterationState_run (w : World kMaxQueues (Synth NetDevice)) :
    resetIterationState.run w = .ok (Net.resetIterationState.run w) := by
  rw [Net.resetIterationState_run, resetIterationState, total_bind_run, total_bind_run,
    fill_bind_run (by decide), foldl_storeVq, total_bind_run, fill_bind_run (by decide),
    foldl_storeDevice, fill_run (by decide), foldl_storeDevice]
  simp only [foldl_vlanSlots, foldl_macListSlots]
  rfl

end VirtioCrash.Net.Checked
