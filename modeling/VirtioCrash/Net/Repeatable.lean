import VirtioCrash.Net.Harness
import VirtioCrash.Harness.Repeatable

/-!
# The net harness is repeatable

Each of its ops, from the state that `reset_iteration_state` makes.
-/

namespace VirtioCrash.Net

open StateProgram

private theorem repeatable_modifyDevice (f : NetDevice → NetDevice) : Repeatable (modifyDevice f) :=
  repeatable_modifyExt _

private theorem repeatable_opTxPacket (p : TxPacket) : Repeatable (opTxPacket p) := by
  apply repeatable_getState.bind
  intro s
  apply Repeatable.ite (.pure _)
  apply Repeatable.ite (.pure _)
  apply (repeatable_allocBuf _ _).bind
  intro hdrId
  apply Repeatable.ite (.pure _)
  apply (repeatable_allocBuf _ _).bind
  intro payId
  apply Repeatable.ite (.pure _)
  apply (repeatable_placeBuf _ _ _ _).bind
  intro _
  apply (Repeatable.ite (repeatable_placeBuf _ _ _ _) (.pure _)).bind
  intro _
  exact repeatable_notify _

private theorem repeatable_ctrlSubmission (vq : Fin kMaxQueues) (hdr data : List UInt8)
    (len : UInt32) (hasData : Prop) [Decidable hasData] (place : UInt32 → Prop)
    [∀ id, Decidable (place id)] : Repeatable (ctrlSubmission vq hdr data len hasData place) := by
  apply (repeatable_allocBuf _ _).bind
  intro chId
  apply Repeatable.ite (.pure _)
  apply (Repeatable.ite (repeatable_allocBuf _ _) (.pure _)).bind
  intro dId
  apply Repeatable.ite (.pure _)
  apply (repeatable_allocBuf _ _).bind
  intro ackId
  apply Repeatable.ite (.pure _)
  apply (repeatable_placeBuf _ _ _ _).bind
  intro _
  apply (Repeatable.ite (repeatable_placeBuf _ _ _ _) (.pure _)).bind
  intro _
  apply (repeatable_placeBuf _ _ _ _).bind
  intro _
  exact repeatable_notify _

private theorem repeatable_opCtrlCmd (c : CtrlCmd) : Repeatable (opCtrlCmd c) := by
  apply repeatable_getState.bind
  intro s
  apply Repeatable.ite (.pure _)
  exact .ite (.pure _) (repeatable_ctrlSubmission _ _ _ _ _ _)

private theorem repeatable_submitCtrl (vqIdx : UInt32) (vclass cmd : UInt8) (payload : List UInt8) :
    Repeatable (submitCtrl vqIdx vclass cmd payload) := by
  apply Repeatable.dite
  · intro h
    apply repeatable_getState.bind
    intro s
    apply Repeatable.ite (.pure _)
    exact .ite (.pure _) (repeatable_ctrlSubmission _ _ _ _ _ _)
  · intro _
    exact .pure _

private theorem repeatable_onCvq (vclass cmd : UInt8) (payload : List UInt8) :
    Repeatable (cvq >>= fun vq => submitCtrl vq vclass cmd payload) :=
  (repeatable_getState.bind fun _ => .pure _).bind fun _ => repeatable_submitCtrl _ _ _ _

private theorem repeatable_onCvq_then (vclass cmd : UInt8) (payload : List UInt8)
    (f : NetDevice → NetDevice) :
    Repeatable (cvq >>= fun vq => submitCtrl vq vclass cmd payload >>= fun _ => modifyDevice f) :=
  (repeatable_getState.bind fun _ => .pure _).bind fun _ =>
    (repeatable_submitCtrl _ _ _ _).bind fun _ => repeatable_modifyDevice f

private theorem repeatable_opCtrlVlanDel (m : CtrlVlanDel) : Repeatable (opCtrlVlanDel m) := by
  apply repeatable_getState.bind
  intro s
  apply Repeatable.ite
  · exact (repeatable_modifyDevice _).bind fun _ => repeatable_onCvq _ _ _
  · exact repeatable_onCvq _ _ _

private theorem repeatable_handlers : handlers.Repeatable where
  configRead := repeatable_opConfigReadSized
  guestMemWrite := repeatable_opGuestMemWrite
  vqAddDesc := repeatable_addDescWith descTarget
  vqKick := repeatable_opVqKick
  vqWaitUsed := repeatable_opVqWaitUsed
  reset := repeatable_reset resetIterationState_run
  mmioCorrupt := repeatable_opMmioCorrupt

theorem repeatable_dispatch (op : VirtioOp) : Repeatable (target.dispatch op) := by
  cases op with
  | common op => exact repeatable_dispatchCommon repeatable_handlers op
  | txPacket p => exact repeatable_opTxPacket p
  | ctrlCmd c => exact repeatable_opCtrlCmd c
  | ctrlRx cmd enable => exact repeatable_onCvq _ _ _
  | ctrlMacAddrSet mac => exact repeatable_onCvq_then _ _ _ _
  | ctrlMacTableSet m => exact (repeatable_modifyDevice _).bind fun _ => repeatable_onCvq _ _ _
  | ctrlVlanAdd m => exact (repeatable_modifyDevice _).bind fun _ => repeatable_onCvq _ _ _
  | ctrlVlanDel m => exact repeatable_opCtrlVlanDel m
  | ctrlAnnounceAck => exact repeatable_onCvq _ _ _
  | ctrlMqVqPairsSet pairCount => exact repeatable_onCvq_then _ _ _ _
  | ctrlGuestOffloads offloads => exact repeatable_onCvq _ _ _
  | ctrlRssConfig m => exact repeatable_onCvq _ _ _
  | hostSetLink up => exact (repeatable_emit _).bind fun _ => repeatable_flushEvents

end VirtioCrash.Net
