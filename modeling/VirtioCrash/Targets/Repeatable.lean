import VirtioCrash.Balloon.Harness
import VirtioCrash.Blk.Harness
import VirtioCrash.Console.Harness
import VirtioCrash.Fs.Harness
import VirtioCrash.Gpu.Repeatable
import VirtioCrash.Harness.Iteration
import VirtioCrash.Input.Harness
import VirtioCrash.Net.Repeatable
import VirtioCrash.Scsi.Harness
import VirtioCrash.Snd.Harness
import VirtioCrash.Vsock.Harness

/-!
# All targets are repeatable

Each op of each target, from the state that its reset makes.
-/

namespace VirtioCrash

open StateProgram

variable {n : Nat} {ξ η : Type}

private theorem Repeatable.guarded {m : Harness n ξ Unit} (i : Fin n) (k : UInt32)
    (hm : VirtioCrash.Repeatable m) : VirtioCrash.Repeatable (do
      let s ← getState
      if (s.vqs i).size = 0 then return
      if (s.vqs i).nextDescIdx + k ≥ (s.vqs i).size then return
      m : Harness n ξ Unit) :=
  repeatable_getState.bind fun _ => .ite (.pure _) (.ite (.pure _) hm)

private theorem repeatable_lone (i : Fin n) (bytes : List UInt8) (len : UInt32)
    (deviceWritable : Bool) :
    Repeatable (do
      let id ← allocBuf bytes len
      if id = 0 then return
      let _ ← placeBuf i id deviceWritable false
      notify i : Harness n (Synth η) Unit) := by
  apply (repeatable_allocBuf bytes len).bind
  intro id
  apply Repeatable.ite (.pure _)
  exact (repeatable_placeBuf _ _ _ _).bind fun _ => repeatable_notify i

private theorem repeatable_reqResp (i : Fin n) (req resp : List UInt8) (reqLen respLen : UInt32) :
    Repeatable (do
      let reqId ← allocBuf req reqLen
      if reqId = 0 then return
      let respId ← allocBuf resp respLen
      if respId = 0 then return
      let _ ← placeBuf i reqId false true
      let _ ← placeBuf i respId true false
      notify i : Harness n (Synth η) Unit) := by
  apply (repeatable_allocBuf req reqLen).bind
  intro reqId
  apply Repeatable.ite (.pure _)
  apply (repeatable_allocBuf resp respLen).bind
  intro respId
  apply Repeatable.ite (.pure _)
  apply (repeatable_placeBuf _ _ _ _).bind
  intro _
  exact (repeatable_placeBuf _ _ _ _).bind fun _ => repeatable_notify i

namespace Blk

private theorem opVqAddDesc_eq_addDescWith (d : VqAddDesc) :
    opVqAddDesc d = addDescWith descTarget d := by
  funext w
  exact (opVqAddDesc_run d w).trans (addDescWith_run descTarget d w).symm

theorem repeatable : target.Repeatable where
  dispatch op := by
    apply repeatable_dispatchCommon
    constructor
    · exact repeatable_opConfigReadSized
    · exact repeatable_opGuestMemWrite
    · intro d
      change Repeatable (opVqAddDesc d)
      rw [opVqAddDesc_eq_addDescWith]
      exact repeatable_addDescWith descTarget d
    · exact repeatable_opVqKick
    · exact repeatable_opVqWaitUsed
    · exact repeatable_reset (x := ()) resetCommon_run
    · exact repeatable_opMmioCorrupt
  reset := ⟨(), resetCommon_run⟩

end Blk

theorem Net.repeatable : Net.target.Repeatable where
  dispatch := Net.repeatable_dispatch
  reset := ⟨_, Net.resetIterationState_run⟩

theorem Gpu.repeatable : Gpu.target.Repeatable where
  dispatch := Gpu.repeatable_dispatch
  reset := ⟨_, Gpu.resetIterationState_run⟩

namespace Scsi

private theorem repeatable_submitScsiCmd (c : ScsiCmd) : Repeatable (submitScsiCmd c) := by
  apply repeatable_getState.bind
  intro s
  apply Repeatable.ite (.pure _)
  apply Repeatable.ite (.pure _)
  apply (repeatable_allocBuf _ _).bind
  intro reqId
  apply Repeatable.ite (.pure _)
  apply (Repeatable.ite (repeatable_allocBuf _ _) (.pure _)).bind
  intro outId
  apply Repeatable.ite (.pure _)
  apply (repeatable_allocBuf _ _).bind
  intro respId
  apply Repeatable.ite (.pure _)
  apply (Repeatable.ite (repeatable_allocBuf _ _) (.pure _)).bind
  intro inId
  apply Repeatable.ite (.pure _)
  apply (repeatable_placeBuf _ _ _ _).bind
  intro _
  apply (Repeatable.ite (repeatable_placeBuf _ _ _ _) (.pure _)).bind
  intro _
  apply (repeatable_placeBuf _ _ _ _).bind
  intro _
  apply (Repeatable.ite (repeatable_placeBuf _ _ _ _) (.pure _)).bind
  intro _
  exact repeatable_notify _

private theorem repeatable_opMmioCorrupt (offset value size : UInt32) :
    Repeatable (opMmioCorrupt offset value size) :=
  .ite (repeatable_emit _) (.ite (repeatable_emit _) (repeatable_emit _))

private theorem repeatable_handlers : handlers.Repeatable where
  configRead := repeatable_opConfigReadWord
  guestMemWrite := repeatable_opGuestMemWrite
  vqAddDesc := repeatable_addDescWith descTarget
  vqKick _ := repeatable_mmioWritel _ _
  vqWaitUsed _ := repeatable_flushEvents
  reset := repeatable_reset resetIterationState_run
  mmioCorrupt := repeatable_opMmioCorrupt

theorem repeatable : target.Repeatable where
  dispatch op := by
    cases op with
    | common op => exact repeatable_dispatchCommon repeatable_handlers op
    | scsiCmd c => exact repeatable_submitScsiCmd c
    | tmfReq m => exact .guarded _ _ (repeatable_reqResp _ _ _ _ _)
    | anReq m => exact .guarded _ _ (repeatable_reqResp _ _ _ _ _)
  reset := ⟨_, resetIterationState_run⟩

end Scsi

namespace Snd

private theorem repeatable_handlers : handlers.Repeatable where
  configRead := repeatable_opConfigReadWord
  guestMemWrite := repeatable_opGuestMemWrite
  vqAddDesc := repeatable_addDescWith descTarget
  vqKick _ := repeatable_mmioWritel _ _
  vqWaitUsed _ := repeatable_flushEvents
  reset := repeatable_reset resetIterationState_run
  mmioCorrupt _ _ _ := repeatable_mmioWritel _ _

private theorem repeatable_submitSndCtrl (c : SndCtrl) : Repeatable (submitSndCtrl c) := by
  rw [submitSndCtrl]
  cases ctrlCall c.cmd with
  | some call => exact .guarded _ _ (repeatable_reqResp _ _ _ _ _)
  | none => exact .pure _

private theorem repeatable_submitPcmXfer (x : SndPcmXfer) : Repeatable (submitPcmXfer x) :=
  .guarded _ _ (.ite (repeatable_reqResp _ _ _ _ _) (repeatable_reqResp _ _ _ _ _))

theorem repeatable : target.Repeatable where
  dispatch op := by
    cases op with
    | common op => exact repeatable_dispatchCommon repeatable_handlers op
    | sndCtrl c => exact repeatable_submitSndCtrl c
    | sndPcmXfer x => exact repeatable_submitPcmXfer x
  reset := ⟨_, resetIterationState_run⟩

end Snd

namespace Plain

private theorem repeatable_handlers : (handlers (n := n)).Repeatable where
  configRead := repeatable_opConfigReadWord
  guestMemWrite := repeatable_opGuestMemWrite
  vqAddDesc := repeatable_addDescWith descTarget
  vqKick _ := repeatable_mmioWritel _ _
  vqWaitUsed _ := repeatable_flushEvents
  reset := repeatable_reset resetIterationState_run
  mmioCorrupt _ _ _ := repeatable_mmioWritel _ _

private theorem repeatable_submitBuf (i : Fin n) (buf : List UInt8) (len : UInt32)
    (deviceWritable : Bool) : Repeatable (submitBuf i buf len deviceWritable) :=
  .guarded i 1 (repeatable_lone i buf len deviceWritable)

end Plain

theorem Balloon.repeatable : Balloon.target.Repeatable where
  dispatch op := by
    cases op with
    | common op => exact repeatable_dispatchCommon Plain.repeatable_handlers op
    | inflate pfns => exact .guarded _ _ (repeatable_lone _ _ _ _)
    | deflate pfns => exact .guarded _ _ (repeatable_lone _ _ _ _)
    | stats entries => exact .guarded _ _ (repeatable_lone _ _ _ _)
    | freePage cmdId => exact .guarded _ _ (repeatable_lone _ _ _ _)
  reset := ⟨_, Plain.resetIterationState_run⟩

theorem Console.repeatable : Console.target.Repeatable where
  dispatch op := by
    cases op with
    | common op => exact repeatable_dispatchCommon Plain.repeatable_handlers op
    | txData m => exact .dite (fun _ => Plain.repeatable_submitBuf _ _ _ _) fun _ => .pure _
    | rxBuf m => exact .dite (fun _ => Plain.repeatable_submitBuf _ _ _ _) fun _ => .pure _
    | ctrlMsg m => exact Plain.repeatable_submitBuf _ _ _ _
  reset := ⟨_, Plain.resetIterationState_run⟩

theorem Input.repeatable : Input.target.Repeatable where
  dispatch op := by
    cases op with
    | common op => exact repeatable_dispatchCommon Plain.repeatable_handlers op
    | statusEvent m => exact Plain.repeatable_submitBuf _ _ _ _
    | eventBuf size => exact Plain.repeatable_submitBuf _ _ _ _
  reset := ⟨_, Plain.resetIterationState_run⟩

theorem Vsock.repeatable : Vsock.target.Repeatable where
  dispatch op := by
    cases op with
    | common op => exact repeatable_dispatchCommon Plain.repeatable_handlers op
    | vsockTx pkt => exact .guarded _ _ (repeatable_lone _ _ _ _)
    | vsockRxBuf size => exact .guarded _ _ (repeatable_lone _ _ _ _)
  reset := ⟨_, Plain.resetIterationState_run⟩

theorem Fs.repeatable : Fs.target.Repeatable where
  dispatch op := by
    cases op with
    | common op => exact repeatable_dispatchCommon Plain.repeatable_handlers op
    | fuseRequest r => exact .guarded _ _ (repeatable_reqResp _ _ _ _ _)
    | fuseHpReq m => exact .guarded _ _ (repeatable_lone _ _ _ _)
  reset := ⟨_, Plain.resetIterationState_run⟩

end VirtioCrash
