import VirtioCrash.Gpu.Harness
import VirtioCrash.Harness.Repeatable

/-!
# The gpu harness is repeatable

Each of its ops, from the state that `reset_iteration_state` makes.
-/

namespace VirtioCrash.Gpu

open StateProgram

private theorem repeatable_fillChunks (gpa : UInt64) (chunk : List UInt8) (total : UInt32)
    (fuel : Nat) (off : UInt32) : Repeatable (fillChunks gpa chunk total fuel off) := by
  induction fuel generalizing off with
  | zero => exact .pure _
  | succ fuel ih =>
      apply Repeatable.ite
      · exact (repeatable_emit _).bind fun _ => ih _
      · exact .pure _

private theorem repeatable_fillWith (gpa : UInt64) (chunk : List UInt8) (total : UInt32) :
    Repeatable (fillWith gpa chunk total) :=
  repeatable_fillChunks gpa chunk total _ 0

private theorem repeatable_submitCmd (vq : Fin kMaxQueues) (req : List UInt8) (respLen : UInt32) :
    Repeatable (submitCmd vq req respLen) := by
  apply repeatable_getState.bind
  intro s
  apply Repeatable.ite (.pure _)
  apply Repeatable.ite (.pure _)
  apply (repeatable_allocGpa _).bind
  intro reqGpa
  apply Repeatable.ite (.pure _)
  apply (repeatable_emit _).bind
  intro _
  apply (repeatable_allocGpa _).bind
  intro respGpa
  apply Repeatable.ite (.pure _)
  apply (repeatable_fillWith _ _ _).bind
  intro _
  apply (repeatable_placeDesc _ _ _ _ _).bind
  intro _
  apply (repeatable_placeDesc _ _ _ _ _).bind
  intro _
  apply (repeatable_note _).bind
  intro _
  apply (repeatable_mmioWritel _ _).bind
  intro _
  apply repeatable_flushEvents.bind
  intro _
  apply repeatable_ackInterrupt.bind
  intro _
  exact .pure _

private theorem repeatable_request (vq : Fin kMaxQueues)
    (req : State kMaxQueues GpuDevice → List UInt8) (respLen : UInt32) :
    Repeatable (getState >>= fun s => submitCmd vq (req s) respLen >>= fun _ => pure ()) :=
  repeatable_getState.bind fun _ => (repeatable_submitCmd _ _ _).bind fun _ => .pure _

private theorem repeatable_backedSubmit (total : UInt32) (chunk : List UInt8)
    (req : UInt64 → List UInt8) (f : UInt64 → GpuDevice → GpuDevice) :
    Repeatable (backedSubmit total chunk req f) := by
  apply (repeatable_allocGpa _).bind
  intro backGpa
  apply Repeatable.ite (.pure _)
  apply (repeatable_fillWith _ _ _).bind
  intro _
  exact (repeatable_submitCmd _ _ _).bind fun _ => repeatable_modifyExt _

private theorem repeatable_opCreate2D (m : GpuResourceCreate2D) : Repeatable (opCreate2D m) := by
  apply repeatable_getState.bind
  intro s
  apply (repeatable_modifyExt _).bind
  intro _
  exact (repeatable_submitCmd _ _ _).bind fun _ => repeatable_modifyExt _

private theorem repeatable_opResourceUnref (slotIdx : UInt32) :
    Repeatable (opResourceUnref slotIdx) := by
  apply repeatable_getState.bind
  intro s
  exact (repeatable_submitCmd _ _ _).bind fun _ => repeatable_modifyExt _

private theorem repeatable_opAttachBacking (m : GpuResourceAttachBacking) :
    Repeatable (opAttachBacking m) :=
  repeatable_getState.bind fun s => repeatable_backedSubmit _ _ (attachBackingReq s.ext _ _ _) _

private theorem repeatable_opCreateBlob (m : GpuResourceCreateBlob) :
    Repeatable (opCreateBlob m) := by
  apply repeatable_getState.bind
  intro s
  apply (repeatable_modifyExt _).bind
  intro _
  exact repeatable_backedSubmit _ _ (fun gpa => createBlobReq s.ext _ _ _ gpa m) _

private theorem repeatable_opHostHotplugScanout (m : HostHotplugScanout) :
    Repeatable (opHostHotplugScanout m) := by
  apply Repeatable.ask (.console (m.consoleIndex &&& 0x7)) (f := fun con => do
    emit (.consoleLookup (m.consoleIndex &&& 0x7) (decide (con ≠ 0)))
    if con = 0 then return
    emit (.consoleResize (m.consoleIndex &&& 0x7) (clampDimension m.width)
      (clampDimension m.height))
    flushEvents)
  intro con
  apply (repeatable_emit _).bind
  intro _
  exact .ite (.pure _) ((repeatable_emit _).bind fun _ => repeatable_flushEvents)

private theorem repeatable_opGuestMemWrite (bufId : UInt32) (data : List UInt8) :
    Repeatable (opGuestMemWrite bufId data) := by
  apply (repeatable_allocGpa _).bind
  intro gpa
  apply Repeatable.ite (.pure _)
  apply Repeatable.ite
  · exact (repeatable_emit _).bind fun _ => repeatable_bindBuf _ _
  · exact repeatable_bindBuf _ _

private theorem repeatable_opVqKick (vqIdx : UInt32) : Repeatable (opVqKick vqIdx) :=
  .ite (.pure _) ((repeatable_mmioWritel _ _).bind fun _ => repeatable_flushEvents)

private theorem repeatable_handlers : handlers.Repeatable where
  configRead := repeatable_opConfigReadWord
  guestMemWrite := repeatable_opGuestMemWrite
  vqAddDesc := repeatable_addDescWith descTarget
  vqKick := repeatable_opVqKick
  vqWaitUsed := repeatable_opVqWaitUsed
  reset := repeatable_reset resetIterationState_run
  mmioCorrupt := repeatable_opMmioCorrupt

theorem repeatable_dispatch (op : VirtioOp) : Repeatable (target.dispatch op) := by
  cases op with
  | common op => exact repeatable_dispatchCommon repeatable_handlers op
  | gpuCreate2D m => exact repeatable_opCreate2D m
  | gpuResourceUnref slotIdx => exact repeatable_opResourceUnref slotIdx
  | gpuAttachBacking m => exact repeatable_opAttachBacking m
  | gpuDetachBacking slotIdx => exact repeatable_request _ _ _
  | gpuTransferToHost slotIdx rect offset => exact repeatable_request _ _ _
  | gpuResourceFlush slotIdx rect => exact repeatable_request _ _ _
  | gpuSetScanout scanoutId slotIdx rect => exact repeatable_request _ _ _
  | gpuGetDisplayInfo => exact repeatable_request _ _ _
  | gpuGetEdid scanoutId => exact repeatable_request _ _ _
  | gpuUpdateCursor m => exact repeatable_request _ _ _
  | gpuMoveCursor m => exact repeatable_request _ _ _
  | gpuSetFenceState m => exact repeatable_modifyExt _
  | gpuCreateBlob m => exact repeatable_opCreateBlob m
  | hostHotplugScanout m => exact repeatable_opHostHotplugScanout m

end VirtioCrash.Gpu
