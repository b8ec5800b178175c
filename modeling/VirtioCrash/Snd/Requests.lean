import VirtioCrash.Snd.ResponseSize
import VirtioCrash.Targets.RequestChannels

/-!
# The requests of a sound run

A control request and a transfer are each an out and an in buffer: the control requests on the
control queue, the transfers on the TX or the RX queue.
-/

namespace VirtioCrash.Snd

open StateProgram Bytes

/-- The buffers of a transfer: samples on the TX queue, room for some on the RX queue. -/
def xferLoads (x : SndPcmXfer) : List Load :=
  if xferVq x.vqIdx = 2 then
    outInLoads (le32 x.streamId ++ x.samples.take 4096) (List.replicate 28 0)
  else
    outInLoads (le32 x.streamId) (List.replicate (xferInLen x.inLen).toNat 0)

def say : VirtioOp → Option (Envelope kMaxQueues)
  | .common _ => none
  | .sndCtrl c => (ctrlCall c.cmd).map fun call =>
      ⟨ctrlVq c.vqIdx, 3, outInLoads (ctrlOut call) (List.replicate (ctrlInLen call.inLen).toNat 0)⟩
  | .sndPcmXfer x => some ⟨xferVq x.vqIdx, 4, xferLoads x⟩

private theorem whole_xferLoads (x : SndPcmXfer) : Whole (xferLoads x) := by
  have hsamples := List.length_take_le 4096 x.samples
  rw [xferLoads]
  split
  · apply whole_outIn
    · rw [List.length_append, le32_length]
      omega
    · rw [List.length_replicate]
      omega
  · apply whole_outIn
    · rw [le32_length]
      omega
    · rw [List.length_replicate]
      exact (xferInLen x.inLen).toNat_lt

private theorem delivered_submitBufs (vq : Fin kMaxQueues) (out inBuf : List UInt8)
    {w : World kMaxQueues (Synth Unit)} (hno : NoZero w 2) :
    Post (submitBufs vq out inBuf) (fun _ w' => w' = w.delivered vq (outInLoads out inBuf)) w :=
  delivered_reqResp vq out inBuf _ _ hno

private theorem xferLoads_length (x : SndPcmXfer) : (xferLoads x).length = 2 := by
  rw [xferLoads]
  split
  · rfl
  · rfl

private theorem submitted_submitPcmXfer (x : SndPcmXfer) {w : World kMaxQueues (Synth Unit)}
    (hno : NoZero w 2) :
    ((submitPcmXfer x).run w).2 = w.submitted 4 (xferVq x.vqIdx) (xferLoads x) := by
  apply submitted_guarded
  intro _
  rw [xferLoads]
  split
  · exact delivered_submitBufs _ _ _ hno
  · exact delivered_submitBufs _ _ _ hno

private theorem speaks : target.Speaks asCommon say where
  confined := confined
  reset := rfl
  common := by
    refine ⟨handlers, ⟨rfl, _, rfl⟩, ?_⟩
    intro op c hc
    cases op with
    | common op => cases hc; rfl
    | _ => cases hc
  mute op c hc := by
    cases op with
    | common op => rfl
    | _ => cases hc
  speaks op msg hmsg w hno := by
    cases op with
    | common op => cases hmsg
    | sndCtrl c =>
        obtain ⟨call, hcall, rfl⟩ := Option.map_eq_some_iff.mp hmsg
        change ((submitSndCtrl c).run w).2 = _
        rw [submitSndCtrl, hcall]
        exact submitted_guarded fun _ => delivered_submitBufs _ _ _ hno
    | sndPcmXfer x =>
        cases hmsg
        rw [xferLoads_length] at hno
        exact submitted_submitPcmXfer x hno
  whole op msg hmsg := by
    cases op with
    | common op => cases hmsg
    | sndCtrl c =>
        obtain ⟨call, hcall, rfl⟩ := Option.map_eq_some_iff.mp hmsg
        have hout := ctrlOut_length c.cmd call hcall
        apply whole_outIn
        · omega
        · rw [List.length_replicate]
          exact (ctrlInLen call.inLen).toNat_lt
    | sndPcmXfer x => cases hmsg; exact whole_xferLoads x
  few op msg hmsg := by
    cases op with
    | common op => cases hmsg
    | sndCtrl c =>
        obtain ⟨call, -, rfl⟩ := Option.map_eq_some_iff.mp hmsg
        exact ⟨(by decide : 2 ≤ 3), (by decide : 3 ≤ 8)⟩
    | sndPcmXfer x =>
        cases hmsg
        exact ⟨(xferLoads_length x).trans_le (by decide : 2 ≤ 4), (by decide : 4 ≤ 8)⟩
  silent op hc hmsg := by
    cases op with
    | common op => cases hc
    | sndCtrl c =>
        change submitSndCtrl c = _
        rw [submitSndCtrl, Option.map_eq_none_iff.mp hmsg]
    | sndPcmXfer x => cases hmsg

private theorem answerable {op : VirtioOp} {msg : Envelope kMaxQueues} (hmsg : say op = some msg) :
    Answerable msg.loads := by
  cases op with
  | common op => cases hmsg
  | sndCtrl c =>
      obtain ⟨call, -, rfl⟩ := Option.map_eq_some_iff.mp hmsg
      exact answerable_outIn _ _
  | sndPcmXfer x =>
      cases hmsg
      change Answerable (xferLoads x)
      rw [xferLoads]
      split
      · exact answerable_outIn _ _
      · exact answerable_outIn _ _

theorem requests (i : Fin kMaxQueues) : target.Requests asCommon say i :=
  speaks.requests (by decide) fun _ _ hmsg _ => answerable hmsg

end VirtioCrash.Snd
