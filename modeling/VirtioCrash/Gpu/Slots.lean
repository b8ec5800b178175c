import Mathlib.Data.UInt
import VirtioCrash.Gpu.Submission
import VirtioCrash.Lib.SlotTable

/-!
# The resource slots of the gpu harness

The log of the CREATE_2D, CREATE_BLOB and UNREF requests a run published on the control queue, read
off the requests alone, against the slot table the harness keeps.
-/

namespace VirtioCrash.Gpu

open StateProgram Bytes SlotTable

abbrev SlotEvent := SlotTable.Event (Fin kResourceSlots) UInt32

def reqType (req : List UInt8) : Nat := ofLe (slice req 0 4)

def reqRid (req : List UInt8) : UInt32 := UInt32.ofNat (ofLe (slice req 24 4))

private theorem packCtrlHdr_length (g : GpuDevice) (type : UInt32) :
    (packCtrlHdr g type).length = 24 := by
  simp [packCtrlHdr]

private theorem reqType_packCtrlHdr (g : GpuDevice) (type : UInt32) (body : List UInt8) :
    reqType (packCtrlHdr g type ++ body) = type.toNat := by
  have hfirst := slice_zero_append (le32 type)
    (le32 (if g.fenceEnabled then flagFence else 0) ++
      le64 (if g.fenceEnabled then g.fenceId else 0) ++
      le32 (if g.fenceEnabled then g.fenceCtxId else 0) ++ le32 0 ++ body)
  simp only [le32_length] at hfirst
  simp only [reqType, packCtrlHdr, List.append_assoc] at hfirst ⊢
  rw [hfirst, ofLe_le32]

theorem reqRid_packCtrlHdr (g : GpuDevice) (type rid : UInt32) (body : List UInt8) :
    reqRid (packCtrlHdr g type ++ (le32 rid ++ body)) = rid := by
  have hlen := packCtrlHdr_length g type
  have hfirst := slice_zero_append (le32 rid) body
  rw [le32_length] at hfirst
  rw [reqRid, slice_append_right _ _ _ _ hlen.le, hlen, hfirst, ofLe_le32, UInt32.ofNat_toNat]

/-- What a published request means for the resources; `slot` is the one its command names. -/
def slotEventOf (slot : Option (Fin kResourceSlots)) (p : Nat × List UInt8) : Option SlotEvent :=
  if p.1 ≠ kCmdVq then none
  else if reqType p.2 = cmdResourceCreate2D.toNat ∨ reqType p.2 = cmdResourceCreateBlob.toNat then
    slot.map fun s => .create s (reqRid p.2)
  else if reqType p.2 = cmdResourceUnref.toNat then some (.release (reqRid p.2))
  else none

/-- The slot a creating command names. -/
def createSlot : VirtioOp → Option (Fin kResourceSlots)
  | .gpuCreate2D m => some (resourceSlot m.resourceSlot)
  | .gpuCreateBlob m => some (resourceSlot m.resourceSlot)
  | _ => none

/-- The resource requests that the dispatch of an op published, newest first. -/
def newEvents (op : VirtioOp) (w w' : World kMaxQueues GpuDevice) : List SlotEvent :=
  ((submissions w'.hist).take
    ((submissions w'.hist).length - (submissions w.hist).length)).filterMap
      (slotEventOf (createSlot op))

/-- The resource requests published since the last reset, newest first, after more ops. -/
def slotLog : List VirtioOp → World kMaxQueues GpuDevice → List SlotEvent → List SlotEvent
  | [], _, log => log
  | op :: ops, w, log =>
      let w' := ((dispatch op).run w).2
      slotLog ops w' (if asCommon op = some .reset then [] else newEvents op w w' ++ log)

/-- The slot update of the op goes with a request that is published, and an id that is released is
in no other slot. -/
def UpdateSent (st : State kMaxQueues GpuDevice) : VirtioOp → Prop
  | .gpuCreate2D m => OpPublishes st (.gpuCreate2D m)
  | .gpuCreateBlob m =>
      ¬PoolFull st.bufAlloc (clamp m.numEntries 1 16 * clamp m.entrySize 16 4096) →
        OpPublishes st (.gpuCreateBlob m)
  | .gpuResourceUnref slotIdx =>
      st.ext.rid (resourceSlot slotIdx) ≠ 0 →
        OpPublishes st (.gpuResourceUnref slotIdx) ∧
          ∀ t, t ≠ resourceSlot slotIdx → st.ext.rid t ≠ st.ext.rid (resourceSlot slotIdx)
  | _ => True

instance (st : State kMaxQueues GpuDevice) (op : VirtioOp) : Decidable (UpdateSent st op) := by
  cases op with
  | gpuCreate2D m => exact inferInstanceAs (Decidable (OpPublishes st (.gpuCreate2D m)))
  | gpuCreateBlob m => exact inferInstanceAs (Decidable (_ → _))
  | gpuResourceUnref slotIdx => exact inferInstanceAs (Decidable (_ → _ ∧ _))
  | _ => exact isTrue trivial

private theorem newEvents_eq {op : VirtioOp} {w w' : World kMaxQueues GpuDevice}
    (h : Accounted op w w') :
    newEvents op w w' = (published w.st op).filterMap (slotEventOf (createSlot op)) := by
  have hlen : (submissions w'.hist).length - (submissions w.hist).length =
      (published w.st op).length := by
    rw [h.submits, List.length_append]
    omega
  rw [newEvents, hlen, h.submits, List.take_left]

theorem rid_setResource (g : GpuDevice) (slot : Fin kResourceSlots) (r : ResourceSlot) :
    (g.setResource slot r).rid = Function.update g.rid slot r.resourceId := by
  funext t
  by_cases ht : t = slot
  · subst ht
    simp [GpuDevice.setResource, GpuDevice.rid]
  · simp [GpuDevice.setResource, GpuDevice.rid, ht]

private theorem slotEventOf_create (slot : Fin kResourceSlots) (g : GpuDevice) {type : UInt32}
    (htype : type = cmdResourceCreate2D ∨ type = cmdResourceCreateBlob) (rid : UInt32)
    (body : List UInt8) :
    slotEventOf (some slot) (kCmdVq.val, packCtrlHdr g type ++ (le32 rid ++ body)) =
      some (.create slot rid) := by
  have hcode : type.toNat = cmdResourceCreate2D.toNat ∨ type.toNat = cmdResourceCreateBlob.toNat :=
    htype.imp (congrArg _) (congrArg _)
  simp only [slotEventOf, reqType_packCtrlHdr, reqRid_packCtrlHdr, ne_eq, not_true_eq_false,
    if_false, if_pos hcode, Option.map_some]

private theorem slotEventOf_create2D (slot : Fin kResourceSlots) (g : GpuDevice) (rid : UInt32)
    (m : GpuResourceCreate2D) :
    slotEventOf (some slot) (kCmdVq.val, create2DReq g rid m) = some (.create slot rid) := by
  simp only [create2DReq, List.append_assoc]
  exact slotEventOf_create slot g (.inl rfl) rid _

private theorem slotEventOf_createBlob (slot : Fin kResourceSlots) (g : GpuDevice)
    (rid nr esz : UInt32) (gpa : UInt64) (m : GpuResourceCreateBlob) :
    slotEventOf (some slot) (kCmdVq.val, createBlobReq g rid nr esz gpa m) =
      some (.create slot rid) := by
  simp only [createBlobReq, List.append_assoc]
  exact slotEventOf_create slot g (.inr rfl) rid _

private theorem slotEventOf_unref (slot : Option (Fin kResourceSlots)) (g : GpuDevice)
    (rid : UInt32) :
    slotEventOf slot (kCmdVq.val, ridReq g cmdResourceUnref rid) = some (.release rid) := by
  simp only [slotEventOf, ridReq, reqType_packCtrlHdr, reqRid_packCtrlHdr, ne_eq,
    not_true_eq_false, if_false]
  rfl

private theorem slotEventOf_other (slot : Option (Fin kResourceSlots)) (vq : Nat) (g : GpuDevice)
    {type : UInt32} (body : List UInt8) (h2d : type ≠ cmdResourceCreate2D)
    (hblob : type ≠ cmdResourceCreateBlob) (hunref : type ≠ cmdResourceUnref) :
    slotEventOf slot (vq, packCtrlHdr g type ++ body) = none := by
  have hne {t : UInt32} (h : type ≠ t) : type.toNat ≠ t.toNat :=
    fun he => h (UInt32.toNat_inj.mp he)
  simp only [slotEventOf, reqType_packCtrlHdr, hne h2d, hne hblob, hne hunref, or_self, if_false,
    ite_self]

section TracksOp

variable {st : State kMaxQueues GpuDevice} {op : VirtioOp}

private theorem published_eq {vq : Fin kMaxQueues} {req : List UInt8} {respLen : UInt32}
    (hreq : requestOf st.ext st.bufAlloc op = some (vq, req, respLen)) :
    published st op = if OpPublishes st op then [(vq.val, req)] else [] := by
  rw [published, hreq]

variable (slot : Option (Fin kResourceSlots))

private theorem events_other {vq : Fin kMaxQueues} {type : UInt32} {body : List UInt8}
    {respLen : UInt32} {g : GpuDevice}
    (hreq : requestOf st.ext st.bufAlloc op = some (vq, packCtrlHdr g type ++ body, respLen))
    (h2d : type ≠ cmdResourceCreate2D) (hblob : type ≠ cmdResourceCreateBlob)
    (hunref : type ≠ cmdResourceUnref) :
    (published st op).filterMap (slotEventOf slot) = [] := by
  rw [published_eq hreq]
  split
  · rw [List.filterMap_cons, slotEventOf_other slot vq g body h2d hblob hunref]
    rfl
  · rfl

private theorem events_single {vq : Fin kMaxQueues} {req : List UInt8} {respLen : UInt32}
    {e : SlotEvent} (hreq : requestOf st.ext st.bufAlloc op = some (vq, req, respLen))
    (hpub : OpPublishes st op) (he : slotEventOf slot (vq.val, req) = some e) :
    (published st op).filterMap (slotEventOf slot) = [e] := by
  rw [published_eq hreq, if_pos hpub, List.filterMap_cons, he]
  rfl

end TracksOp

private theorem tracks_other {st : State kMaxQueues GpuDevice} {op : VirtioOp} {vq : Fin kMaxQueues}
    {type : UInt32} {body : List UInt8} {respLen : UInt32} {g : GpuDevice}
    (hreq : requestOf st.ext st.bufAlloc op = some (vq, packCtrlHdr g type ++ body, respLen))
    (h2d : type ≠ cmdResourceCreate2D) (hblob : type ≠ cmdResourceCreateBlob)
    (hunref : type ≠ cmdResourceUnref) (hrid : (extAfter st op).rid = st.ext.rid)
    {log : List SlotEvent} (h : Tracks log st.ext.rid) :
    Tracks ((published st op).filterMap (slotEventOf (createSlot op)) ++ log)
      (extAfter st op).rid := by
  rw [events_other _ hreq h2d hblob hunref, hrid]
  exact h

private theorem tracks_op {st : State kMaxQueues GpuDevice} {op : VirtioOp}
    (hsent : UpdateSent st op) {log : List SlotEvent} (h : Tracks log st.ext.rid) :
    Tracks ((published st op).filterMap (slotEventOf (createSlot op)) ++ log)
      (extAfter st op).rid := by
  cases op with
  | common op => exact h
  | gpuCreate2D m =>
      have hpub : OpPublishes st (.gpuCreate2D m) := hsent
      have hevents := events_single (createSlot (.gpuCreate2D m)) rfl hpub
        (slotEventOf_create2D (resourceSlot m.resourceSlot) st.ext st.ext.nextResourceId m)
      rw [hevents, extAfter, rid_setResource]
      exact h.create _ _
  | gpuResourceUnref slotIdx =>
      rw [extAfter, rid_setResource]
      by_cases hrid : st.ext.rid (resourceSlot slotIdx) = 0
      · have hheld : Function.update st.ext.rid (resourceSlot slotIdx) 0 = st.ext.rid := by
          rw [← hrid]
          exact Function.update_eq_self _ _
        change Tracks _ (Function.update st.ext.rid (resourceSlot slotIdx) 0)
        rw [hheld]
        by_cases hpub : OpPublishes st (.gpuResourceUnref slotIdx)
        · rw [events_single _ rfl hpub (slotEventOf_unref _ _ _), hrid]
          exact h.release_zero
        · rw [published_eq rfl, if_neg hpub]
          exact h
      · obtain ⟨hpub, hunique⟩ := hsent hrid
        rw [events_single _ rfl hpub (slotEventOf_unref _ _ _)]
        exact h.release_of_unique _ hunique
  | gpuAttachBacking m =>
      have hrid : (extAfter st (.gpuAttachBacking m)).rid = st.ext.rid := by
        simp only [extAfter]
        split
        · rfl
        · rfl
      exact tracks_other rfl (by decide) (by decide) (by decide) hrid h
  | gpuDetachBacking slotIdx =>
      exact tracks_other rfl (by decide) (by decide) (by decide) rfl h
  | gpuTransferToHost slotIdx rect offset =>
      exact tracks_other rfl (by decide) (by decide) (by decide) rfl h
  | gpuResourceFlush slotIdx rect =>
      exact tracks_other rfl (by decide) (by decide) (by decide) rfl h
  | gpuSetScanout scanoutId slotIdx rect =>
      exact tracks_other rfl (by decide) (by decide) (by decide) rfl h
  | gpuGetDisplayInfo =>
      have hreq : requestOf st.ext st.bufAlloc .gpuGetDisplayInfo =
          some (kCmdVq, packCtrlHdr st.ext cmdGetDisplayInfo ++ [], 24 + 16 * 24) := by
        rw [List.append_nil]
        rfl
      exact tracks_other hreq (by decide) (by decide) (by decide) rfl h
  | gpuGetEdid scanoutId =>
      exact tracks_other rfl (by decide) (by decide) (by decide) rfl h
  | gpuUpdateCursor m =>
      exact tracks_other rfl (by decide) (by decide) (by decide) rfl h
  | gpuMoveCursor m =>
      exact tracks_other rfl (by decide) (by decide) (by decide) rfl h
  | gpuSetFenceState m => exact h
  | gpuCreateBlob m =>
      by_cases hfull : PoolFull st.bufAlloc (clamp m.numEntries 1 16 * clamp m.entrySize 16 4096)
      · have hpub : ¬OpPublishes st (.gpuCreateBlob m) := fun hp => hp.1 hfull
        rw [published_eq rfl, if_neg hpub, extAfter, if_pos hfull]
        exact h
      · have hevents := events_single (createSlot (.gpuCreateBlob m)) rfl (hsent hfull)
          (slotEventOf_createBlob (resourceSlot m.resourceSlot) st.ext st.ext.nextResourceId
            _ _ _ m)
        rw [hevents, extAfter, if_neg hfull, rid_setResource]
        exact h.create _ _
  | hostHotplugScanout m => exact h

private theorem tracks_dispatch (op : VirtioOp) (w : World kMaxQueues GpuDevice) (hpool : InPool w)
    (hsent : UpdateSent w.st op) {log : List SlotEvent} (h : Tracks log w.st.ext.rid) :
    Tracks (if asCommon op = some .reset then [] else
        newEvents op w ((dispatch op).run w).2 ++ log)
      ((dispatch op).run w).2.st.ext.rid := by
  by_cases hop : asCommon op = some .reset
  · rw [if_pos hop]
    cases op with
    | common op => cases hop; exact Tracks.empty
    | _ => cases hop
  · have hacc := dispatch_accounted op w hpool hop
    rw [if_neg hop, newEvents_eq hacc, hacc.ext]
    exact tracks_op hsent h

private theorem tracks_slotLog (ops : List VirtioOp) {w : World kMaxQueues GpuDevice}
    (hpool : PoolInv (kBufPoolBase kMaxQueues).toNat w)
    (hsent : EveryOp target (fun w => UpdateSent w.st) ops w) {log : List SlotEvent}
    (h : Tracks log w.st.ext.rid) :
    Tracks (slotLog ops w log) (dispatchAll target ops w).st.ext.rid := by
  induction ops generalizing w log with
  | nil => exact h
  | cons op ops ih =>
      have hnext := confined.dispatch_keeps (poolInv_afterReset (by decide))
        (fun _ _ _ hs hw => hw.step hs) op w hpool
      exact ih hnext hsent.2 (tracks_dispatch op w (inPool_of_poolInv hpool (by decide)) hsent.1 h)

/-- While every slot update goes with a published request, the slots of every run from a reset hold
what the published requests say. -/
theorem slots_track_published (ops : List VirtioOp) (w : World kMaxQueues GpuDevice)
    (hsent : EveryOp target (fun w => UpdateSent w.st) ops (resetIterationState.run w).2) :
    Tracks (slotLog ops (resetIterationState.run w).2 [])
      (runFromReset target ops w).st.ext.rid := by
  have hpool := confined.poolInv (by decide) [] w
  exact tracks_slotLog ops hpool hsent Tracks.empty

theorem slots_track_published_after_setup :
    Tracks
      (slotLog [.common (.vqSetup 0 8), .gpuCreate2D ⟨3, 1, 64, 64⟩, .gpuResourceUnref 3]
        (resetIterationState.run ⟨fun _ _ => 8, [], threadBState target, []⟩).2 [])
      (runFromReset target
        [.common (.vqSetup 0 8), .gpuCreate2D ⟨3, 1, 64, 64⟩, .gpuResourceUnref 3]
        ⟨fun _ _ => 8, [], threadBState target, []⟩).st.ext.rid :=
  slots_track_published _ _ (by decide)

/-- Without a queue the request is dropped, and the slot takes its id all the same. -/
theorem slot_filled_without_request :
    ¬∀ (ops : List VirtioOp) (w : World kMaxQueues GpuDevice),
      Tracks (slotLog ops (resetIterationState.run w).2 [])
        (runFromReset target ops w).st.ext.rid := by
  intro h
  have htracks := h [.gpuCreate2D ⟨3, 1, 64, 64⟩] ⟨fun _ _ => 8, [], threadBState target, []⟩
  obtain ⟨newer, older, hlog, -⟩ := htracks.sent 3 (by decide)
  have hempty : slotLog [.gpuCreate2D ⟨3, 1, 64, 64⟩] (resetIterationState.run
      ⟨fun _ _ => 8, [], threadBState target, []⟩).2 [] = [] := by decide
  rw [hempty] at hlog
  simp at hlog

end VirtioCrash.Gpu
