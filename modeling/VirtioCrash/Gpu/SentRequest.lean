import VirtioCrash.Gpu.Fill
import VirtioCrash.Gpu.RequestFormat
import VirtioCrash.Harness.Submission

/-!
# The request a gpu op sends

The bytes staged where the first descriptor points that an op places. A backing is filled before
the request is staged, below it; the request itself is staged once. An op that publishes sends the
request that `requestOf` gives for the state it finds, and no other typed op sends one.
-/

namespace VirtioCrash.Gpu

open StateProgram Bytes

private theorem requestOf_length {g : GpuDevice} {gpa : UInt64} {op : VirtioOp}
    {vq : Fin kMaxQueues} {req : List UInt8} {respLen : UInt32}
    (hreq : requestOf g gpa op = some (vq, req, respLen)) : req.length ≤ 312 := by
  cases op with
  | common op => cases hreq
  | gpuAttachBacking m =>
      cases hreq
      have hnr := clamp_le_sixteen m.numEntries
      simp only [attachBackingReq, packCtrlHdr, List.length_append, le32_length, le64_length,
        sgEntries_length]
      omega
  | gpuSetFenceState m => cases hreq
  | gpuCreateBlob m =>
      cases hreq
      have hnr := clamp_le_sixteen m.numEntries
      simp only [createBlobReq, packCtrlHdr, List.length_append, le32_length, le64_length,
        sgEntries_length]
      omega
  | hostHotplugScanout m => cases hreq
  | _ =>
      cases hreq
      simp [create2DReq, ridReq, transferReq, flushReq, setScanoutReq, getEdidReq, cursorReq,
        packCtrlHdr, packRect]

/-- Between the two worlds `req` was staged at the pointer of the first, and the first descriptor
placed points there. -/
structure Ships (req : List UInt8) (v w : GpuWorld) : Prop where
  placed : ∃ q p, placements w.hist = [q] ++ p :: placements v.hist ∧ p.addr = v.st.bufAlloc
  stored : ∃ es, w.trace = es ++ .memWrite v.st.bufAlloc req :: v.trace

section Submission

variable {vq : Fin kMaxQueues} {req : List UInt8} {respLen : UInt32} {w : GpuWorld}

private theorem placeChain_placements (vq : Fin kMaxQueues) (req : List UInt8) (respLen : UInt32)
    (reqGpa respGpa : UInt64) (w : GpuWorld) :
    placements ((placeChain vq req respLen reqGpa respGpa).run w).2.hist =
      [⟨vq, respGpa, respLen, true, false⟩] ++
        ⟨vq, reqGpa, UInt32.ofNat req.length, false, true⟩ :: placements w.hist := by
  obtain ⟨es, hfill, -⟩ := fillChunks_stores respGpa zeroChunk respLen respLen.toNat 0 w
  have hrun : ((placeChain vq req respLen reqGpa respGpa).run w).2 =
      ((((fillWith respGpa zeroChunk respLen).run w).2.place vq reqGpa
        (UInt32.ofNat req.length) false true).place vq respGpa respLen true false) := by
    rw [placeChain, run_bind, run_bind, placeDesc_run, placeDesc_run]
  rw [hrun, placements_place, placements_place, fillWith, hfill]
  rfl

private theorem submitCmd_ships (hw : InPool w) (hreq : req.length < 2 ^ 32)
    (hpub : Publishes (w.st.vqs vq) w.st.bufAlloc (UInt32.ofNat req.length) respLen) :
    Ships req w ((submitCmd vq req respLen).run w).2 := by
  have hstaged : ((stageReq req w).bump respLen).trace =
      .memWrite w.st.bufAlloc req :: w.trace := by
    have htake : req.take (UInt32.ofNat req.length).toNat = req := by
      apply List.take_of_length_le
      rw [UInt32.toNat_ofNat', Nat.mod_eq_of_lt hreq]
    change Event.memWrite w.st.bufAlloc (req.take (UInt32.ofNat req.length).toNat) :: w.trace = _
    rw [htake]
  have hchain := within_placeChain vq req respLen w.st.bufAlloc (stageReq req w).st.bufAlloc
    ((stageReq req w).bump respLen) ⟨hpub.1.1, mem_sinceReset_bump respLen (stageReq req w)⟩
  have hplaced := placeChain_placements vq req respLen w.st.bufAlloc
    (stageReq req w).st.bufAlloc ((stageReq req w).bump respLen)
  rw [submitCmd_run vq req respLen w hw hpub]
  generalize ((placeChain vq req respLen w.st.bufAlloc (stageReq req w).st.bufAlloc).run
    ((stageReq req w).bump respLen)).2 = v at hchain hplaced ⊢
  have hturn := within_deviceTurn vq (v.note (.submit vq req))
  constructor
  · refine ⟨⟨vq, (stageReq req w).st.bufAlloc, respLen, true, false⟩,
      ⟨vq, w.st.bufAlloc, UInt32.ofNat req.length, false, true⟩, ?_, rfl⟩
    rw [hturn.placements_eq (by decide)]
    exact hplaced
  · obtain ⟨es, hes⟩ := hchain.trace_grow
    obtain ⟨es', hes'⟩ := hturn.trace_grow
    refine ⟨es' ++ es, ?_⟩
    rw [hes', List.append_assoc, ← hstaged, ← hes]
    rfl

private theorem submitCmd_silent (hw : InPool w)
    (hpub : ¬Publishes (w.st.vqs vq) w.st.bufAlloc (UInt32.ofNat req.length) respLen) :
    placements ((submitCmd vq req respLen).run w).2.hist = placements w.hist := by
  by_cases hready : SubmitReady (w.st.vqs vq)
  · by_cases hfull : PoolFull w.st.bufAlloc (UInt32.ofNat req.length)
    · rw [submitCmd_noRequest vq req respLen w hready hfull]
    · have hresp : PoolFull (bumpNext w.st.bufAlloc (UInt32.ofNat req.length)) respLen := by
        by_contra hfit
        exact hpub ⟨hready, hfull, hfit⟩
      rw [submitCmd_noResponse vq req respLen w hw hready hfull hresp]
      rfl
  · rw [submitCmd_notReady vq req respLen w hready]

end Submission

private theorem firstStored_none {gpa : UInt64} {es : List Event}
    (h : ∀ e ∈ es, ∀ data, e ≠ .memWrite gpa data) : firstStored gpa es = none := by
  rw [firstStored, List.getLast?_eq_none_iff, List.filterMap_eq_nil_iff]
  intro e he
  cases e with
  | memWrite a data =>
      have hne : a ≠ gpa := fun ha => h _ he data (by rw [ha])
      simp only [if_neg hne]
  | _ => rfl

private theorem firstStored_fill {p : UInt64} {total : UInt32} (hp : p ≤ kBufPoolEnd)
    (hfit : ¬PoolFull p total) {es : List Event} (hes : ∀ e ∈ es, StoresIn p total e) :
    firstStored (bumpNext p total) es = none := by
  apply firstStored_none
  rintro e he data rfl
  obtain ⟨off, data', heq, hoff, -⟩ := hes _ he
  have haddr : bumpNext p total = p + off.toUInt64 := (Event.memWrite.inj heq).1
  have hnat := congrArg UInt64.toNat haddr
  have hnext := bumpNext_toNat p total hp
  have hroom := (not_poolFull_iff p total hp).mp hfit
  have hlt := UInt32.lt_iff_toNat_lt.mp hoff
  rw [hnext, UInt64.toNat_add, UInt32.toNat_toUInt64] at hnat
  omega

section Ops

variable {op : VirtioOp} {w : GpuWorld} {vq : Fin kMaxQueues} {req : List UInt8} {respLen : UInt32}

private theorem firstBuffer_submit (hw : InPool w) (f f' : GpuDevice → GpuDevice)
    (hback : backingLen op = none)
    (hreq : requestOf w.st.ext w.st.bufAlloc op = some (vq, req, respLen))
    (hrun : ((dispatch op).run w).2 =
      ((submitCmd vq req respLen).run (w.setExt f)).2.setExt f') :
    firstBuffer (dispatch op) w = if OpPublishes w.st op then some req else none := by
  have hlen := requestOf_length hreq
  have hiff : OpPublishes w.st op ↔
      Publishes (w.st.vqs vq) w.st.bufAlloc (UInt32.ofNat req.length) respLen := by
    rw [OpPublishes, hreq, hback]
  by_cases hpub : OpPublishes w.st op
  · have hships := submitCmd_ships (w := w.setExt f) (hw.of_eq rfl) (by omega) (hiff.mp hpub)
    obtain ⟨q, p, hplaced, haddr⟩ := hships.placed
    obtain ⟨es, hes⟩ := hships.stored
    rw [if_pos hpub]
    apply firstBuffer_of_stored []
    · rw [hrun]
      exact hplaced
    · rw [hrun, haddr]
      exact hes
    · rfl
  · rw [if_neg hpub]
    apply firstBuffer_of_placements_eq
    rw [hrun]
    exact submitCmd_silent (w := w.setExt f) (hw.of_eq rfl) (mt hiff.mpr hpub)

private theorem firstBuffer_backed (hw : InPool w) {total : UInt32} (chunk : List UInt8)
    {reqAt : UInt64 → List UInt8} (f : GpuDevice → GpuDevice) (f' : UInt64 → GpuDevice → GpuDevice)
    (hback : backingLen op = some total)
    (hreq : requestOf w.st.ext w.st.bufAlloc op = some (kCmdVq, reqAt w.st.bufAlloc, 24))
    (hrun : ((dispatch op).run w).2 = ((backedSubmit total chunk reqAt f').run (w.setExt f)).2) :
    firstBuffer (dispatch op) w =
      if OpPublishes w.st op then some (reqAt w.st.bufAlloc) else none := by
  have hwf : InPool (w.setExt f) := hw.of_eq rfl
  have hlen := requestOf_length hreq
  have hiff : OpPublishes w.st op ↔ ¬PoolFull w.st.bufAlloc total ∧
      Publishes (w.st.vqs kCmdVq) (bumpNext w.st.bufAlloc total)
        (UInt32.ofNat (reqAt w.st.bufAlloc).length) 24 := by
    rw [OpPublishes, hreq, hback]
  by_cases hfull : PoolFull w.st.bufAlloc total
  · rw [if_neg fun hpub => (hiff.mp hpub).1 hfull]
    apply firstBuffer_of_placements_eq
    rw [hrun, backedSubmit_full total chunk reqAt f' (w.setExt f) hfull]
    rfl
  · obtain ⟨pre, hfill, hpre⟩ := fillChunks_stores w.st.bufAlloc chunk total
      total.toNat 0 ((w.setExt f).bump total)
    let v : GpuWorld :=
      { (w.setExt f).bump total with trace := pre ++ ((w.setExt f).bump total).trace }
    have hv : InPool v := (hwf.bump hfull).of_eq rfl
    have hbacked : ((dispatch op).run w).2 =
        ((submitCmd kCmdVq (reqAt w.st.bufAlloc) 24).run v).2.setExt (f' w.st.bufAlloc) := by
      rw [hrun, backedSubmit_run total chunk reqAt f' (w.setExt f) hwf hfull, fillWith]
      exact congrArg (fun u => ((submitCmd kCmdVq (reqAt w.st.bufAlloc) 24).run u).2.setExt
        (f' w.st.bufAlloc)) hfill
    by_cases hpub : OpPublishes w.st op
    · have hships := submitCmd_ships (w := v) hv (by omega) (hiff.mp hpub).2
      obtain ⟨q, p, hplaced, haddr⟩ := hships.placed
      obtain ⟨es, hes⟩ := hships.stored
      have hnext : p.addr = bumpNext w.st.bufAlloc total := haddr
      rw [if_pos hpub]
      apply firstBuffer_of_stored pre
      · rw [hbacked]
        exact hplaced
      · rw [hbacked, haddr]
        exact hes
      · rw [hnext]
        exact firstStored_fill hw.le_end hfull hpre
    · rw [if_neg hpub]
      apply firstBuffer_of_placements_eq
      rw [hbacked]
      exact submitCmd_silent hv fun h => hpub (hiff.mpr ⟨hfull, h⟩)

private theorem firstBuffer_idle {A : List Act} (hA : Act.place ∉ A)
    (hsteps : Steps A w ((dispatch op).run w).2) :
    firstBuffer (dispatch op) w = none :=
  firstBuffer_of_placements_eq (hsteps.placements_eq hA)

end Ops

private theorem firstBuffer_dispatch {op : VirtioOp} (hop : asCommon op = none) {w : GpuWorld}
    (hw : InPool w) :
    firstBuffer (dispatch op) w = (published w.st op).head?.map Prod.snd := by
  have hhead {vq : Fin kMaxQueues} {req : List UInt8} {respLen : UInt32}
      (hreq : requestOf w.st.ext w.st.bufAlloc op = some (vq, req, respLen)) :
      (published w.st op).head?.map Prod.snd = if OpPublishes w.st op then some req else none := by
    rw [published, hreq]
    dsimp only
    split
    · rfl
    · rfl
  cases op with
  | common op => cases hop
  | gpuCreate2D m =>
      rw [hhead rfl]
      exact firstBuffer_submit hw (fun g => { g with nextResourceId := g.nextResourceId + 1 })
        (GpuDevice.setResource (resourceSlot m.resourceSlot)
          ⟨w.st.ext.nextResourceId, m.width, m.height, m.format⟩) rfl rfl rfl
  | gpuResourceUnref slotIdx =>
      rw [hhead rfl]
      exact firstBuffer_submit hw id (GpuDevice.setResource (resourceSlot slotIdx) .empty)
        rfl rfl rfl
  | gpuAttachBacking m =>
      have hrun : ((dispatch (.gpuAttachBacking m)).run w).2 = _ :=
        congrArg Prod.snd (opAttachBacking_run m w)
      rw [hhead rfl]
      refine firstBuffer_backed hw _ id _ ?_ ?_ hrun
      · rfl
      · rfl
  | gpuSetFenceState m =>
      exact firstBuffer_idle (by decide)
        (within_modifyExt (A := [.setExt]) (by decide) _ w)
  | gpuCreateBlob m =>
      have hrun : ((dispatch (.gpuCreateBlob m)).run w).2 = _ :=
        congrArg Prod.snd (opCreateBlob_run m w)
      rw [hhead rfl]
      refine firstBuffer_backed hw _ _ _ ?_ ?_ hrun
      · rfl
      · rfl
  | hostHotplugScanout m =>
      exact firstBuffer_idle (by decide)
        (within_opHostHotplugScanout (A := [.event]) (by decide) m w)
  | _ =>
      rw [hhead rfl]
      exact firstBuffer_submit hw id id rfl rfl rfl

theorem requestOf_of_sent {op : VirtioOp} (hop : asCommon op = none) {w : GpuWorld}
    (hw : InPool w) {req : List UInt8} (hsent : firstBuffer (dispatch op) w = some req) :
    ∃ vq respLen, requestOf w.st.ext w.st.bufAlloc op = some (vq, req, respLen) ∧
      OpPublishes w.st op := by
  rw [firstBuffer_dispatch hop hw, published] at hsent
  split at hsent
  · cases hsent
  · rename_i vq req' respLen hreq
    split at hsent
    · rename_i hpub
      cases hsent
      exact ⟨vq, respLen, hreq, hpub⟩
    · cases hsent

end VirtioCrash.Gpu
