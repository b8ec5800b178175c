import VirtioCrash.Gpu.Harness

/-!
# What a gpu command allocates and publishes

`submit_cmd` drops a request when the queue is not set up, when the ring is full and when the pool
is exhausted, each at another point. `dispatch_accounted` says what every op then has allocated,
published and left in the slot tables.
-/

namespace VirtioCrash.Gpu

open StateProgram Bytes BumpAllocator

/-- The bump pointer is where a reset and the allocations after it can have put it; 0, which
`alloc_gpa` returns when the pool is full, is not there. -/
structure InPool (w : World kMaxQueues GpuDevice) : Prop where
  pos : 0 < w.st.bufAlloc.toNat
  le_end : w.st.bufAlloc ≤ kBufPoolEnd

private theorem InPool.ne_zero {w : World kMaxQueues GpuDevice} (h : InPool w) :
    w.st.bufAlloc ≠ 0 := by
  intro h0
  have := h.pos
  simp [h0] at this

theorem InPool.of_eq {w w' : World kMaxQueues GpuDevice} (h : InPool w)
    (heq : w'.st.bufAlloc = w.st.bufAlloc) : InPool w' := by
  constructor
  · rw [heq]
    exact h.pos
  · rw [heq]
    exact h.le_end

theorem InPool.bump {w : World kMaxQueues GpuDevice} (h : InPool w) {len : UInt32}
    (hfit : ¬PoolFull w.st.bufAlloc len) : InPool (w.bump len) := by
  have hnext := bumpNext_toNat w.st.bufAlloc len h.le_end
  have hroom := (not_poolFull_iff w.st.bufAlloc len h.le_end).mp hfit
  have hpos := h.pos
  constructor
  · change 0 < (bumpNext w.st.bufAlloc len).toNat
    omega
  · rw [UInt64.le_iff_toNat_le, kBufPoolEnd_toNat, kBufPoolEndNat]
    change (bumpNext w.st.bufAlloc len).toNat ≤ _
    omega

theorem inPool_of_poolInv {lo : Nat} {w : World kMaxQueues GpuDevice} (h : PoolInv lo w)
    (hlo : 0 < lo) : InPool w :=
  ⟨Nat.lt_of_lt_of_le hlo h.packed.base_le, h.le_end⟩

/-- The first two guards of `submit_cmd`. -/
def SubmitReady (q : VqState) : Prop := q.size ≠ 0 ∧ ¬q.nextDescIdx + 2 ≥ q.size

instance (q : VqState) : Decidable (SubmitReady q) := inferInstanceAs (Decidable (_ ∧ _))

/-- All guards of `submit_cmd`, for a request and a response of these lengths staged from `p`. -/
def Publishes (q : VqState) (p : UInt64) (reqLen respLen : UInt32) : Prop :=
  SubmitReady q ∧ ¬PoolFull p reqLen ∧ ¬PoolFull (bumpNext p reqLen) respLen

instance (q : VqState) (p : UInt64) (reqLen respLen : UInt32) :
    Decidable (Publishes q p reqLen respLen) :=
  inferInstanceAs (Decidable (_ ∧ _ ∧ _))

section Outcomes

variable (vq : Fin kMaxQueues) (req : List UInt8) (respLen : UInt32)
  (w : World kMaxQueues GpuDevice)

theorem submitCmd_notReady (h : ¬SubmitReady (w.st.vqs vq)) :
    (submitCmd vq req respLen).run w = (0, w) := by
  by_cases hsize : (w.st.vqs vq).size = 0
  · simp [submitCmd, getState, hsize]
    rfl
  · have hring : (w.st.vqs vq).nextDescIdx + 2 ≥ (w.st.vqs vq).size := by
      by_contra hc
      exact h ⟨hsize, hc⟩
    simp [submitCmd, getState, hsize, hring]
    rfl

theorem submitCmd_noRequest (h : SubmitReady (w.st.vqs vq))
    (hreq : PoolFull w.st.bufAlloc (UInt32.ofNat req.length)) :
    (submitCmd vq req respLen).run w = (0, w) := by
  change (if _ then _ else if _ then _ else _ : GpuM UInt64).run w = _
  rw [if_neg h.1, if_neg h.2, run_bind, allocGpa_full _ w hreq]
  rfl

/-- The request staged. -/
def stageReq : World kMaxQueues GpuDevice :=
  (w.bump (UInt32.ofNat req.length)).emit
    (.memWrite w.st.bufAlloc (req.take (UInt32.ofNat req.length).toNat))

theorem submitCmd_noResponse (hw : InPool w) (h : SubmitReady (w.st.vqs vq))
    (hreq : ¬PoolFull w.st.bufAlloc (UInt32.ofNat req.length))
    (hresp : PoolFull (bumpNext w.st.bufAlloc (UInt32.ofNat req.length)) respLen) :
    (submitCmd vq req respLen).run w = (0, stageReq req w) := by
  change (if _ then _ else if _ then _ else _ : GpuM UInt64).run w = _
  rw [if_neg h.1, if_neg h.2, run_bind, allocGpa_fits _ w hreq]
  dsimp only
  rw [if_neg hw.ne_zero, run_bind, run_bind]
  have hrun : (qtestMemwrite w.st.bufAlloc (req.take (UInt32.ofNat req.length).toNat)).run
    (w.bump (UInt32.ofNat req.length)) = ((), stageReq req w) := rfl
  have hfull : PoolFull (stageReq req w).st.bufAlloc respLen := hresp
  rw [hrun, allocGpa_full respLen _ hfull]
  rfl

/-- The part of `submit_cmd` between its last guard and the doorbell. -/
def placeChain (reqGpa respGpa : UInt64) : GpuM UInt32 := do
  fillWith respGpa zeroChunk respLen
  let _ ← placeDesc vq reqGpa (UInt32.ofNat req.length) false true
  placeDesc vq respGpa respLen true false

/-- The part of `submit_cmd` from the doorbell on. -/
def deviceTurn : GpuM Unit := do
  mmioWritel rQueueNotify (UInt32.ofNat vq)
  flushEvents
  ackInterrupt

theorem within_placeChain (reqGpa respGpa : UInt64) :
    WithinFrom (fun w => SetUp vq w ∧ Allocated respGpa respLen w) (Steps [.writeBuf, .place])
      (placeChain vq req respLen reqGpa respGpa) := by
  refine WithinFrom.bind ((kept_setUp vq).and (kept_allocated _ _)) ?_ fun _ => ?_
  · exact (within_fillWith (by decide) zeroChunk respLen).mono fun _ h => h.2
  refine WithinFrom.mono (Q := SetUp vq) (fun _ h => h.1) ?_
  refine Submits.bind (submits_placeDesc (by decide) vq _ _ _ _) fun _ => ?_
  exact submits_placeDesc (by decide) vq _ _ _ _

theorem within_deviceTurn : Within (Steps [.event]) (deviceTurn vq) := by
  apply Within.bind (within_mmioWritel (by decide) _ _)
  intro _
  apply Within.bind (within_flushEvents (by decide))
  intro _
  exact within_ackInterrupt (by decide)

/-- A request that is published: staging, the chain, its mark, and the device's turn. -/
theorem submitCmd_run (hw : InPool w)
    (h : Publishes (w.st.vqs vq) w.st.bufAlloc (UInt32.ofNat req.length) respLen) :
    ((submitCmd vq req respLen).run w).2 =
      ((deviceTurn vq).run (World.note (.submit vq req) ((placeChain vq req respLen w.st.bufAlloc
        (stageReq req w).st.bufAlloc).run ((stageReq req w).bump respLen)).2)).2 := by
  obtain ⟨hready, hreq, hresp⟩ := h
  have hstage : InPool (stageReq req w) := (hw.bump hreq).of_eq rfl
  change ((if _ then _ else if _ then _ else _ : GpuM UInt64).run w).2 = _
  rw [if_neg hready.1, if_neg hready.2, run_bind, allocGpa_fits _ w hreq]
  dsimp only
  rw [if_neg hw.ne_zero, run_bind, run_bind]
  have hrun : (qtestMemwrite w.st.bufAlloc (req.take (UInt32.ofNat req.length).toNat)).run
    (w.bump (UInt32.ofNat req.length)) = ((), stageReq req w) := rfl
  rw [hrun, allocGpa_fits respLen (stageReq req w) hresp]
  dsimp only
  rw [if_neg hstage.ne_zero]
  simp only [run_bind, placeChain, deviceTurn]
  rfl

private theorem submitCmd_publishes (hw : InPool w)
    (h : Publishes (w.st.vqs vq) w.st.bufAlloc (UInt32.ofNat req.length) respLen) :
    ∃ v, Steps [.writeBuf, .place] ((stageReq req w).bump respLen) v ∧
      Steps [.event] (v.note (.submit vq req)) ((submitCmd vq req respLen).run w).2 := by
  rw [submitCmd_run vq req respLen w hw h]
  refine ⟨_, within_placeChain vq req respLen _ _ _ ⟨?_, ?_⟩, within_deviceTurn vq _⟩
  · exact h.1.1
  · exact mem_sinceReset_bump respLen (stageReq req w)

end Outcomes

/-- The ranges that successive allocations of these lengths get from `p`, up to the first that does
not fit. -/
def rangesFrom (p : UInt64) : List UInt32 → List Range
  | [] => []
  | len :: lens =>
      if PoolFull p len then [] else ⟨p.toNat, len.toNat⟩ :: rangesFrom (bumpNext p len) lens

/-- What `submit_cmd` allocates on a queue: nothing, unless it gets past its first two guards. -/
def submitLens (q : VqState) (reqLen respLen : UInt32) : List UInt32 :=
  if SubmitReady q then [reqLen, respLen] else []

section Accounting

variable (vq : Fin kMaxQueues) (req : List UInt8) (respLen : UInt32)
  (w : World kMaxQueues GpuDevice)

private theorem submitCmd_ranges (hw : InPool w) :
    allocRanges ((submitCmd vq req respLen).run w).2.hist =
      (rangesFrom w.st.bufAlloc
        (submitLens (w.st.vqs vq) (UInt32.ofNat req.length) respLen)).reverse ++
          allocRanges w.hist := by
  by_cases hready : SubmitReady (w.st.vqs vq)
  · rw [submitLens, if_pos hready]
    by_cases hreq : PoolFull w.st.bufAlloc (UInt32.ofNat req.length)
    · rw [submitCmd_noRequest vq req respLen w hready hreq, rangesFrom, if_pos hreq]
      rfl
    · by_cases hresp : PoolFull (bumpNext w.st.bufAlloc (UInt32.ofNat req.length)) respLen
      · rw [submitCmd_noResponse vq req respLen w hw hready hreq hresp, rangesFrom, if_neg hreq,
          rangesFrom, if_pos hresp]
        rfl
      · obtain ⟨v, hchain, hturn⟩ :=
          submitCmd_publishes vq req respLen w hw ⟨hready, hreq, hresp⟩
        rw [(hturn.alloc_eq (by decide)).1, rangesFrom, if_neg hreq, rangesFrom, if_neg hresp]
        exact (hchain.alloc_eq (by decide)).1
  · rw [submitCmd_notReady vq req respLen w hready, submitLens, if_neg hready]
    rfl

private theorem submitCmd_submissions (hw : InPool w) :
    submissions ((submitCmd vq req respLen).run w).2.hist =
      (if Publishes (w.st.vqs vq) w.st.bufAlloc (UInt32.ofNat req.length) respLen
        then [(vq.val, req)] else []) ++ submissions w.hist := by
  by_cases hpub : Publishes (w.st.vqs vq) w.st.bufAlloc (UInt32.ofNat req.length) respLen
  · obtain ⟨v, hchain, hturn⟩ := submitCmd_publishes vq req respLen w hw hpub
    have hkept := hchain.submissions_eq (by decide)
    rw [if_pos hpub, hturn.submissions_eq (by decide)]
    change (vq.val, req) :: submissions v.hist = _
    rw [hkept]
    rfl
  · rw [if_neg hpub]
    by_cases hready : SubmitReady (w.st.vqs vq)
    · by_cases hreq : PoolFull w.st.bufAlloc (UInt32.ofNat req.length)
      · rw [submitCmd_noRequest vq req respLen w hready hreq]
        rfl
      · have hresp : PoolFull (bumpNext w.st.bufAlloc (UInt32.ofNat req.length)) respLen := by
          by_contra hfit
          exact hpub ⟨hready, hreq, hfit⟩
        rw [submitCmd_noResponse vq req respLen w hw hready hreq hresp]
        rfl
    · rw [submitCmd_notReady vq req respLen w hready]
      rfl

private theorem submitCmd_ext : ((submitCmd vq req respLen).run w).2.st.ext = w.st.ext :=
  (within_submitCmd vq req respLen w).ext_eq (by decide)

end Accounting

section Backed

variable (total : UInt32) (chunk : List UInt8) (req : UInt64 → List UInt8)
  (f : UInt64 → GpuDevice → GpuDevice) (w : World kMaxQueues GpuDevice)

theorem backedSubmit_full (h : PoolFull w.st.bufAlloc total) :
    (backedSubmit total chunk req f).run w = ((), w) := by
  rw [backedSubmit, run_bind, allocGpa_full total w h]
  rfl

theorem backedSubmit_run (hw : InPool w) (h : ¬PoolFull w.st.bufAlloc total) :
    ((backedSubmit total chunk req f).run w).2 =
      ((submitCmd kCmdVq (req w.st.bufAlloc) 24).run
        ((fillWith w.st.bufAlloc chunk total).run (w.bump total)).2).2.setExt
          (f w.st.bufAlloc) := by
  rw [backedSubmit, run_bind, allocGpa_fits total w h]
  dsimp only
  rw [if_neg hw.ne_zero]
  rfl

theorem backedSubmit_fits (hw : InPool w) (h : ¬PoolFull w.st.bufAlloc total) :
    ∃ v, Steps [.writeBuf] (w.bump total) v ∧ InPool v ∧
      ((backedSubmit total chunk req f).run w).2 =
        ((submitCmd kCmdVq (req w.st.bufAlloc) 24).run v).2.setExt (f w.st.bufAlloc) := by
  have hfill : Steps [.writeBuf] (w.bump total)
      ((fillWith w.st.bufAlloc chunk total).run (w.bump total)).2 :=
    within_fillWith (by decide) chunk total (w.bump total) (mem_sinceReset_bump total w)
  exact ⟨_, hfill, (hw.bump h).of_eq (hfill.alloc_eq (by decide)).2,
    backedSubmit_run total chunk req f w hw h⟩

end Backed

/-- The backing an op allocates before its request: the bytes themselves for `GuestMemWrite`. -/
def backingLen : VirtioOp → Option UInt32
  | .common (.guestMemWrite _ data) => some (UInt32.ofNat (min data.length 4096))
  | .gpuAttachBacking m => some (clamp m.numEntries 1 16 * clamp m.entrySize 1 4096)
  | .gpuCreateBlob m => some (clamp m.numEntries 1 16 * clamp m.entrySize 16 4096)
  | _ => none

/-- The queue, the request and the response length of an op that submits. -/
def requestOf (g : GpuDevice) (backGpa : UInt64) :
    VirtioOp → Option (Fin kMaxQueues × List UInt8 × UInt32)
  | .common _ => none
  | .gpuCreate2D m => some (kCmdVq, create2DReq g g.nextResourceId m, 24)
  | .gpuResourceUnref slotIdx =>
      some (kCmdVq, ridReq g cmdResourceUnref (g.rid (resourceSlot slotIdx)), 24)
  | .gpuAttachBacking m =>
      some (kCmdVq, attachBackingReq g (g.rid (resourceSlot m.resourceSlot))
        (clamp m.numEntries 1 16) (clamp m.entrySize 1 4096) backGpa, 24)
  | .gpuDetachBacking slotIdx =>
      some (kCmdVq, ridReq g cmdResourceDetachBacking (g.rid (resourceSlot slotIdx)), 24)
  | .gpuTransferToHost slotIdx rect offset =>
      some (kCmdVq, transferReq g (g.rid (resourceSlot slotIdx)) rect offset, 24)
  | .gpuResourceFlush slotIdx rect =>
      some (kCmdVq, flushReq g (g.rid (resourceSlot slotIdx)) rect, 24)
  | .gpuSetScanout scanoutId slotIdx rect =>
      some (kCmdVq, setScanoutReq g (g.rid (resourceSlot slotIdx)) scanoutId rect, 24)
  | .gpuGetDisplayInfo => some (kCmdVq, packCtrlHdr g cmdGetDisplayInfo, 24 + 16 * 24)
  | .gpuGetEdid scanoutId => some (kCmdVq, getEdidReq g scanoutId, 24 + 8 + 1024)
  | .gpuUpdateCursor m =>
      some (kCursorVq, cursorReq g cmdUpdateCursor m.scanoutId m.x m.y
        (g.rid (resourceSlot m.resourceSlot)) m.hotX m.hotY, 24)
  | .gpuMoveCursor m =>
      some (kCursorVq, cursorReq g cmdMoveCursor m.scanoutId m.x m.y 0 0 0, 24)
  | .gpuSetFenceState _ => none
  | .gpuCreateBlob m =>
      some (kCmdVq, createBlobReq g g.nextResourceId (clamp m.numEntries 1 16)
        (clamp m.entrySize 16 4096) backGpa m, 24)
  | .hostHotplugScanout _ => none

/-- The allocations an op asks for, in order. -/
def allocLens (st : State kMaxQueues GpuDevice) (op : VirtioOp) : List UInt32 :=
  (backingLen op).toList ++
    match requestOf st.ext st.bufAlloc op with
    | none => []
    | some (vq, req, respLen) => submitLens (st.vqs vq) (UInt32.ofNat req.length) respLen

/-- The backing of the op fits into the pool, and its request gets past the guards of
`submit_cmd`. -/
def OpPublishes (st : State kMaxQueues GpuDevice) (op : VirtioOp) : Prop :=
  match requestOf st.ext st.bufAlloc op, backingLen op with
  | none, _ => False
  | some (vq, req, respLen), none =>
      Publishes (st.vqs vq) st.bufAlloc (UInt32.ofNat req.length) respLen
  | some (vq, req, respLen), some len =>
      ¬PoolFull st.bufAlloc len ∧
        Publishes (st.vqs vq) (bumpNext st.bufAlloc len) (UInt32.ofNat req.length) respLen

instance (st : State kMaxQueues GpuDevice) (op : VirtioOp) : Decidable (OpPublishes st op) := by
  unfold OpPublishes
  split <;> infer_instance

/-- The request an op publishes in a state. -/
def published (st : State kMaxQueues GpuDevice) (op : VirtioOp) : List (Nat × List UInt8) :=
  match requestOf st.ext st.bufAlloc op with
  | none => []
  | some (vq, req, _) => if OpPublishes st op then [(vq.val, req)] else []

/-- The fields of this harness after an op. -/
def extAfter (st : State kMaxQueues GpuDevice) : VirtioOp → GpuDevice
  | .gpuCreate2D m =>
      { st.ext with nextResourceId := st.ext.nextResourceId + 1 }.setResource
        (resourceSlot m.resourceSlot) ⟨st.ext.nextResourceId, m.width, m.height, m.format⟩
  | .gpuResourceUnref slotIdx => st.ext.setResource (resourceSlot slotIdx) .empty
  | .gpuAttachBacking m =>
      let total := clamp m.numEntries 1 16 * clamp m.entrySize 1 4096
      if PoolFull st.bufAlloc total then st.ext
      else st.ext.setBacking (backingSlot m.backingSlot)
        ⟨st.bufAlloc, total, UInt32.ofNat (resourceSlot m.resourceSlot)⟩
  | .gpuSetFenceState m =>
      { st.ext with fenceEnabled := m.enabled, fenceId := m.fenceId, fenceCtxId := m.ctxId }
  | .gpuCreateBlob m =>
      let g := { st.ext with nextResourceId := st.ext.nextResourceId + 1 }
      if PoolFull st.bufAlloc (clamp m.numEntries 1 16 * clamp m.entrySize 16 4096) then g
      else g.setResource (resourceSlot m.resourceSlot) ⟨st.ext.nextResourceId, 0, 0, 0⟩
  | _ => st.ext

/-- What the properties of the commands speak about, after an op that is not a reset. -/
structure Accounted (op : VirtioOp) (w w' : World kMaxQueues GpuDevice) : Prop where
  ranges : allocRanges w'.hist =
    (rangesFrom w.st.bufAlloc (allocLens w.st op)).reverse ++ allocRanges w.hist
  submits : submissions w'.hist = published w.st op ++ submissions w.hist
  ext : w'.st.ext = extAfter w.st op

private theorem Accounted.of_submit {op : VirtioOp} {w w' : World kMaxQueues GpuDevice}
    (hw : InPool w) {vq : Fin kMaxQueues} {req : List UInt8} {respLen : UInt32}
    (f : GpuDevice → GpuDevice) (hback : backingLen op = none)
    (hreq : requestOf w.st.ext w.st.bufAlloc op = some (vq, req, respLen))
    (hhist : w'.hist = ((submitCmd vq req respLen).run (w.setExt f)).2.hist)
    (hext : w'.st.ext = extAfter w.st op) : Accounted op w w' where
  ranges := by
    rw [hhist, submitCmd_ranges vq req respLen (w.setExt f) (hw.of_eq rfl), allocLens, hback, hreq]
    rfl
  submits := by
    rw [hhist, submitCmd_submissions vq req respLen (w.setExt f) (hw.of_eq rfl), published, hreq]
    simp only [OpPublishes, hback, hreq]
    rfl
  ext := hext

private theorem Accounted.of_backed {op : VirtioOp} {w w' : World kMaxQueues GpuDevice}
    (hw : InPool w) {total : UInt32} (chunk : List UInt8) {req : UInt64 → List UInt8}
    (f : GpuDevice → GpuDevice) (f' : UInt64 → GpuDevice → GpuDevice)
    (hback : backingLen op = some total)
    (hreq : requestOf w.st.ext w.st.bufAlloc op = some (kCmdVq, req w.st.bufAlloc, 24))
    (hrun : w' = ((backedSubmit total chunk req f').run (w.setExt f)).2)
    (hfull : PoolFull w.st.bufAlloc total → extAfter w.st op = f w.st.ext)
    (hfits : ¬PoolFull w.st.bufAlloc total → extAfter w.st op = f' w.st.bufAlloc (f w.st.ext)) :
    Accounted op w w' := by
  have hwf : InPool (w.setExt f) := hw.of_eq rfl
  by_cases h : PoolFull w.st.bufAlloc total
  · have h' : w' = w.setExt f := by
      rw [hrun, backedSubmit_full total chunk req f' (w.setExt f) h]
    constructor
    · rw [h', allocLens, hback]
      simp only [Option.toList_some, List.singleton_append, rangesFrom, if_pos h]
      rfl
    · rw [h', published, hreq]
      simp only [OpPublishes, hback, hreq, h, not_true_eq_false, false_and, if_false]
      rfl
    · rw [h', hfull h]
      rfl
  · obtain ⟨v, hv, hpool, hrun'⟩ := backedSubmit_fits total chunk req f' (w.setExt f) hwf h
    have hvqs := Steps.vqs_eq (by decide) (by decide) hv
    have hnext : v.st.bufAlloc = bumpNext w.st.bufAlloc total := (hv.alloc_eq (by decide)).2
    constructor
    · rw [hrun, hrun']
      change allocRanges ((submitCmd kCmdVq (req w.st.bufAlloc) 24).run v).2.hist = _
      rw [submitCmd_ranges _ _ _ v hpool, (hv.alloc_eq (by decide)).1, hvqs, hnext, allocLens,
        hback, hreq]
      simp only [Option.toList_some, List.singleton_append, rangesFrom, if_neg h, List.reverse_cons,
        List.append_assoc]
      rfl
    · rw [hrun, hrun']
      change submissions ((submitCmd kCmdVq (req w.st.bufAlloc) 24).run v).2.hist = _
      rw [submitCmd_submissions _ _ _ v hpool, hv.submissions_eq (by decide), hvqs, hnext,
        published, hreq]
      simp only [OpPublishes, hback, hreq, h, not_false_eq_true, true_and]
      rfl
    · rw [hrun, hrun', hfits h]
      change f' w.st.bufAlloc ((submitCmd kCmdVq (req w.st.bufAlloc) 24).run v).2.st.ext = _
      rw [submitCmd_ext, hv.ext_eq (by decide)]
      rfl

theorem opAttachBacking_run (m : GpuResourceAttachBacking) (w : World kMaxQueues GpuDevice) :
    (opAttachBacking m).run w =
      (backedSubmit (clamp m.numEntries 1 16 * clamp m.entrySize 1 4096)
        (if m.fill.isEmpty then zeroChunk else m.fill)
        (attachBackingReq w.st.ext (w.st.ext.rid (resourceSlot m.resourceSlot))
          (clamp m.numEntries 1 16) (clamp m.entrySize 1 4096))
        (fun gpa => GpuDevice.setBacking (backingSlot m.backingSlot)
          ⟨gpa, clamp m.numEntries 1 16 * clamp m.entrySize 1 4096,
            UInt32.ofNat (resourceSlot m.resourceSlot)⟩)).run w := by
  rw [opAttachBacking, run_bind, getState_run]
  simp only [backedSubmit, GpuDevice.rid]

theorem opCreateBlob_run (m : GpuResourceCreateBlob) (w : World kMaxQueues GpuDevice) :
    (opCreateBlob m).run w =
      (backedSubmit (clamp m.numEntries 1 16 * clamp m.entrySize 16 4096) zeroChunk
        (fun gpa => createBlobReq w.st.ext w.st.ext.nextResourceId (clamp m.numEntries 1 16)
          (clamp m.entrySize 16 4096) gpa m)
        (fun _ => GpuDevice.setResource (resourceSlot m.resourceSlot)
          ⟨w.st.ext.nextResourceId, 0, 0, 0⟩)).run
        (w.setExt fun g => { g with nextResourceId := g.nextResourceId + 1 }) := by
  rw [opCreateBlob, run_bind, getState_run]
  simp only [backedSubmit]
  rw [run_bind]
  rfl

private theorem opGuestMemWrite_accounted (bufId : UInt32) (data : List UInt8)
    (w : World kMaxQueues GpuDevice) (hw : InPool w) :
    Accounted (.common (.guestMemWrite bufId data)) w ((opGuestMemWrite bufId data).run w).2 := by
  have hlens : allocLens w.st (.common (.guestMemWrite bufId data)) =
      [UInt32.ofNat (min data.length 4096)] := rfl
  by_cases h : PoolFull w.st.bufAlloc (UInt32.ofNat (min data.length 4096))
  · have hrun : ((opGuestMemWrite bufId data).run w).2 = w := by
      rw [opGuestMemWrite, run_bind, allocGpa_full _ w h]
      rfl
    rw [hrun]
    refine ⟨?_, rfl, rfl⟩
    rw [hlens, rangesFrom, if_pos h]
    rfl
  · have hkeep := within_keepBuf (A := [.writeBuf, .bindBuf]) (by decide) (by decide) bufId
      (UInt32.ofNat (min data.length 4096)) data w.st.bufAlloc (w.bump _) (mem_sinceReset_bump _ w)
    have hrun : (opGuestMemWrite bufId data).run w =
        (keepBuf bufId (UInt32.ofNat (min data.length 4096)) data w.st.bufAlloc).run
          (w.bump (UInt32.ofNat (min data.length 4096))) := by
      rw [opGuestMemWrite, run_bind, allocGpa_fits _ w h]
      dsimp only
      rw [if_neg hw.ne_zero]
      rfl
    have hranges := (hkeep.alloc_eq (by decide)).1
    have hsubmits := hkeep.submissions_eq (by decide)
    have hext := hkeep.ext_eq (by decide)
    rw [hrun]
    constructor
    · rw [hranges, hlens, rangesFrom, if_neg h]
      rfl
    · exact hsubmits
    · exact hext

private theorem dispatchCommon_accounted (op : CommonOp) (w : World kMaxQueues GpuDevice)
    (hw : InPool w) (hop : op ≠ .reset) :
    Accounted (.common op) w ((dispatchCommon handlers op).run w).2 := by
  by_cases hwrite : ∃ bufId data, op = .guestMemWrite bufId data
  · obtain ⟨bufId, data, rfl⟩ := hwrite
    exact opGuestMemWrite_accounted bufId data w hw
  · have hsteps := dispatchCommon_within handlers_sound op hop w
    have hlens : allocLens w.st (.common op) = [] := by
      cases op with
      | guestMemWrite bufId data => exact absurd ⟨bufId, data, rfl⟩ hwrite
      | _ => rfl
    have hacts : Act.bump ∉ op.acts ∧ Act.submit ∉ op.acts ∧ Act.setExt ∉ op.acts := by
      cases op with
      | guestMemWrite bufId data => exact absurd ⟨bufId, data, rfl⟩ hwrite
      | _ => simp [CommonOp.acts]
    constructor
    · rw [hlens]
      exact (hsteps.alloc_eq hacts.1).1
    · exact hsteps.submissions_eq hacts.2.1
    · exact hsteps.ext_eq hacts.2.2

/-- Every op but `Reset` allocates, publishes and keeps what its message and the state say. -/
theorem dispatch_accounted (op : VirtioOp) (w : World kMaxQueues GpuDevice) (hw : InPool w)
    (hop : asCommon op ≠ some .reset) : Accounted op w ((dispatch op).run w).2 := by
  cases op with
  | common op => exact dispatchCommon_accounted op w hw fun he => hop (congrArg some he)
  | gpuCreate2D m =>
      refine .of_submit hw (fun g => { g with nextResourceId := g.nextResourceId + 1 })
        rfl rfl rfl ?_
      exact congrArg (GpuDevice.setResource _ _) (submitCmd_ext _ _ _ _)
  | gpuResourceUnref slotIdx =>
      refine .of_submit hw id rfl rfl rfl ?_
      exact congrArg (GpuDevice.setResource _ _) (submitCmd_ext _ _ _ _)
  | gpuAttachBacking m =>
      refine Accounted.of_backed hw _ id _ rfl rfl (congrArg Prod.snd (opAttachBacking_run m w))
        ?_ ?_
      · intro h
        simp only [extAfter, if_pos h, id]
      · intro h
        simp only [extAfter, if_neg h, id]
  | gpuDetachBacking slotIdx => exact .of_submit hw id rfl rfl rfl (submitCmd_ext _ _ _ _)
  | gpuTransferToHost slotIdx rect offset =>
      exact .of_submit hw id rfl rfl rfl (submitCmd_ext _ _ _ _)
  | gpuResourceFlush slotIdx rect => exact .of_submit hw id rfl rfl rfl (submitCmd_ext _ _ _ _)
  | gpuSetScanout scanoutId slotIdx rect =>
      exact .of_submit hw id rfl rfl rfl (submitCmd_ext _ _ _ _)
  | gpuGetDisplayInfo => exact .of_submit hw id rfl rfl rfl (submitCmd_ext _ _ _ _)
  | gpuGetEdid scanoutId => exact .of_submit hw id rfl rfl rfl (submitCmd_ext _ _ _ _)
  | gpuUpdateCursor m => exact .of_submit hw id rfl rfl rfl (submitCmd_ext _ _ _ _)
  | gpuMoveCursor m => exact .of_submit hw id rfl rfl rfl (submitCmd_ext _ _ _ _)
  | gpuSetFenceState m => exact ⟨rfl, rfl, rfl⟩
  | gpuCreateBlob m =>
      refine Accounted.of_backed hw zeroChunk _ _ rfl rfl (congrArg Prod.snd (opCreateBlob_run m w))
        ?_ ?_
      · intro h
        simp only [extAfter, if_pos h]
      · intro h
        simp only [extAfter, if_neg h]
  | hostHotplugScanout m =>
      have hsteps := within_opHostHotplugScanout (A := [.event]) (by decide) m w
      exact ⟨(hsteps.alloc_eq (by decide)).1, hsteps.submissions_eq (by decide),
        hsteps.ext_eq (by decide)⟩

end VirtioCrash.Gpu
