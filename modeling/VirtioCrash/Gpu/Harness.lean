import VirtioCrash.Harness.Confined

/-!
# The virtio-gpu harness

`proto_fuzz_virtio_gpu.cc`: typed commands on the control and the cursor queue, and the slot tables
that let one command refer to the resource or the backing an earlier one made.
-/

namespace VirtioCrash.Gpu

open StateProgram Bytes

abbrev kMaxQueues : Nat := 4
abbrev kResourceSlots : Nat := 16
abbrev kBackingSlots : Nat := 16

def kCmdVq : Fin kMaxQueues := 0
def kCursorVq : Fin kMaxQueues := 1

/-- `resourceId` 0 stands for an empty slot. -/
structure ResourceSlot where
  resourceId : UInt32
  width : UInt32
  height : UInt32
  format : UInt32
  deriving DecidableEq

structure BackingSlot where
  baseGpa : UInt64
  totalSize : UInt32
  resourceSlot : UInt32
  deriving DecidableEq

structure GpuDevice where
  resources : Fin kResourceSlots → ResourceSlot
  backings : Fin kBackingSlots → BackingSlot
  nextResourceId : UInt32
  fenceEnabled : Bool
  fenceId : UInt64
  fenceCtxId : UInt32

def ResourceSlot.empty : ResourceSlot := ⟨0, 0, 0, 0⟩

/-- The fields only this harness has, as they are constructed and as a reset leaves them. -/
def resetExt : GpuDevice where
  resources := fun _ => .empty
  backings := fun _ => ⟨0, 0, 0⟩
  nextResourceId := 1
  fenceEnabled := false
  fenceId := 0
  fenceCtxId := 0

abbrev GpuM := Harness kMaxQueues GpuDevice

def resetIterationState : GpuM Unit := do
  resetCommon
  modifyExt fun _ => resetExt

def resourceSlot (s : UInt32) : Fin kResourceSlots := Fin.ofNat kResourceSlots s.toNat

def backingSlot (s : UInt32) : Fin kBackingSlots := Fin.ofNat kBackingSlots s.toNat

def GpuDevice.setResource (slot : Fin kResourceSlots) (r : ResourceSlot) (g : GpuDevice) :
    GpuDevice :=
  { g with resources := Function.update g.resources slot r }

def GpuDevice.setBacking (slot : Fin kBackingSlots) (b : BackingSlot) (g : GpuDevice) :
    GpuDevice :=
  { g with backings := Function.update g.backings slot b }

/-- The id in a resource slot; 0 when the slot is empty. -/
def GpuDevice.rid (g : GpuDevice) (slot : Fin kResourceSlots) : UInt32 :=
  (g.resources slot).resourceId

structure GpuResourceCreate2D where
  resourceSlot : UInt32
  format : UInt32
  width : UInt32
  height : UInt32

structure GpuResourceAttachBacking where
  resourceSlot : UInt32
  backingSlot : UInt32
  numEntries : UInt32
  entrySize : UInt32
  fill : List UInt8

/-- The rectangle fields of the transfer, flush and scanout messages. -/
structure GpuRect where
  x : UInt32
  y : UInt32
  width : UInt32
  height : UInt32

structure GpuUpdateCursor where
  scanoutId : UInt32
  x : UInt32
  y : UInt32
  resourceSlot : UInt32
  hotX : UInt32
  hotY : UInt32

structure GpuMoveCursor where
  scanoutId : UInt32
  x : UInt32
  y : UInt32

structure GpuSetFenceState where
  enabled : Bool
  fenceId : UInt64
  ctxId : UInt32

structure GpuResourceCreateBlob where
  resourceSlot : UInt32
  blobMem : UInt32
  blobFlags : UInt32
  blobId : UInt64
  size : UInt64
  numEntries : UInt32
  entrySize : UInt32

structure HostHotplugScanout where
  consoleIndex : UInt32
  width : UInt32
  height : UInt32

inductive VirtioOp where
  | common (op : CommonOp)
  | gpuCreate2D (m : GpuResourceCreate2D)
  | gpuResourceUnref (resourceSlot : UInt32)
  | gpuAttachBacking (m : GpuResourceAttachBacking)
  | gpuDetachBacking (resourceSlot : UInt32)
  | gpuTransferToHost (resourceSlot : UInt32) (rect : GpuRect) (offset : UInt64)
  | gpuResourceFlush (resourceSlot : UInt32) (rect : GpuRect)
  | gpuSetScanout (scanoutId resourceSlot : UInt32) (rect : GpuRect)
  | gpuGetDisplayInfo
  | gpuGetEdid (scanoutId : UInt32)
  | gpuUpdateCursor (m : GpuUpdateCursor)
  | gpuMoveCursor (m : GpuMoveCursor)
  | gpuSetFenceState (m : GpuSetFenceState)
  | gpuCreateBlob (m : GpuResourceCreateBlob)
  | hostHotplugScanout (m : HostHotplugScanout)

def cmdGetDisplayInfo : UInt32 := 0x0100
def cmdResourceCreate2D : UInt32 := 0x0101
def cmdResourceUnref : UInt32 := 0x0102
def cmdSetScanout : UInt32 := 0x0103
def cmdResourceFlush : UInt32 := 0x0104
def cmdTransferToHost2D : UInt32 := 0x0105
def cmdResourceAttachBacking : UInt32 := 0x0106
def cmdResourceDetachBacking : UInt32 := 0x0107
def cmdGetEdid : UInt32 := 0x010a
def cmdResourceCreateBlob : UInt32 := 0x010b
def cmdUpdateCursor : UInt32 := 0x0300
def cmdMoveCursor : UInt32 := 0x0301

def flagFence : UInt32 := 1

/-- `pack_ctrl_hdr`: le32 type, le32 flags, le64 fence_id, le32 ctx_id, le32 padding. -/
def packCtrlHdr (g : GpuDevice) (type : UInt32) : List UInt8 :=
  le32 type ++ le32 (if g.fenceEnabled then flagFence else 0) ++
    le64 (if g.fenceEnabled then g.fenceId else 0) ++
    le32 (if g.fenceEnabled then g.fenceCtxId else 0) ++ le32 0

def packRect (r : GpuRect) : List UInt8 := le32 r.x ++ le32 r.y ++ le32 r.width ++ le32 r.height

def create2DReq (g : GpuDevice) (rid : UInt32) (m : GpuResourceCreate2D) : List UInt8 :=
  packCtrlHdr g cmdResourceCreate2D ++
    (le32 rid ++ le32 m.format ++ le32 m.width ++ le32 m.height)

/-- The requests that carry a resource id and padding: UNREF and DETACH_BACKING. -/
def ridReq (g : GpuDevice) (type rid : UInt32) : List UInt8 :=
  packCtrlHdr g type ++ (le32 rid ++ le32 0)

/-- `nr` scatter-gather entries of `esz` bytes each, one after another from `gpa`. -/
def sgEntries (gpa : UInt64) (nr esz : UInt32) : List UInt8 :=
  (List.range nr.toNat).flatMap fun i =>
    le64 (gpa + (UInt32.ofNat i * esz).toUInt64) ++ le32 esz ++ le32 0

def attachBackingReq (g : GpuDevice) (rid nr esz : UInt32) (gpa : UInt64) : List UInt8 :=
  packCtrlHdr g cmdResourceAttachBacking ++ (le32 rid ++ le32 nr ++ sgEntries gpa nr esz)

def transferReq (g : GpuDevice) (rid : UInt32) (r : GpuRect) (offset : UInt64) : List UInt8 :=
  packCtrlHdr g cmdTransferToHost2D ++ (packRect r ++ le64 offset ++ le32 rid ++ le32 0)

def flushReq (g : GpuDevice) (rid : UInt32) (r : GpuRect) : List UInt8 :=
  packCtrlHdr g cmdResourceFlush ++ (packRect r ++ le32 rid ++ le32 0)

def setScanoutReq (g : GpuDevice) (rid scanoutId : UInt32) (r : GpuRect) : List UInt8 :=
  packCtrlHdr g cmdSetScanout ++ (packRect r ++ le32 scanoutId ++ le32 rid)

def getEdidReq (g : GpuDevice) (scanoutId : UInt32) : List UInt8 :=
  packCtrlHdr g cmdGetEdid ++ (le32 scanoutId ++ le32 0)

/-- UPDATE_CURSOR and MOVE_CURSOR share their 56 bytes. -/
def cursorReq (g : GpuDevice) (type scanoutId x y rid hotX hotY : UInt32) : List UInt8 :=
  packCtrlHdr g type ++
    (le32 scanoutId ++ le32 x ++ le32 y ++ le32 0 ++ le32 rid ++ le32 hotX ++ le32 hotY ++ le32 0)

def createBlobReq (g : GpuDevice) (rid nr esz : UInt32) (gpa : UInt64)
    (m : GpuResourceCreateBlob) : List UInt8 :=
  packCtrlHdr g cmdResourceCreateBlob ++
    (le32 rid ++ le32 m.blobMem ++ le32 m.blobFlags ++ le32 nr ++ le64 m.blobId ++ le64 m.size ++
      sgEntries gpa nr esz)

/-- `for (off = 0; off < total; off += chunk.size())`: the chunk again and again, the last time cut
to what is left. A chunk that is not empty takes at most `total` passes. -/
def fillChunks (gpa : UInt64) (chunk : List UInt8) (total : UInt32) : Nat → UInt32 → GpuM Unit
  | 0, _ => pure ()
  | fuel + 1, off => do
      if off < total then
        let n := min (UInt32.ofNat chunk.length) (total - off)
        qtestMemwrite (gpa + off.toUInt64) (chunk.take n.toNat)
        fillChunks gpa chunk total fuel (off + UInt32.ofNat chunk.length)

def fillWith (gpa : UInt64) (chunk : List UInt8) (total : UInt32) : GpuM Unit :=
  fillChunks gpa chunk total total.toNat 0

def zeroChunk : List UInt8 := List.replicate 64 0

def ackInterrupt : GpuM Unit := do
  let st ← mmioReadl rIntStatus
  if st ≠ 0 then
    mmioWritel rIntAck st

/-- `submit_cmd`: the request and room for its response, staged and published as one chain. -/
def submitCmd (vq : Fin kMaxQueues) (req : List UInt8) (respLen : UInt32) : GpuM UInt64 := do
  let s ← getState
  if (s.vqs vq).size = 0 then return 0
  if (s.vqs vq).nextDescIdx + 2 ≥ (s.vqs vq).size then return 0
  let reqLen := UInt32.ofNat req.length
  let reqGpa ← allocGpa reqLen
  if reqGpa = 0 then return 0
  qtestMemwrite reqGpa (req.take reqLen.toNat)
  let respGpa ← allocGpa respLen
  if respGpa = 0 then return 0
  fillWith respGpa zeroChunk respLen
  let _ ← placeDesc vq reqGpa reqLen false true
  let _ ← placeDesc vq respGpa respLen true false
  note (.submit vq req)
  mmioWritel rQueueNotify (UInt32.ofNat vq)
  flushEvents
  ackInterrupt
  return respGpa

def opCreate2D (m : GpuResourceCreate2D) : GpuM Unit := do
  let slot := resourceSlot m.resourceSlot
  let s ← getState
  let rid := s.ext.nextResourceId
  modifyExt fun g => { g with nextResourceId := g.nextResourceId + 1 }
  let _ ← submitCmd kCmdVq (create2DReq s.ext rid m) 24
  modifyExt (GpuDevice.setResource slot ⟨rid, m.width, m.height, m.format⟩)

def opResourceUnref (slotIdx : UInt32) : GpuM Unit := do
  let slot := resourceSlot slotIdx
  let s ← getState
  let _ ← submitCmd kCmdVq (ridReq s.ext cmdResourceUnref (s.ext.rid slot)) 24
  modifyExt (GpuDevice.setResource slot .empty)

/-- `std::clamp<uint32_t>` -/
def clamp (v lo hi : UInt32) : UInt32 := if v < lo then lo else if hi < v then hi else v

def opAttachBacking (m : GpuResourceAttachBacking) : GpuM Unit := do
  let rSlot := resourceSlot m.resourceSlot
  let s ← getState
  let rid := s.ext.rid rSlot
  let nr := clamp m.numEntries 1 16
  let esz := clamp m.entrySize 1 4096
  let total := nr * esz
  let backGpa ← allocGpa total
  if backGpa = 0 then return
  fillWith backGpa (if m.fill.isEmpty then zeroChunk else m.fill) total
  let _ ← submitCmd kCmdVq (attachBackingReq s.ext rid nr esz backGpa) 24
  modifyExt (GpuDevice.setBacking (backingSlot m.backingSlot)
    ⟨backGpa, total, UInt32.ofNat rSlot⟩)

def opDetachBacking (slotIdx : UInt32) : GpuM Unit := do
  let s ← getState
  let rid := s.ext.rid (resourceSlot slotIdx)
  let _ ← submitCmd kCmdVq (ridReq s.ext cmdResourceDetachBacking rid) 24

def opTransferToHost (slotIdx : UInt32) (rect : GpuRect) (offset : UInt64) : GpuM Unit := do
  let s ← getState
  let rid := s.ext.rid (resourceSlot slotIdx)
  let _ ← submitCmd kCmdVq (transferReq s.ext rid rect offset) 24

def opResourceFlush (slotIdx : UInt32) (rect : GpuRect) : GpuM Unit := do
  let s ← getState
  let rid := s.ext.rid (resourceSlot slotIdx)
  let _ ← submitCmd kCmdVq (flushReq s.ext rid rect) 24

def opSetScanout (scanoutId slotIdx : UInt32) (rect : GpuRect) : GpuM Unit := do
  let s ← getState
  let rid := s.ext.rid (resourceSlot slotIdx)
  let _ ← submitCmd kCmdVq (setScanoutReq s.ext rid scanoutId rect) 24

def opGetDisplayInfo : GpuM Unit := do
  let s ← getState
  let _ ← submitCmd kCmdVq (packCtrlHdr s.ext cmdGetDisplayInfo) (24 + 16 * 24)

def opGetEdid (scanoutId : UInt32) : GpuM Unit := do
  let s ← getState
  let _ ← submitCmd kCmdVq (getEdidReq s.ext scanoutId) (24 + 8 + 1024)

def opUpdateCursor (m : GpuUpdateCursor) : GpuM Unit := do
  let s ← getState
  let rid := s.ext.rid (resourceSlot m.resourceSlot)
  let _ ← submitCmd kCursorVq
    (cursorReq s.ext cmdUpdateCursor m.scanoutId m.x m.y rid m.hotX m.hotY) 24

def opMoveCursor (m : GpuMoveCursor) : GpuM Unit := do
  let s ← getState
  let _ ← submitCmd kCursorVq (cursorReq s.ext cmdMoveCursor m.scanoutId m.x m.y 0 0 0) 24

def opSetFenceState (m : GpuSetFenceState) : GpuM Unit :=
  modifyExt fun g => { g with fenceEnabled := m.enabled, fenceId := m.fenceId,
                              fenceCtxId := m.ctxId }

def opCreateBlob (m : GpuResourceCreateBlob) : GpuM Unit := do
  let slot := resourceSlot m.resourceSlot
  let s ← getState
  let rid := s.ext.nextResourceId
  modifyExt fun g => { g with nextResourceId := g.nextResourceId + 1 }
  let nr := clamp m.numEntries 1 16
  let esz := clamp m.entrySize 16 4096
  let total := nr * esz
  let backGpa ← allocGpa total
  if backGpa = 0 then return
  fillWith backGpa zeroChunk total
  let _ ← submitCmd kCmdVq (createBlobReq s.ext rid nr esz backGpa m) 24
  modifyExt (GpuDevice.setResource slot ⟨rid, 0, 0, 0⟩)

/-- `std::clamp<int>(v, 16, 4096)`; the conversion to `int` comes first. -/
def clampDimension (v : UInt32) : Int := max 16 (min v.toInt32.toInt 4096)

def opHostHotplugScanout (m : HostHotplugScanout) : GpuM Unit := do
  let w ← get
  let index := m.consoleIndex &&& 0x7
  let con := w.dev w.trace (.console index)
  emit (.consoleLookup index (decide (con ≠ 0)))
  if con = 0 then return
  emit (.consoleResize index (clampDimension m.width) (clampDimension m.height))
  flushEvents

def opGuestMemWrite (bufId : UInt32) (data : List UInt8) : GpuM Unit := do
  let len := UInt32.ofNat (min data.length 4096)
  let gpa ← allocGpa len
  if gpa = 0 then return
  if len ≠ 0 then
    qtestMemwrite gpa (data.take len.toNat)
  bindBuf bufId ⟨gpa, len⟩

def opVqKick (vqIdx : UInt32) : GpuM Unit := do
  if vqIdx.toNat ≥ kMaxQueues then return
  mmioWritel rQueueNotify vqIdx
  flushEvents

def handlers : Handlers kMaxQueues GpuDevice where
  configRead := opConfigReadWord
  guestMemWrite := opGuestMemWrite
  vqAddDesc := addDescWith descTarget
  vqKick := opVqKick
  vqWaitUsed := opVqWaitUsed
  resetIterationState := resetIterationState
  mmioCorrupt := opMmioCorrupt

def dispatch : VirtioOp → GpuM Unit
  | .common op => dispatchCommon handlers op
  | .gpuCreate2D m => opCreate2D m
  | .gpuResourceUnref slotIdx => opResourceUnref slotIdx
  | .gpuAttachBacking m => opAttachBacking m
  | .gpuDetachBacking slotIdx => opDetachBacking slotIdx
  | .gpuTransferToHost slotIdx rect offset => opTransferToHost slotIdx rect offset
  | .gpuResourceFlush slotIdx rect => opResourceFlush slotIdx rect
  | .gpuSetScanout scanoutId slotIdx rect => opSetScanout scanoutId slotIdx rect
  | .gpuGetDisplayInfo => opGetDisplayInfo
  | .gpuGetEdid scanoutId => opGetEdid scanoutId
  | .gpuUpdateCursor m => opUpdateCursor m
  | .gpuMoveCursor m => opMoveCursor m
  | .gpuSetFenceState m => opSetFenceState m
  | .gpuCreateBlob m => opCreateBlob m
  | .hostHotplugScanout m => opHostHotplugScanout m

/-- `proto_fuzz_virtio_gpu`. -/
def target : Target kMaxQueues GpuDevice VirtioOp where
  dispatch := dispatch
  resetIterationState := resetIterationState
  ext := resetExt

/-- `alloc_gpa` handed this range out and no reset took it back. -/
def Allocated (gpa : UInt64) (len : UInt32) (w : World kMaxQueues GpuDevice) : Prop :=
  .alloc gpa len ∈ sinceReset w.hist

theorem kept_allocated {A : List Act} (gpa : UInt64) (len : UInt32) :
    Kept (Steps A) (Allocated gpa len) :=
  fun _ _ h hs => hs.mem_sinceReset h

section Steps

variable {A : List Act} {gpa : UInt64}

private theorem within_writeAllocated (hA : Act.writeBuf ∈ A) (gpa : UInt64) {len off : UInt32}
    {data : List UInt8} (hfit : off.toNat + data.length ≤ len.toNat) :
    WithinFrom (Allocated gpa len) (Steps A) (qtestMemwrite (gpa + off.toUInt64) data) := by
  intro w hw
  exact Steps.single hA (Step.writeBuf gpa len off data w hw hfit)

theorem within_writeStart (hA : Act.writeBuf ∈ A) (len : UInt32) (data : List UInt8) :
    WithinFrom (Allocated gpa len) (Steps A) (qtestMemwrite gpa (data.take len.toNat)) := by
  have hfit : (0 : UInt32).toNat + (data.take len.toNat).length ≤ len.toNat := by
    simp
  have h := within_writeAllocated hA gpa hfit
  rw [show (0 : UInt32).toUInt64 = 0 from rfl, UInt64.add_zero] at h
  exact h

private theorem within_fillChunks (hA : Act.writeBuf ∈ A) (chunk : List UInt8) (total : UInt32)
    (fuel : Nat) (off : UInt32) :
    WithinFrom (Allocated gpa total) (Steps A) (fillChunks gpa chunk total fuel off) := by
  induction fuel generalizing off with
  | zero => exact (Within.pure _).from
  | succ fuel ih =>
      apply WithinFrom.cond
      · intro hoff
        have hlt := UInt32.lt_iff_toNat_lt.mp hoff
        have hle : off ≤ total := UInt32.le_iff_toNat_le.mpr (Nat.le_of_lt hlt)
        have hrest : (total - off).toNat = total.toNat - off.toNat :=
          UInt32.toNat_sub_of_le _ _ hle
        have hn : (min (UInt32.ofNat chunk.length) (total - off)).toNat ≤ (total - off).toNat :=
          UInt32.le_iff_toNat_le.mp Std.min_le_right
        apply WithinFrom.bind (kept_allocated gpa total)
        · apply within_writeAllocated hA gpa
          rw [List.length_take]
          omega
        · intro _
          exact ih _
      · intro _
        exact (Within.pure _).from

theorem within_fillWith (hA : Act.writeBuf ∈ A) (chunk : List UInt8) (total : UInt32) :
    WithinFrom (Allocated gpa total) (Steps A) (fillWith gpa chunk total) :=
  within_fillChunks hA chunk total _ 0

theorem within_ackInterrupt (hA : Act.event ∈ A) : Within (Steps A) ackInterrupt := by
  apply Within.bind (within_mmioReadl hA _)
  intro st
  exact Within.ite (within_mmioWritel hA _ _) (Within.pure _)

private theorem within_allocated {α : Type} {P : World kMaxQueues GpuDevice → Prop}
    (hkeep : Kept (Steps A) P) (hA : Act.bump ∈ A) (len : UInt32) {a : α}
    {k : UInt64 → GpuM α}
    (hk : ∀ gpa, WithinFrom (fun w => P w ∧ Allocated gpa len w) (Steps A) (k gpa)) :
    WithinFrom P (Steps A)
      (allocGpa len >>= fun gpa => if gpa = 0 then pure a else k gpa) := by
  apply WithinFrom.bind_post (Q := fun gpa w => gpa = 0 ∨ Allocated gpa len w) hkeep
  · exact (within_allocGpa hA len).from
  · exact allocGpa_post len
  · intro gpa
    apply WithinFrom.cond
    · intro _
      exact (Within.pure _).from
    · intro hgpa
      refine WithinFrom.mono ?_ (hk gpa)
      rintro w ⟨hP, h0 | hw⟩
      · exact absurd h0 hgpa
      · exact ⟨hP, hw⟩

end Steps

/-- The effects of a submission. -/
def submitActs : List Act := [.event, .writeBuf, .place, .bump, .submit]

theorem within_submitCmd (vq : Fin kMaxQueues) (req : List UInt8) (respLen : UInt32) :
    Within (Steps submitActs) (submitCmd vq req respLen) := by
  apply within_ifSetUp
  intro s
  refine WithinFrom.ite (Within.pure _).from ?_
  apply within_allocated (kept_setUp vq) (by decide)
  intro reqGpa
  refine WithinFrom.bind ((kept_setUp vq).and (kept_allocated _ _)) ?_ fun _ => ?_
  · exact (within_writeStart (by decide) _ req).mono fun _ h => h.2
  apply within_allocated ((kept_setUp vq).and (kept_allocated _ _)) (by decide)
  intro respGpa
  refine WithinFrom.bind (((kept_setUp vq).and (kept_allocated _ _)).and (kept_allocated _ _))
    ?_ fun _ => ?_
  · exact (within_fillWith (by decide) zeroChunk respLen).mono fun _ h => h.2
  refine WithinFrom.mono (Q := SetUp vq) (fun _ h => h.1.1) ?_
  refine Submits.bind (submits_placeDesc (by decide) vq _ _ _ _) fun _ => ?_
  refine Submits.bind (submits_placeDesc (by decide) vq _ _ _ _) fun _ => ?_
  apply Within.from
  apply Within.bind (within_submitMark (by decide) _ req)
  intro _
  apply Within.bind (within_mmioWritel (by decide) _ _)
  intro _
  apply Within.bind (within_flushEvents (by decide))
  intro _
  apply Within.bind (within_ackInterrupt (by decide))
  intro _
  exact Within.pure _

private theorem within_typedSubmit (vq : Fin kMaxQueues) (req : List UInt8) (respLen : UInt32) :
    Within (Steps typedActs) (submitCmd vq req respLen) :=
  (within_submitCmd vq req respLen).weaken fun _ _ hs => hs.mono (by decide)

private theorem within_request (vq : Fin kMaxQueues) (req : State kMaxQueues GpuDevice → List UInt8)
    (respLen : UInt32) :
    Within (Steps typedActs)
      (getState >>= fun s => submitCmd vq (req s) respLen >>= fun _ => pure ()) := by
  apply Within.bind within_getState
  intro s
  apply Within.bind (within_typedSubmit vq _ respLen)
  intro _
  exact Within.pure _

private theorem within_modifyDevice (f : GpuDevice → GpuDevice) :
    Within (Steps typedActs) (modifyExt f : GpuM Unit) :=
  within_modifyExt (by decide) f

/-- What ATTACH_BACKING and CREATE_BLOB do once their request is determined. -/
def backedSubmit (total : UInt32) (chunk : List UInt8) (req : UInt64 → List UInt8)
    (f : UInt64 → GpuDevice → GpuDevice) : GpuM Unit := do
  let backGpa ← allocGpa total
  if backGpa = 0 then return
  fillWith backGpa chunk total
  let _ ← submitCmd kCmdVq (req backGpa) 24
  modifyExt (f backGpa)

private theorem within_backedSubmit (total : UInt32) (chunk : List UInt8)
    (req : UInt64 → List UInt8) (f : UInt64 → GpuDevice → GpuDevice) :
    Within (Steps typedActs) (backedSubmit total chunk req f) := by
  apply Within.of_from
  apply within_allocated (fun _ _ _ _ => trivial) (by decide)
  intro gpa
  refine WithinFrom.mono (Q := Allocated gpa total) (fun _ h => h.2) ?_
  apply WithinFrom.bind (kept_allocated gpa total)
  · exact within_fillWith (by decide) chunk total
  intro _
  apply Within.from
  apply Within.bind (within_typedSubmit _ _ _)
  intro _
  exact within_modifyDevice (f gpa)

private theorem within_opCreate2D (m : GpuResourceCreate2D) :
    Within (Steps typedActs) (opCreate2D m) := by
  apply Within.bind within_getState
  intro s
  apply Within.bind (within_modifyDevice _)
  intro _
  apply Within.bind (within_typedSubmit _ _ _)
  intro _
  exact within_modifyDevice _

private theorem within_opResourceUnref (slotIdx : UInt32) :
    Within (Steps typedActs) (opResourceUnref slotIdx) := by
  apply Within.bind within_getState
  intro s
  apply Within.bind (within_typedSubmit _ _ _)
  intro _
  exact within_modifyDevice _

private theorem within_opAttachBacking (m : GpuResourceAttachBacking) :
    Within (Steps typedActs) (opAttachBacking m) := by
  apply Within.bind within_getState
  intro s
  exact within_backedSubmit _ _ (attachBackingReq s.ext _ _ _) _

private theorem within_opCreateBlob (m : GpuResourceCreateBlob) :
    Within (Steps typedActs) (opCreateBlob m) := by
  apply Within.bind within_getState
  intro s
  apply Within.bind (within_modifyDevice _)
  intro _
  exact within_backedSubmit _ _ (fun gpa => createBlobReq s.ext _ _ _ gpa m) _

theorem within_opHostHotplugScanout {A : List Act} (hA : Act.event ∈ A) (m : HostHotplugScanout) :
    Within (Steps A) (opHostHotplugScanout m) := by
  refine Within.get.bind fun w => ?_
  apply Within.bind (within_emit hA _ rfl)
  intro _
  refine Within.ite (Within.pure _) ?_
  apply Within.bind (within_emit hA _ rfl)
  intro _
  exact within_flushEvents hA

/-- What `op_guest_mem_write` does with a range it got. -/
def keepBuf (bufId len : UInt32) (data : List UInt8) (gpa : UInt64) : GpuM Unit := do
  if len ≠ 0 then
    qtestMemwrite gpa (data.take len.toNat)
  bindBuf bufId ⟨gpa, len⟩

theorem within_keepBuf {A : List Act} (hw : Act.writeBuf ∈ A) (hi : Act.bindBuf ∈ A)
    (bufId len : UInt32) (data : List UInt8) (gpa : UInt64) :
    WithinFrom (Allocated gpa len) (Steps A) (keepBuf bufId len data gpa) := by
  have hbind : WithinFrom (Allocated gpa len) (Steps A) (bindBuf bufId ⟨gpa, len⟩) := by
    intro w h
    exact Steps.single hi (Step.bindBuf bufId ⟨gpa, len⟩ w h)
  apply WithinFrom.ite
  · exact WithinFrom.bind (kept_allocated gpa len) (within_writeStart hw len data) fun _ => hbind
  · exact hbind

private theorem within_opGuestMemWrite (bufId : UInt32) (data : List UInt8) :
    Within (Steps [.bump, .writeBuf, .bindBuf]) (opGuestMemWrite bufId data) := by
  apply Within.of_from
  apply within_allocated (fun _ _ _ _ => trivial) (by decide)
  intro gpa
  exact (within_keepBuf (by decide) (by decide) bufId _ data gpa).mono fun _ h => h.2

private theorem within_opVqKick (vqIdx : UInt32) : Within (Steps [.event]) (opVqKick vqIdx) :=
  Within.ite (Within.pure _) (VirtioCrash.within_opVqKick (by decide) vqIdx)

theorem handlers_sound : handlers.Sound where
  configRead := within_opConfigReadWord (by decide)
  guestMemWrite := within_opGuestMemWrite
  vqAddDesc := within_addDescWith (by decide) descTarget
  vqKick := within_opVqKick
  vqWaitUsed := within_opVqWaitUsed (by decide)
  mmioCorrupt := within_opMmioCorrupt (by decide)

def asCommon : VirtioOp → Option CommonOp
  | .common op => some op
  | _ => none

private theorem dispatch_typed (op : VirtioOp) (hop : asCommon op = none) :
    Within (Steps typedActs) (dispatch op) := by
  cases op with
  | common op => cases hop
  | gpuCreate2D m => exact within_opCreate2D m
  | gpuResourceUnref slotIdx => exact within_opResourceUnref slotIdx
  | gpuAttachBacking m => exact within_opAttachBacking m
  | gpuDetachBacking slotIdx => exact within_request _ _ _
  | gpuTransferToHost slotIdx rect offset => exact within_request _ _ _
  | gpuResourceFlush slotIdx rect => exact within_request _ _ _
  | gpuSetScanout scanoutId slotIdx rect => exact within_request _ _ _
  | gpuGetDisplayInfo => exact within_request _ _ _
  | gpuGetEdid scanoutId => exact within_request _ _ _
  | gpuUpdateCursor m => exact within_request _ _ _
  | gpuMoveCursor m => exact within_request _ _ _
  | gpuSetFenceState m => exact within_modifyDevice _
  | gpuCreateBlob m => exact within_opCreateBlob m
  | hostHotplugScanout m => exact within_opHostHotplugScanout (by decide) m

theorem resetIterationState_run (w : World kMaxQueues GpuDevice) :
    resetIterationState.run w = ((), w.afterReset.setExt fun _ => resetExt) := by
  rw [resetIterationState, StateT.run_bind, resetCommon_run]
  rfl

theorem confined : target.Confined asCommon := by
  apply Target.confined_of_handlers handlers_sound _ rfl _ dispatch_typed
  · exact fun w => ⟨fun _ => resetExt, congrArg Prod.snd (resetIterationState_run w)⟩
  · intro op c hop
    cases op with
    | common op => cases hop; rfl
    | _ => cases hop

end VirtioCrash.Gpu
