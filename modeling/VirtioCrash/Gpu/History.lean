import VirtioCrash.Gpu.RequestFormat
import VirtioCrash.Gpu.SentRequest
import VirtioCrash.Gpu.Slots
import VirtioCrash.Harness.Reached

/-!
# What the ops since the last reset mean for the next one

Three laws say, in terms of the ops a thread has dispatched, which id the next creating command
draws, which resource a slot stands for, and how a command is fenced. `follows_logged` is the run
lemma: in every reachable state the harness has what the laws say.
-/

namespace VirtioCrash.Gpu

open StateProgram

/-- The ops of a thread, newest first, each with the world it found. -/
abbrev Log := List (VirtioOp × GpuWorld)

/-- The ops behind the last reset. -/
def sinceLast (log : Log) : Log := log.takeWhile fun e => asCommon e.1 ≠ some .reset

/-- How often an id was drawn since the last reset. -/
def creations (log : Log) : Nat := (sinceLast log).countP fun e => creates e.1

/-- The id that a creating command draws after these ops. -/
def drawn (log : Log) : UInt32 := UInt32.ofNat (creations log + 1)

/-- The slot an op writes and what it stands for afterwards: the id a creating command draws, and
none after an UNREF. A CREATE_BLOB whose backing does not fit is aborted and writes no slot. -/
def assigns (id : UInt32) (w : GpuWorld) : VirtioOp → Option (Fin kResourceSlots × UInt32)
  | .gpuCreate2D m => some (resourceSlot m.resourceSlot, id)
  | .gpuCreateBlob m =>
      if PoolFull w.st.bufAlloc (clamp m.numEntries 1 16 * clamp m.entrySize 16 4096) then none
      else some (resourceSlot m.resourceSlot, id)
  | .gpuResourceUnref slotIdx => some (resourceSlot slotIdx, 0)
  | _ => none

/-- The resource a slot stands for: that of the newest op that wrote it. -/
def resolves : Log → Fin kResourceSlots → UInt32
  | [], _ => 0
  | (op, w) :: log, slot =>
      if asCommon op = some .reset then 0
      else match assigns (drawn log) w op with
        | some (t, id) => if slot = t then id else resolves log slot
        | none => resolves log slot

/-- The newest message that set the fence state. -/
def lastFence : Log → Option GpuSetFenceState
  | [] => none
  | (.common .reset, _) :: _ => none
  | (.gpuSetFenceState m, _) :: _ => some m
  | _ :: log => lastFence log

/-- The header of a command of this type, as the newest message fences it. -/
def fencedHdr (type : Nat) : Option GpuSetFenceState → CtrlHdr
  | some ⟨true, fenceId, ctxId⟩ => ⟨type, 1, fenceId.toNat, ctxId.toNat, 0⟩
  | _ => ⟨type, 0, 0, 0, 0⟩

theorem sinceLast_cons {op : VirtioOp} (hop : asCommon op ≠ some .reset) (w : GpuWorld)
    (log : Log) : sinceLast ((op, w) :: log) = (op, w) :: sinceLast log := by
  rw [sinceLast, List.takeWhile_cons_of_pos (by simpa using hop)]
  rfl

theorem sinceLast_reset {op : VirtioOp} (hop : asCommon op = some .reset) (w : GpuWorld)
    (log : Log) : sinceLast ((op, w) :: log) = [] := by
  rw [sinceLast, List.takeWhile_cons_of_neg (by simpa using hop)]

theorem creations_cons {op : VirtioOp} (hop : asCommon op ≠ some .reset) (w : GpuWorld)
    (log : Log) :
    creations ((op, w) :: log) = if creates op then creations log + 1 else creations log := by
  rw [creations, sinceLast_cons hop, List.countP_cons]
  by_cases hc : creates op
  · simp only [hc, if_true]
    rfl
  · simp only [hc]
    rfl

private theorem creations_reset {op : VirtioOp} (hop : asCommon op = some .reset) (w : GpuWorld)
    (log : Log) : creations ((op, w) :: log) = 0 := by
  rw [creations, sinceLast_reset hop]
  rfl

private theorem drawn_cons {op : VirtioOp} (hop : asCommon op ≠ some .reset) (w : GpuWorld)
    (log : Log) : drawn ((op, w) :: log) = if creates op then drawn log + 1 else drawn log := by
  rw [drawn, creations_cons hop]
  split
  · rw [UInt32.ofNat_add]
    rfl
  · rfl

private theorem lastFence_cons {op : VirtioOp} (hop : asCommon op ≠ some .reset)
    (hfence : ∀ m, op ≠ .gpuSetFenceState m) (w : GpuWorld) (log : Log) :
    lastFence ((op, w) :: log) = lastFence log := by
  cases op with
  | common c =>
      cases c with
      | reset => exact absurd rfl hop
      | _ => rfl
  | gpuSetFenceState m => exact absurd rfl (hfence m)
  | _ => rfl

theorem extAfter_next (st : State kMaxQueues GpuDevice) (op : VirtioOp) :
    (extAfter st op).nextResourceId =
      if creates op then st.ext.nextResourceId + 1 else st.ext.nextResourceId := by
  cases op with
  | gpuAttachBacking m =>
      simp only [extAfter]
      split
      · rfl
      · rfl
  | gpuCreateBlob m =>
      simp only [extAfter]
      split
      · rfl
      · rfl
  | _ => rfl

private theorem rid_set (g : GpuDevice) (t slot : Fin kResourceSlots) (r : ResourceSlot) :
    (g.setResource t r).rid slot = if slot = t then r.resourceId else g.rid slot := by
  rw [rid_setResource, Function.update_apply]

theorem extAfter_rid (w : GpuWorld) (op : VirtioOp) (slot : Fin kResourceSlots) :
    (extAfter w.st op).rid slot =
      match assigns w.st.ext.nextResourceId w op with
      | some (t, id) => if slot = t then id else w.st.ext.rid slot
      | none => w.st.ext.rid slot := by
  cases op with
  | gpuCreate2D m => exact rid_set _ _ _ _
  | gpuResourceUnref slotIdx => exact rid_set _ _ _ _
  | gpuAttachBacking m =>
      simp only [extAfter, assigns]
      split
      · rfl
      · rfl
  | gpuCreateBlob m =>
      simp only [extAfter, assigns]
      split
      · rfl
      · exact rid_set _ _ _ _
  | _ => rfl

private theorem extAfter_hdr (st : State kMaxQueues GpuDevice) {op : VirtioOp}
    (hfence : ∀ m, op ≠ .gpuSetFenceState m) (type : Nat) :
    hdrOf (extAfter st op) type = hdrOf st.ext type := by
  cases op with
  | gpuAttachBacking m =>
      simp only [extAfter]
      split
      · rfl
      · rfl
  | gpuSetFenceState m => exact absurd rfl (hfence m)
  | gpuCreateBlob m =>
      simp only [extAfter]
      split
      · rfl
      · rfl
  | _ => rfl

private theorem extAfter_setFence (st : State kMaxQueues GpuDevice) (m : GpuSetFenceState)
    (type : Nat) : hdrOf (extAfter st (.gpuSetFenceState m)) type = fencedHdr type (some m) := by
  obtain ⟨enabled, fenceId, ctxId⟩ := m
  cases enabled with
  | true => rfl
  | false => rfl

/-- The fields of this harness are as the laws say after these ops. -/
structure Follows (log : Log) (g : GpuDevice) : Prop where
  next : g.nextResourceId = drawn log
  slots : ∀ slot, g.rid slot = resolves log slot
  fence : ∀ type, hdrOf g type = fencedHdr type (lastFence log)

private theorem follows_reset {log : Log} (hcreations : creations log = 0)
    (hslots : ∀ slot, resolves log slot = 0) (hfence : lastFence log = none) :
    Follows log resetExt where
  next := by
    rw [drawn, hcreations]
    rfl
  slots := fun slot => (hslots slot).symm
  fence := by
    intro type
    rw [hfence]
    rfl

private theorem Follows.op {log : Log} {w : GpuWorld} (h : Follows log w.st.ext) {op : VirtioOp}
    (hop : asCommon op ≠ some .reset) : Follows ((op, w) :: log) (extAfter w.st op) where
  next := by
    rw [extAfter_next, drawn_cons hop, h.next]
  slots := by
    intro slot
    rw [extAfter_rid, resolves, if_neg hop, h.next]
    split
    · rw [h.slots]
    · exact h.slots slot
  fence := by
    intro type
    by_cases hfence : ∃ m, op = .gpuSetFenceState m
    · obtain ⟨m, rfl⟩ := hfence
      exact extAfter_setFence w.st m type
    · have hother : ∀ m, op ≠ .gpuSetFenceState m := fun m hm => hfence ⟨m, hm⟩
      rw [extAfter_hdr w.st hother, lastFence_cons hop hother, h.fence]

theorem inPool_logged {log : Log} {w : GpuWorld} (h : Logged target log w) : InPool w :=
  inPool_of_poolInv (h.reached.poolInv confined (by decide)) (by decide)

theorem follows_logged {log : Log} {w : GpuWorld} (h : Logged target log w) :
    Follows log w.st.ext := by
  induction h with
  | reset w => exact follows_reset rfl (fun _ => rfl) rfl
  | threadB dev trace => exact follows_reset rfl (fun _ => rfl) rfl
  | @op op log w h ih =>
      by_cases hop : asCommon op = some .reset
      · cases op with
        | common c =>
            cases hop
            exact follows_reset (creations_reset rfl w log) (fun _ => rfl) rfl
        | _ => cases hop
      · have hext := (dispatch_accounted op w (inPool_logged h) hop).ext
        change Follows _ ((dispatch op).run w).2.st.ext
        rw [hext]
        exact ih.op hop
  | machine dev trace h ih => exact ih

end VirtioCrash.Gpu
