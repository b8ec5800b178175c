import VirtioCrash.Gpu.ResourceIds

/-!
# Commands in their history

What a command says on the wire is determined by its message and by the ops before it: the resource
it names is the one its slot stands for, and its header carries the newest fence state.
-/

namespace VirtioCrash.Gpu

open StateProgram

/-- The resource id that the request of an op carries after these ops. -/
def ridAfter (log : Log) (op : VirtioOp) : UInt32 :=
  if creates op then drawn log
  else match namedSlot op with
    | some slot => resolves log slot
    | none => 0

def isCursor : VirtioOp → Bool
  | .gpuUpdateCursor _ | .gpuMoveCursor _ => true
  | _ => false

/-- The request reads as the message of the op, with the resource id that the ops before it
determine. -/
structure ReadsAsMessage (log : Log) (w : GpuWorld) (op : VirtioOp) (req : List UInt8) : Prop where
  decoded : ∃ hdr type body,
    cmdOf (ridAfter log op).toNat w.st.bufAlloc.toNat op = some (type, body) ∧
      hdr.type = type.toNat ∧ decodeRequest req = some (hdr, body)
  drawnHere : creates op → ridAfter log op = w.st.ext.nextResourceId
  cursor : isCursor op → req.length = 56

private theorem Follows.rid {log : Log} {g : GpuDevice} (h : Follows log g) (op : VirtioOp) :
    ridOf g op = ridAfter log op := by
  rw [ridOf, ridAfter, h.next]
  rcases namedSlot op with _ | slot
  · rfl
  · dsimp only
    rw [h.slots]

private theorem cursorReq_length (g : GpuDevice) (type scanoutId x y rid hotX hotY : UInt32) :
    (cursorReq g type scanoutId x y rid hotX hotY).length = 56 := by
  simp [cursorReq, packCtrlHdr]

private theorem requestOf_cursor {g : GpuDevice} {gpa : UInt64} {op : VirtioOp}
    (hcursor : isCursor op) {vq : Fin kMaxQueues} {req : List UInt8} {respLen : UInt32}
    (hreq : requestOf g gpa op = some (vq, req, respLen)) : req.length = 56 := by
  cases op with
  | gpuUpdateCursor m =>
      cases hreq
      exact cursorReq_length _ _ _ _ _ _ _ _
  | gpuMoveCursor m =>
      cases hreq
      exact cursorReq_length _ _ _ _ _ _ _ _
  | _ => cases hcursor

private theorem decode_sent {op : VirtioOp} (hop : asCommon op = none) {w : GpuWorld}
    (hw : InPool w) {req : List UInt8} (hsent : firstBuffer (dispatch op) w = some req) :
    ∃ type body, cmdOf (ridOf w.st.ext op).toNat w.st.bufAlloc.toNat op = some (type, body) ∧
      decodeRequest req = some (hdrOf w.st.ext type.toNat, body) := by
  obtain ⟨vq, respLen, hreq, -⟩ := requestOf_of_sent hop hw hsent
  have hend := UInt64.le_iff_toNat_le.mp hw.le_end
  rw [kBufPoolEnd_toNat, kBufPoolEndNat] at hend
  exact decode_requestOf w.st.ext (by omega) hreq

/-- After any ops, the request a typed op sends reads as its message, and its resource id is the
one drawn by the op itself, the one its slot stands for, or none. -/
theorem request_readsAsMessage {log : Log} {w : GpuWorld} (hlog : Logged target log w)
    (op : VirtioOp) (hop : asCommon op = none) {req : List UInt8}
    (hsent : firstBuffer (dispatch op) w = some req) : ReadsAsMessage log w op req := by
  have hfollows := follows_logged hlog
  have hw := inPool_logged hlog
  constructor
  · obtain ⟨type, body, hcmd, hdecode⟩ := decode_sent hop hw hsent
    rw [hfollows.rid] at hcmd
    exact ⟨_, type, body, hcmd, hdrOf_type _ _, hdecode⟩
  · intro hc
    rw [ridAfter, if_pos hc, hfollows.next]
  · intro hcursor
    obtain ⟨vq, respLen, hreq, -⟩ := requestOf_of_sent hop hw hsent
    exact requestOf_cursor hcursor hreq

/-- Slot 19 is slot 3, so the second resource has overwritten the first. -/
theorem request_readsAsMessage_overwritten :
    ReadsAsMessage (runLog target threeCreates resetWorld [])
      (dispatchAll target threeCreates resetWorld) (.gpuDetachBacking 3)
      (ridReq resetExt cmdResourceDetachBacking 2) :=
  request_readsAsMessage ((Logged.reset _).run threeCreates) (.gpuDetachBacking 3) rfl
    (by decide +kernel)

/-- After any ops, the header of the request a typed op sends is fenced as the newest
GpuSetFenceState since the last reset says, and not at all without one. -/
theorem request_fenced {log : Log} {w : GpuWorld} (hlog : Logged target log w) (op : VirtioOp)
    (hop : asCommon op = none) {req : List UInt8}
    (hsent : firstBuffer (dispatch op) w = some req) :
    ∃ type body, decodeRequest req = some (fencedHdr type (lastFence log), body) := by
  obtain ⟨type, body, -, hdecode⟩ := decode_sent hop (inPool_logged hlog) hsent
  rw [(follows_logged hlog).fence] at hdecode
  exact ⟨type.toNat, body, hdecode⟩

/-- The fence is set, and a queue is there for the command. -/
def fencedSetup : List VirtioOp :=
  [.common (.vqSetup 0 8), .gpuSetFenceState ⟨true, 7, 9⟩]

theorem request_fenced_getEdid :
    ∃ type body, decodeRequest (getEdidReq ⟨fun _ => .empty, fun _ => ⟨0, 0, 0⟩, 1, true, 7, 9⟩ 2) =
      some (fencedHdr type (lastFence (runLog target fencedSetup resetWorld [])), body) :=
  request_fenced ((Logged.reset _).run fencedSetup) (.gpuGetEdid 2) rfl (by decide +kernel)

end VirtioCrash.Gpu
