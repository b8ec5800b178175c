import VirtioCrash.Harness.AllocCalls
import VirtioCrash.Harness.Reached
import VirtioCrash.Scsi.DataBuffer

/-!
# When a SCSI submission is abandoned

`synth_buf_id` starts at 0 in thread B, so the first id that thread B mints is the one its callers
take for a failure.
-/

namespace VirtioCrash.Scsi

open StateProgram Bytes

abbrev ScsiWorld := World kMaxQueues (Synth Unit)

/-- The buffers of a command, in the order in which they are staged. -/
def cmdStagings (c : ScsiCmd) : List Staging :=
  let outLen := capLen (packCdb c.cdb).outLen
  let inLen := capLen (packCdb c.cdb).inLen
  (if outLen > 0 then [⟨paddedOut (outDataOf c.cdb) outLen, outLen⟩] else []) ++
    ⟨List.replicate (12 + kSenseSize) 0, 12 + UInt32.ofNat kSenseSize⟩ ::
    if inLen > 0 then [⟨List.replicate inLen.toNat 0, inLen⟩] else []

/-- A submission: the descriptors it checks for, its queue and its buffers, of which there is at
least one. -/
structure Submission where
  room : UInt32
  vq : Fin kMaxQueues
  first : Staging
  rest : List Staging

def submission : VirtioOp → Option Submission
  | .common _ => none
  | .scsiCmd c => some ⟨5, Fin.ofNat kMaxQueues c.vqIdx.toNat, ⟨scsiReq c, 52⟩, cmdStagings c⟩
  | .tmfReq m => some ⟨3, kCtrlVq, ⟨tmfRequest m, 24⟩, [⟨[0], 1⟩]⟩
  | .anReq m => some ⟨3, kCtrlVq, ⟨anRequest m, 16⟩, [⟨List.replicate 5 0, 5⟩]⟩

/-- The `alloc_buf` calls an op makes. -/
def opCalls (op : VirtioOp) (w : ScsiWorld) : List (AllocCall kMaxQueues Unit) :=
  match submission op with
  | none => []
  | some m => if Ready m.room (w.st.vqs m.vq) then allocCalls (m.first :: m.rest) w else []

private theorem stages_reqResp (i : Fin kMaxQueues) (req resp : Staging) :
    Stages [req, resp]
      (allocBuf req.bytes req.len >>= fun reqId => if reqId = 0 then pure () else
        allocBuf resp.bytes resp.len >>= fun respId => if respId = 0 then pure () else
          placeBuf i reqId false true >>= fun _ =>
            placeBuf i respId true false >>= fun _ => notify i : ScsiM Unit) := by
  apply Stages.alloc
  intro reqId
  apply Stages.alloc
  intro respId
  exact Stages.done _

private theorem stages_dispatch {op : VirtioOp} {m : Submission} (hm : submission op = some m)
    {w : ScsiWorld} (hready : Ready m.room (w.st.vqs m.vq)) :
    ∃ p, Stages (m.first :: m.rest) p ∧ (dispatch op).run w = p.run w := by
  cases op with
  | common op => cases hm
  | scsiCmd c =>
      cases hm
      change ∃ p : ScsiM Unit, _ ∧ (submitScsiCmd c).run w = p.run w
      rw [submitScsiCmd, run_bind, getState_run]
      dsimp only
      rw [if_neg hready.1, if_neg hready.2]
      refine ⟨_, ?_, rfl⟩
      apply Stages.alloc (b := ⟨scsiReq c, 52⟩)
      intro reqId
      apply Stages.allocIf (b := ⟨paddedOut (outDataOf c.cdb) (capLen (packCdb c.cdb).outLen),
        capLen (packCdb c.cdb).outLen⟩)
      intro outId
      apply Stages.alloc (b := ⟨List.replicate (12 + kSenseSize) 0, 12 + UInt32.ofNat kSenseSize⟩)
      intro respId
      rw [← List.append_nil (ite _ _ _)]
      apply Stages.allocIf (b := ⟨List.replicate (capLen (packCdb c.cdb).inLen).toNat 0,
        capLen (packCdb c.cdb).inLen⟩)
      intro inId
      exact Stages.done _
  | tmfReq t =>
      cases hm
      refine ⟨_, stages_reqResp kCtrlVq ⟨tmfRequest t, 24⟩ ⟨[0], 1⟩, ?_⟩
      change (submitTmf t).run w = _
      rw [submitTmf, run_bind, getState_run]
      dsimp only
      rw [if_neg hready.1, if_neg hready.2]
  | anReq a =>
      cases hm
      refine ⟨_, stages_reqResp kCtrlVq ⟨anRequest a, 16⟩ ⟨List.replicate 5 0, 5⟩, ?_⟩
      change (submitAn a).run w = _
      rw [submitAn, run_bind, getState_run]
      dsimp only
      rw [if_neg hready.1, if_neg hready.2]

private theorem dispatch_abandoned {op : VirtioOp} {w : ScsiWorld} {c : AllocCall kMaxQueues Unit}
    (hc : c ∈ opCalls op w) (hzero : c.id = 0) : ((dispatch op).run w).2 = c.after := by
  rw [opCalls] at hc
  rcases hm : submission op with _ | m
  · rw [hm] at hc
    cases hc
  · rw [hm] at hc
    dsimp only at hc
    split at hc
    · rename_i hready
      obtain ⟨p, ⟨k, rfl⟩, hrun⟩ := stages_dispatch hm hready
      rw [hrun]
      exact stageThen_abandoned hc hzero
    · cases hc

theorem sends_submitTmf (m : TmfReq) (w : ScsiWorld) :
    Sends 3 kCtrlVq [24, 1] [.ofBytes (tmfRequest m) 24 false, .ofBytes [0] 1 true] w
      ((submitTmf m).run w).2 := by
  rw [submitTmf]
  apply sends_guarded
  intro _
  exact delivers_reqResp kCtrlVq (tmfRequest m) [0] 24 1 w

theorem sends_submitAn (m : AnReq) (w : ScsiWorld) :
    Sends 3 kCtrlVq [16, 5] [.ofBytes (anRequest m) 16 false, .ofBytes (List.replicate 5 0) 5 true]
      w ((submitAn m).run w).2 := by
  rw [submitAn]
  apply sends_guarded
  intro _
  exact delivers_reqResp kCtrlVq (anRequest m) (List.replicate 5 0) 16 5 w

private theorem mints_dispatch (op : VirtioOp) (hop : asCommon op = none) (w : ScsiWorld) :
    ∃ k, Mints k w ((dispatch op).run w).2 := by
  cases op with
  | common op => cases hop
  | scsiCmd c => exact (sends_submitScsiCmd c w).mintsSome
  | tmfReq m => exact (sends_submitTmf m w).mintsSome
  | anReq m => exact (sends_submitAn m w).mintsSome

/-- The counter starts at 0 in thread B and in the upper half after a reset. -/
def IdsOfThread (w : ScsiWorld) : Prop := ∃ base, base ≤ 2 ^ 31 ∧ IdsFrom base w

private theorem idsFrom_reset (w : ScsiWorld) : IdsFrom (2 ^ 31) (resetIterationState.run w).2 := by
  rw [resetIterationState_run]
  apply IdsFrom.start
  · change kBufPoolBase kMaxQueues ≤ kBufPoolEnd
    decide
  · rfl

/-- An op leaves the counter where it was or moves it up, or it is a reset. -/
private theorem idsFrom_dispatch {base : Nat} (hbase : base ≤ 2 ^ 31) (op : VirtioOp)
    {w : ScsiWorld} (h : IdsFrom base w) :
    IdsFrom base ((dispatch op).run w).2 ∨ IdsFrom (2 ^ 31) ((dispatch op).run w).2 := by
  rcases hop : asCommon op with _ | c
  · obtain ⟨k, hmints⟩ := mints_dispatch op hop w
    exact Or.inl (h.mints hbase hmints)
  · by_cases hc : c = .reset
    · subst hc
      have hreset : dispatch op = resetIterationState := confined.dispatch_reset op hop
      rw [hreset]
      exact Or.inr (idsFrom_reset w)
    · refine Or.inl (h.steps ?_ (confined.dispatch_common op c hop hc w))
      cases c <;> simp [CommonOp.acts]

private theorem ids_of_reached {ops : List VirtioOp} {w : ScsiWorld} (hw : Reached target ops w) :
    IdsOfThread w := by
  apply hw.invariant
  · rintro dev trace w ⟨base, hbase, hroom, hge, hle⟩
    exact ⟨base, hbase, hroom, hge, hle⟩
  · exact fun w => ⟨2 ^ 31, Nat.le_refl _, idsFrom_reset w⟩
  · intro dev trace
    refine ⟨0, Nat.zero_le _, IdsFrom.start ?_ rfl⟩
    change kBufPoolMid kMaxQueues ≤ kBufPoolEnd
    decide
  · rintro op w ⟨base, hbase, h⟩
    rcases idsFrom_dispatch hbase op h with hsame | hreset
    · exact ⟨base, hbase, hsame⟩
    · exact ⟨2 ^ 31, Nat.le_refl _, hreset⟩

private theorem synthBufId_runFromReset (ops : List VirtioOp) (w : ScsiWorld) :
    (runFromReset target ops w).st.ext.synthBufId ≠ 0 := by
  have hids : IdsFrom (2 ^ 31) (runFromReset target ops w) := by
    apply runFromReset_invariant idsFrom_reset
    intro op v hv
    exact (idsFrom_dispatch (Nat.le_refl _) op hv).elim id id
  intro hzero
  have hge := hids.ge
  rw [hzero] at hge
  exact absurd hge (by decide)

private theorem cmdStagings_length_le (c : ScsiCmd) : (cmdStagings c).length ≤ 3 := by
  rw [cmdStagings]
  split <;> split <;> simp

private theorem submission_few {op : VirtioOp} {m : Submission} (hm : submission op = some m) :
    (m.first :: m.rest).length ≤ 4 := by
  cases op with
  | common op => cases hm
  | scsiCmd c =>
      cases hm
      exact Nat.succ_le_succ (cmdStagings_length_le c)
  | tmfReq t =>
      cases hm
      show 2 ≤ 4
      decide
  | anReq a =>
      cases hm
      show 2 ≤ 4
      decide

/-- The first call of an op, if it makes any, does not fit or mints an id other than 0. -/
def FirstCallFaithful (op : VirtioOp) (w : ScsiWorld) : Prop :=
  ∀ m, submission op = some m → Ready m.room (w.st.vqs m.vq) →
    PoolFull w.st.bufAlloc m.first.len ∨ w.st.ext.synthBufId ≠ 0

/-- `alloc_buf` tells success from failure exactly when it fails or `synth_buf_id` is not 0, and the
calls of an op do so exactly when the first one does. A call that returns 0 ends its op. -/
theorem allocBuf_faithful_iff {ops : List VirtioOp} {w : ScsiWorld} (hw : Reached target ops w) :
    (∀ b : Staging, (allocCall b w).Faithful ↔
      PoolFull w.st.bufAlloc b.len ∨ w.st.ext.synthBufId ≠ 0) ∧
    (∀ op, (∀ c ∈ opCalls op w, c.Faithful) ↔ FirstCallFaithful op w) ∧
    ∀ op, ∀ c ∈ opCalls op w, c.id = 0 → ((dispatch op).run w).2 = c.after := by
  obtain ⟨base, hbase, hids⟩ := ids_of_reached hw
  refine ⟨fun b => allocCall_faithful_iff hids.room, ?_, fun op c => dispatch_abandoned⟩
  intro op
  rw [opCalls]
  rcases hm : submission op with _ | m
  · simp [FirstCallFaithful, hm]
  · dsimp only
    have hfirst : FirstCallFaithful op w ↔ (Ready m.room (w.st.vqs m.vq) →
        PoolFull w.st.bufAlloc m.first.len ∨ w.st.ext.synthBufId ≠ 0) := by
      simp [FirstCallFaithful, hm]
    rw [hfirst]
    by_cases hready : Ready m.room (w.st.vqs m.vq)
    · rw [if_pos hready]
      have hiff : (∀ c ∈ allocCalls (m.first :: m.rest) w, c.Faithful) ↔ _ :=
        allocCalls_faithful_iff hids hbase (Nat.le_trans (submission_few hm) (by decide))
      exact hiff.trans ⟨fun h _ => h, fun h => h hready⟩
    · rw [if_neg hready]
      simp [hready]

def testUnitReadyCmd : ScsiCmd := ⟨2, 0, 1, 7, 0, 0, 0, .testUnitReady⟩

private theorem reached_readyWorld : Reached target [VirtioOp.common (.vqSetup 2 8)] readyWorld :=
  reached_runFromReset [VirtioOp.common (.vqSetup 2 8)] _

/-- After a reset the calls of a command are faithful. -/
theorem allocBuf_faithful_readyWorld :
    (opCalls (.scsiCmd testUnitReadyCmd) readyWorld).Forall AllocCall.Faithful := by
  rw [List.forall_iff_forall_mem]
  apply ((allocBuf_faithful_iff reached_readyWorld).2.1 _).mpr
  intro m _ _
  exact Or.inr (synthBufId_runFromReset _ _)

/-- Thread B with a queue that is set up. -/
def readyThreadB : ScsiWorld :=
  ((target.dispatch (.common (.vqSetup 2 8))).run ⟨fun _ _ => 8, [], threadBState target, []⟩).2

/-- The request of the first command that thread B sends is staged under id 0, and the command is
abandoned. -/
theorem threadB_abandons_first :
    ¬∀ (ops : List VirtioOp) (w : ScsiWorld), Reached target ops w →
      (∀ b : Staging, (allocCall b w).Faithful) ∧ ∀ op, ∀ c ∈ opCalls op w, c.Faithful := by
  intro hall
  have hreached : Reached target [VirtioOp.common (.vqSetup 2 8)] readyThreadB :=
    (Reached.threadB (fun _ _ => 8) []).op _
  have hcall : allocCall ⟨scsiReq testUnitReadyCmd, 52⟩ readyThreadB ∈
      opCalls (.scsiCmd testUnitReadyCmd) readyThreadB := by
    have hready : Ready 5 (readyThreadB.st.vqs 2) := by decide +kernel
    change _ ∈ if Ready 5 (readyThreadB.st.vqs 2) then _ else []
    rw [if_pos hready]
    exact List.mem_cons_self
  have hfaithful := (hall _ _ hreached).2 _ _ hcall
  have hzero : (allocCall ⟨scsiReq testUnitReadyCmd, 52⟩ readyThreadB).id = 0 := by
    decide +kernel
  have hsame := (hfaithful.mp hzero).bufAlloc
  revert hsame
  decide +kernel

end VirtioCrash.Scsi
