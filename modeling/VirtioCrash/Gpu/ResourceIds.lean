import VirtioCrash.Gpu.History

/-!
# Resource ids are fresh

Every creating command draws its id from a counter that only a reset sets back, whether its request
is published or not. As long as the counter does not wrap around, no two slots share an id, and no
two requests since the reset create the same resource.
-/

namespace VirtioCrash.Gpu

open StateProgram SlotTable

/-- The resource ids in the slots, as numbers. -/
def GpuDevice.ids (g : GpuDevice) (slot : Fin kResourceSlots) : Nat := (g.rid slot).toNat

/-- The id in the request that a creating command sent. -/
def createdId (e : VirtioOp × GpuWorld) : Option UInt32 :=
  if creates e.1 then (firstBuffer (dispatch e.1) e.2).map reqRid else none

/-- The ids in the create requests since the last reset, newest first. -/
def createdIds (log : Log) : List UInt32 := (sinceLast log).filterMap createdId

/-- The ids a thread has drawn and stored since the last reset. -/
structure FreshIds (log : Log) (g : GpuDevice) : Prop where
  slots : Fresh g.ids g.nextResourceId.toNat
  sent : ∀ id ∈ createdIds log, id.toNat < g.nextResourceId.toNat
  nodup : (createdIds log).Nodup

private theorem asCommon_of_creates {op : VirtioOp} (hc : creates op) : asCommon op = none := by
  cases op with
  | common op => cases hc
  | _ => rfl

private theorem reqRid_requestOf {g : GpuDevice} {gpa : UInt64} {op : VirtioOp} (hc : creates op)
    {vq : Fin kMaxQueues} {req : List UInt8} {respLen : UInt32}
    (hreq : requestOf g gpa op = some (vq, req, respLen)) : reqRid req = g.nextResourceId := by
  cases op with
  | gpuCreate2D m =>
      cases hreq
      simp only [create2DReq, List.append_assoc]
      exact reqRid_packCtrlHdr g _ _ _
  | gpuCreateBlob m =>
      cases hreq
      simp only [createBlobReq, List.append_assoc]
      exact reqRid_packCtrlHdr g _ _ _
  | _ => cases hc

private theorem createdId_eq {op : VirtioOp} {w : GpuWorld} (hw : InPool w) {id : UInt32}
    (hid : createdId (op, w) = some id) : creates op ∧ id = w.st.ext.nextResourceId := by
  by_cases hc : creates op
  · rw [createdId, if_pos hc, Option.map_eq_some_iff] at hid
    obtain ⟨req, hsent, rfl⟩ := hid
    obtain ⟨vq, respLen, hreq, -⟩ := requestOf_of_sent (asCommon_of_creates hc) hw hsent
    exact ⟨hc, reqRid_requestOf hc hreq⟩
  · rw [createdId, if_neg hc] at hid
    cases hid

private theorem ids_extAfter (w : GpuWorld) (op : VirtioOp) :
    (extAfter w.st op).ids =
      match assigns w.st.ext.nextResourceId w op with
      | some (t, id) => Function.update w.st.ext.ids t id.toNat
      | none => w.st.ext.ids := by
  funext slot
  rw [GpuDevice.ids, extAfter_rid]
  rcases assigns w.st.ext.nextResourceId w op with _ | ⟨t, id⟩
  · rfl
  · dsimp only
    rw [Function.update_apply]
    split
    · rfl
    · rfl

private theorem assigns_cases (id : UInt32) (w : GpuWorld) (op : VirtioOp) :
    assigns id w op = none ∨ (∃ slot, assigns id w op = some (slot, id) ∧ creates op) ∨
      ∃ slot, assigns id w op = some (slot, 0) ∧ creates op = false := by
  cases op with
  | gpuCreate2D m => exact Or.inr (Or.inl ⟨_, rfl, rfl⟩)
  | gpuResourceUnref slotIdx => exact Or.inr (Or.inr ⟨_, rfl, rfl⟩)
  | gpuCreateBlob m =>
      by_cases hfull : PoolFull w.st.bufAlloc
          (clamp m.numEntries 1 16 * clamp m.entrySize 16 4096)
      · exact Or.inl (if_pos hfull)
      · exact Or.inr (Or.inl ⟨_, if_neg hfull, rfl⟩)
  | _ => exact Or.inl rfl

private theorem next_extAfter {w : GpuWorld} {op : VirtioOp}
    (hroom : creates op → w.st.ext.nextResourceId.toNat + 1 < 2 ^ 32) :
    (extAfter w.st op).nextResourceId.toNat =
      if creates op then w.st.ext.nextResourceId.toNat + 1 else w.st.ext.nextResourceId.toNat := by
  rw [extAfter_next]
  by_cases hc : creates op
  · rw [if_pos hc, if_pos hc, UInt32.toNat_add, UInt32.toNat_one, Nat.mod_eq_of_lt (hroom hc)]
  · rw [if_neg hc, if_neg hc]

private theorem fresh_extAfter {w : GpuWorld} {op : VirtioOp}
    (hroom : creates op → w.st.ext.nextResourceId.toNat + 1 < 2 ^ 32)
    (h : Fresh w.st.ext.ids w.st.ext.nextResourceId.toNat) :
    Fresh (extAfter w.st op).ids (extAfter w.st op).nextResourceId.toNat := by
  rw [ids_extAfter, next_extAfter hroom]
  rcases assigns_cases w.st.ext.nextResourceId w op with hnone | ⟨slot, hslot, hc⟩ |
    ⟨slot, hslot, hc⟩
  · rw [hnone]
    apply h.skip
    split
    · omega
    · omega
  · rw [hslot, if_pos hc]
    exact h.draw slot (Nat.lt_succ_self _)
  · rw [hslot, if_neg (by rw [hc]; decide)]
    exact h.clear slot

private theorem FreshIds.op {log : Log} {w : GpuWorld} (hw : InPool w) {op : VirtioOp}
    (hop : asCommon op ≠ some .reset)
    (hroom : creates op → w.st.ext.nextResourceId.toNat + 1 < 2 ^ 32)
    (h : FreshIds log w.st.ext) : FreshIds ((op, w) :: log) (extAfter w.st op) := by
  have hnext := next_extAfter hroom
  have hle : w.st.ext.nextResourceId.toNat ≤ (extAfter w.st op).nextResourceId.toNat := by
    rw [hnext]
    split
    · omega
    · omega
  have hids : createdIds ((op, w) :: log) = (createdId (op, w)).toList ++ createdIds log := by
    rw [createdIds, sinceLast_cons hop, List.filterMap_cons]
    split
    · rename_i hnone
      rw [hnone]
      rfl
    · rename_i id hid
      rw [hid]
      rfl
  rcases hid : createdId (op, w) with _ | id
  · rw [hid] at hids
    constructor
    · exact fresh_extAfter hroom h.slots
    · intro id hmem
      rw [hids] at hmem
      exact Nat.lt_of_lt_of_le (h.sent id hmem) hle
    · rw [hids]
      exact h.nodup
  · obtain ⟨hc, rfl⟩ := createdId_eq hw hid
    rw [if_pos hc] at hnext
    rw [hid] at hids
    constructor
    · exact fresh_extAfter hroom h.slots
    · intro id hmem
      rw [hids] at hmem
      rcases List.mem_cons.mp hmem with rfl | hold
      · omega
      · exact Nat.lt_of_lt_of_le (h.sent id hold) hle
    · rw [hids]
      apply List.nodup_cons.mpr
      constructor
      · intro hmem
        exact Nat.lt_irrefl _ (h.sent _ hmem)
      · exact h.nodup

private theorem freshIds_reset {log : Log} (hnew : createdIds log = []) :
    FreshIds log resetExt where
  slots := Fresh.empty (by decide)
  sent := by
    rw [hnew]
    exact fun id hid => absurd hid List.not_mem_nil
  nodup := by
    rw [hnew]
    exact List.nodup_nil

private theorem next_toNat {log : Log} {g : GpuDevice} (h : Follows log g)
    (hfew : creations log < 2 ^ 32 - 1) : g.nextResourceId.toNat = creations log + 1 := by
  rw [h.next, drawn, UInt32.toNat_ofNat', Nat.mod_eq_of_lt (by omega)]

/-- With fewer than 2^32 - 1 creates since the last reset, the ids in the slots are pairwise
distinct and below the counter, and no two create requests carry the same id. -/
theorem resourceIds_fresh {log : Log} {w : GpuWorld} (hlog : Logged target log w)
    (hfew : creations log < 2 ^ 32 - 1) : FreshIds log w.st.ext := by
  induction hlog with
  | reset w => exact freshIds_reset rfl
  | threadB dev trace => exact freshIds_reset rfl
  | @op op log w h ih =>
      by_cases hop : asCommon op = some .reset
      · cases op with
        | common c =>
            cases hop
            exact freshIds_reset (by rw [createdIds, sinceLast_reset rfl]; rfl)
        | _ => cases hop
      · have hext := (dispatch_accounted op w (inPool_logged h) hop).ext
        have hcount := creations_cons hop w log
        have holder : creations log ≤ creations ((op, w) :: log) := by
          rw [hcount]
          split
          · omega
          · omega
        have hnext := next_toNat (follows_logged h) (by omega)
        change FreshIds _ ((dispatch op).run w).2.st.ext
        rw [hext]
        apply (ih (by omega)).op (inPool_logged h) hop
        intro hc
        rw [if_pos hc] at hcount
        omega
  | machine dev trace h ih => exact ih hfew

/-- Two creating commands through one slot, and one through another. -/
def threeCreates : List VirtioOp :=
  [.common (.vqSetup 0 8), .gpuCreate2D ⟨3, 1, 64, 64⟩, .gpuCreate2D ⟨19, 1, 64, 64⟩]

/-- A machine whose queues can be set up, behind a reset. -/
def resetWorld : GpuWorld :=
  (resetIterationState.run ⟨fun _ _ => 8, [], threadBState target, []⟩).2

theorem resourceIds_fresh_three :
    FreshIds (runLog target threeCreates resetWorld [])
      (dispatchAll target threeCreates resetWorld).st.ext :=
  resourceIds_fresh ((Logged.reset _).run threeCreates) (by decide +kernel)

end VirtioCrash.Gpu
