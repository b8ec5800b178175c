import VirtioCrash.Net.Checked
import VirtioCrash.Harness.Submission

/-!
# The control queue index

`cvq` names the queue behind the active queue pairs. Only `CtrlMqVqPairsSet` and a reset change how
many there are, and both leave at least one and at most three.
-/

namespace VirtioCrash.Net

open StateProgram Bytes

abbrev NetWorld := World kMaxQueues (Synth NetDevice)

def DeviceKept (w w' : NetWorld) : Prop := w'.st.ext.device = w.st.ext.device

instance : IsPreorder NetWorld DeviceKept where
  refl _ := rfl
  trans _ _ _ h h' := h'.trans h

private theorem deviceKept_allocBuf (bytes : List UInt8) (len : UInt32) :
    Within DeviceKept (allocBuf bytes len : NetM UInt32) := by
  intro w
  by_cases hfull : PoolFull w.st.bufAlloc len
  · rw [allocBuf_full bytes len w hfull]
    rfl
  · rw [allocBuf_fits bytes len w hfull]
    simp [DeviceKept, World.bindBuf, World.setExt, World.stage_st, World.bump]

private theorem deviceKept_placeBuf (i : Fin kMaxQueues) (id : UInt32)
    (deviceWritable chainNext : Bool) :
    Within DeviceKept (placeBuf i id deviceWritable chainNext : NetM UInt32) := by
  intro w
  rw [placeBuf, StateProgram.run_bind, placeDesc_run]
  rfl

private theorem deviceKept_notify (i : Fin kMaxQueues) : Within DeviceKept (notify i : NetM Unit) :=
  fun _ => rfl

private theorem deviceKept_getState : Within DeviceKept (getState : NetM _) :=
  fun _ => rfl

theorem deviceKept_cvq : Within DeviceKept cvq :=
  fun _ => rfl

theorem deviceKept_opTxPacket (p : TxPacket) : Within DeviceKept (opTxPacket p) := by
  apply deviceKept_getState.bind
  intro s
  refine Within.ite (.pure _) ?_
  refine Within.ite (.pure _) ?_
  apply (deviceKept_allocBuf _ _).bind
  intro hdrId
  refine Within.ite (.pure _) ?_
  apply (deviceKept_allocBuf _ _).bind
  intro payId
  refine Within.ite (.pure _) ?_
  apply (deviceKept_placeBuf _ _ _ _).bind
  intro _
  apply (Within.ite (deviceKept_placeBuf _ _ _ _) (.pure _)).bind
  intro _
  exact deviceKept_notify _

private theorem deviceKept_ctrlSubmission (vq : Fin kMaxQueues) (hdr data : List UInt8)
    (len : UInt32) (hasData : Prop) [Decidable hasData] (place : UInt32 → Prop)
    [∀ id, Decidable (place id)] :
    Within DeviceKept (ctrlSubmission vq hdr data len hasData place) := by
  apply (deviceKept_allocBuf _ _).bind
  intro chId
  refine Within.ite (.pure _) ?_
  apply (Within.ite (deviceKept_allocBuf _ _) (.pure _)).bind
  intro dId
  refine Within.ite (.pure _) ?_
  apply (deviceKept_allocBuf _ _).bind
  intro ackId
  refine Within.ite (.pure _) ?_
  apply (deviceKept_placeBuf _ _ _ _).bind
  intro _
  apply (Within.ite (deviceKept_placeBuf _ _ _ _) (.pure _)).bind
  intro _
  apply (deviceKept_placeBuf _ _ _ _).bind
  intro _
  exact deviceKept_notify _

theorem deviceKept_opCtrlCmd (c : CtrlCmd) : Within DeviceKept (opCtrlCmd c) := by
  apply deviceKept_getState.bind
  intro s
  refine Within.ite (.pure _) ?_
  exact .ite (.pure _) (deviceKept_ctrlSubmission _ _ _ _ _ _)

theorem deviceKept_submitCtrl (vqIdx : UInt32) (vclass cmd : UInt8) (payload : List UInt8) :
    Within DeviceKept (submitCtrl vqIdx vclass cmd payload) := by
  apply Within.dite
  · intro hi
    apply deviceKept_getState.bind
    intro s
    refine Within.ite (.pure _) ?_
    exact .ite (.pure _) (deviceKept_ctrlSubmission _ _ _ _ _ _)
  · intro _
    exact .pure _

/-- At least one queue pair is active, and so few that the control queue exists. -/
def PairsInRange (w : NetWorld) : Prop :=
  1 ≤ w.st.ext.device.activePairs.toNat ∧ w.st.ext.device.activePairs.toNat ≤ 3

theorem PairsInRange.cvq_lt {w : NetWorld} (h : PairsInRange w) :
    (cvq.run w).1.toNat < kMaxQueues := by
  obtain ⟨-, hle⟩ := h
  change (2 * w.st.ext.device.activePairs).toNat < 8
  rw [UInt32.toNat_mul]
  simp only [UInt32.reduceToNat]
  omega

/-- Every run that starts with the pairs in range ends with them in range. -/
def KeepsPairs (w w' : NetWorld) : Prop := PairsInRange w → PairsInRange w'

instance : IsPreorder NetWorld KeepsPairs where
  refl _ h := h
  trans _ _ _ h h' hw := h' (h hw)

private theorem DeviceKept.keepsPairs {w w' : NetWorld} (h : DeviceKept w w') :
    KeepsPairs w w' := by
  intro hw
  rw [PairsInRange, h]
  exact hw

theorem keepsPairs_modifyDevice {f : NetDevice → NetDevice}
    (hf : ∀ d, (f d).activePairs = d.activePairs) : Within KeepsPairs (modifyDevice f) := by
  intro w hw
  change 1 ≤ (f w.st.ext.device).activePairs.toNat ∧ (f w.st.ext.device).activePairs.toNat ≤ 3
  rw [hf]
  exact hw

private theorem keepsPairs_onCvq (vclass cmd : UInt8) (payload : List UInt8) :
    Within KeepsPairs (cvq >>= fun vq => submitCtrl vq vclass cmd payload) := by
  have hkept := deviceKept_cvq.bind fun vq => deviceKept_submitCtrl vq vclass cmd payload
  exact hkept.weaken fun _ _ => DeviceKept.keepsPairs

private theorem pairs_clamped (pairCount : UInt32) :
    1 ≤ (min (max pairCount 1) 3).toUInt16.toUInt32.toNat ∧
      (min (max pairCount 1) 3).toUInt16.toUInt32.toNat ≤ 3 := by
  rw [UInt16.toNat_toUInt32, UInt32.toNat_toUInt16, min_toNat, max_toNat]
  simp only [UInt32.reduceToNat]
  omega

private theorem keepsPairs_opCtrlMqVqPairsSet (pairCount : UInt32) :
    Within KeepsPairs (opCtrlMqVqPairsSet pairCount) := by
  intro w _
  rw [opCtrlMqVqPairsSet, StateProgram.run_bind, StateProgram.run_bind]
  exact pairs_clamped pairCount

private theorem keepsPairs_opCtrlVlanDel (m : CtrlVlanDel) :
    Within KeepsPairs (opCtrlVlanDel m) := by
  apply (deviceKept_getState.weaken fun _ _ => DeviceKept.keepsPairs).bind
  intro s
  refine Within.ite ?_ (keepsPairs_onCvq _ _ _)
  refine Within.bind (keepsPairs_modifyDevice ?_) fun _ => keepsPairs_onCvq _ _ _
  exact fun _ => rfl

private theorem keepsPairs_common (op : CommonOp) :
    Within KeepsPairs (dispatchCommon handlers op) := by
  by_cases hop : op = .reset
  · subst hop
    intro w _
    change PairsInRange (resetIterationState.run w).2
    rw [resetIterationState_run]
    change 1 ≤ (1 : UInt32).toNat ∧ (1 : UInt32).toNat ≤ 3
    decide
  · refine (dispatchCommon_within handlers_sound op hop).weaken ?_
    intro w w' hs
    have hext : w'.st.ext = w.st.ext := hs.ext_eq (by cases op <;> simp [CommonOp.acts])
    exact DeviceKept.keepsPairs (congrArg Synth.device hext)

theorem keepsPairs_dispatch (op : VirtioOp) : Within KeepsPairs (dispatch op) := by
  cases op with
  | common op => exact keepsPairs_common op
  | txPacket p => exact (deviceKept_opTxPacket p).weaken fun _ _ => DeviceKept.keepsPairs
  | ctrlCmd c => exact (deviceKept_opCtrlCmd c).weaken fun _ _ => DeviceKept.keepsPairs
  | ctrlRx cmd enable => exact keepsPairs_onCvq _ _ _
  | ctrlMacAddrSet mac =>
      apply Within.bind (deviceKept_cvq.weaken fun _ _ => DeviceKept.keepsPairs)
      intro vq
      apply ((deviceKept_submitCtrl _ _ _ _).weaken fun _ _ => DeviceKept.keepsPairs).bind
      intro _
      refine keepsPairs_modifyDevice ?_
      exact fun _ => rfl
  | ctrlMacTableSet m =>
      refine Within.bind (keepsPairs_modifyDevice ?_) fun _ => keepsPairs_onCvq _ _ _
      exact fun _ => rfl
  | ctrlVlanAdd m =>
      refine Within.bind (keepsPairs_modifyDevice ?_) fun _ => keepsPairs_onCvq _ _ _
      exact fun _ => rfl
  | ctrlVlanDel m => exact keepsPairs_opCtrlVlanDel m
  | ctrlAnnounceAck => exact keepsPairs_onCvq _ _ _
  | ctrlMqVqPairsSet pairCount => exact keepsPairs_opCtrlMqVqPairsSet pairCount
  | ctrlGuestOffloads offloads => exact keepsPairs_onCvq _ _ _
  | ctrlRssConfig m => exact keepsPairs_onCvq _ _ _
  | hostSetLink up => exact fun _ h => h

/-- Thread B's `g_state` as it is constructed, with `buf_alloc` wherever it may start. -/
def constructed (bufAlloc : UInt64) : State kMaxQueues (Synth NetDevice) :=
  { threadBState target with bufAlloc := bufAlloc }

private theorem dispatch_faultless (op : VirtioOp) (w : NetWorld) :
    (Checked.dispatch op).run w = .ok ((dispatch op).run w) := by
  cases op with
  | common op =>
      cases op with
      | vqSetup vqIdx size => exact VirtioCrash.Checked.opVqSetup_run vqIdx size w
      | vqAddDesc d => exact VirtioCrash.Checked.opVqAddDesc_run d w
      | reset => exact Checked.resetIterationState_run w
      | memWriteAbsolute gpa data => exact VirtioCrash.Checked.opMemwriteAbsolute_run gpa data w
      | _ => rfl
  | txPacket p => exact Checked.opTxPacket_run p w
  | ctrlCmd c => exact Checked.opCtrlCmd_run c w
  | ctrlRx cmd enable => exact Checked.onCvq_run _ _ _ w
  | ctrlMacAddrSet mac => exact Checked.onCvq_then_run _ _ _ _ w
  | ctrlMacTableSet m => exact Checked.opCtrlMacTableSet_run m w
  | ctrlVlanAdd m => exact Checked.opCtrlVlanAdd_run m w
  | ctrlVlanDel m => exact Checked.opCtrlVlanDel_run m w
  | ctrlAnnounceAck => exact Checked.onCvq_run _ _ _ w
  | ctrlMqVqPairsSet pairCount => exact Checked.onCvq_then_run _ _ _ _ w
  | ctrlGuestOffloads offloads => exact Checked.onCvq_run _ _ _ w
  | ctrlRssConfig m => exact Checked.onCvq_run _ _ _ w
  | hostSetLink up => rfl

private theorem dispatchAll_faultless (ops : List VirtioOp) (w : NetWorld) :
    (Checked.dispatchAll ops).run w = .ok ((), dispatchAll target ops w) :=
  faultless_forM ops (fun op _ w => dispatch_faultless op w) w

private theorem runFromReset_faultless (ops : List VirtioOp) (w : NetWorld) :
    (Checked.runFromReset ops).run w = .ok ((), runFromReset target ops w) := by
  rw [Checked.runFromReset, StateT.run_bind, Checked.resetIterationState_run]
  exact dispatchAll_faultless ops _

theorem pairsInRange_reset (w : NetWorld) : PairsInRange (resetIterationState.run w).2 := by
  rw [resetIterationState_run]
  change 1 ≤ (1 : UInt32).toNat ∧ (1 : UInt32).toNat ≤ 3
  decide

theorem pairsInRange_constructed (bufAlloc : UInt64) (dev : Device) (trace : List Event)
    (hist : List Mark) : PairsInRange ⟨dev, trace, constructed bufAlloc, hist⟩ := by
  change 1 ≤ (1 : UInt32).toNat ∧ (1 : UInt32).toNat ≤ 3
  decide

private theorem pairsInRange_conc {prog : Program VirtioOp} {dev : Device}
    {st : State kMaxQueues (Synth NetDevice)} {turns : List Turn}
    {c : Conc kMaxQueues (Synth NetDevice) VirtioOp}
    (hrun : runConc target prog dev st turns = some c) :
    PairsInRange c.worldA ∧ PairsInRange c.worldB := by
  apply runConc_threads (t := target) PairsInRange _ keepsPairs_dispatch pairsInRange_reset _ hrun
  · exact fun _ _ _ hw => hw
  · exact fun dev trace => pairsInRange_constructed (kBufPoolMid kMaxQueues) dev trace []

private theorem pairsInRange_runFromReset (ops : List VirtioOp) (w : NetWorld) :
    PairsInRange (runFromReset target ops w) :=
  runFromReset_invariant pairsInRange_reset keepsPairs_dispatch ops w

private theorem pairsInRange_dispatchAll (ops : List VirtioOp) {w : NetWorld}
    (hw : PairsInRange w) : PairsInRange (dispatchAll target ops w) :=
  dispatchAll_invariant (t := target) keepsPairs_dispatch ops hw

/-- No op sequence meets an index outside its array or a remainder by zero: not in thread A, not in
thread B from a `State` as it is constructed, and not in either of them at any point of an
interleaving. The control queue is one of the queues in every state reached. -/
theorem no_fault :
    (∀ (ops : List VirtioOp) (w : NetWorld),
      (Checked.runFromReset ops).run w = .ok ((), runFromReset target ops w) ∧
        (cvq.run (runFromReset target ops w)).1.toNat < kMaxQueues) ∧
    (∀ (ops : List VirtioOp) (bufAlloc : UInt64) (dev : Device) (trace : List Event)
        (hist : List Mark),
      let w : NetWorld := ⟨dev, trace, constructed bufAlloc, hist⟩
      (Checked.dispatchAll ops).run w = .ok ((), dispatchAll target ops w) ∧
        (cvq.run (dispatchAll target ops w)).1.toNat < kMaxQueues) ∧
    (∀ (prog : Program VirtioOp) (dev : Device) (st : State kMaxQueues (Synth NetDevice))
        (turns : List Turn) (c : Conc kMaxQueues (Synth NetDevice) VirtioOp),
      runConc target prog dev st turns = some c →
        (∀ op, (Checked.dispatch op).run c.worldA = .ok ((dispatch op).run c.worldA) ∧
          (Checked.dispatch op).run c.worldB = .ok ((dispatch op).run c.worldB)) ∧
        (cvq.run c.worldA).1.toNat < kMaxQueues ∧ (cvq.run c.worldB).1.toNat < kMaxQueues) := by
  constructor
  · intro ops w
    exact ⟨runFromReset_faultless ops w, (pairsInRange_runFromReset ops w).cvq_lt⟩
  constructor
  · intro ops bufAlloc dev trace hist w
    have hw : PairsInRange w := pairsInRange_constructed bufAlloc dev trace hist
    exact ⟨dispatchAll_faultless ops w, (pairsInRange_dispatchAll ops hw).cvq_lt⟩
  · intro prog dev st turns c hrun
    obtain ⟨hA, hB⟩ := pairsInRange_conc hrun
    refine ⟨?_, hA.cvq_lt, hB.cvq_lt⟩
    intro op
    exact ⟨dispatch_faultless op _, dispatch_faultless op _⟩

/-- Thread B sets up the control queue that thread A then moves to. -/
theorem no_fault_two_threads :
    ∃ c, runConc target ⟨[.ctrlMqVqPairsSet 3], [.common (.vqSetup 6 8)], 1⟩ (fun _ _ => 8)
        (constructed 0) [.test false, .b, .a] = some c ∧
      (cvq.run c.worldA).1.toNat < kMaxQueues := by
  obtain ⟨c, hrun⟩ : ∃ c, runConc target ⟨[.ctrlMqVqPairsSet 3], [.common (.vqSetup 6 8)], 1⟩
    (fun _ _ => 8) (constructed 0) [.test false, .b, .a] = some c := ⟨_, rfl⟩
  exact ⟨c, hrun, (no_fault.2.2 _ _ _ _ c hrun).2.1⟩

end VirtioCrash.Net
