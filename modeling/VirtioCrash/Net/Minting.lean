import VirtioCrash.Net.Payloads
import VirtioCrash.Net.ControlQueue
import VirtioCrash.Harness.Ids

/-!
# The ids the net harness mints

What each op would stage, and that the ids it mints are the next ones of a counter that stays in the
upper half.
-/

namespace VirtioCrash.Net

open StateProgram Bytes

/-- A submission: the descriptors it checks for, its queue and the lengths of its buffers. -/
structure Submission where
  room : UInt32
  vq : Fin kMaxQueues
  staged : List UInt32

/-- The lengths of the buffers of a typed command with `k` bytes of payload. -/
def ctrlLens (k : Nat) : List UInt32 :=
  [2] ++ (if k ≠ 0 then [min (UInt32.ofNat k) 2048] else []) ++ [1]

/-- What an op submits in the state `s`. -/
def submission (s : State kMaxQueues (Synth NetDevice)) : VirtioOp → Option Submission
  | .common _ => none
  | .txPacket p => some ⟨2, vqOf p.vqIdx, [12, frameLen p]⟩
  | .ctrlCmd c =>
      let dlen := UInt32.ofNat (min c.data.length 1024)
      some ⟨3, vqOf c.vqIdx, [2] ++ (if dlen > 0 then [dlen] else []) ++ [1]⟩
  | .ctrlRx _ _ => onCvq 1
  | .ctrlMacAddrSet _ => onCvq 6
  | .ctrlMacTableSet m => onCvq (macTablePayload ⟨m.unicastMacs, m.multicastMacs⟩).length
  | .ctrlVlanAdd _ => onCvq 2
  | .ctrlVlanDel _ => onCvq 2
  | .ctrlAnnounceAck => onCvq 0
  | .ctrlMqVqPairsSet _ => onCvq 2
  | .ctrlGuestOffloads _ => onCvq 8
  | .ctrlRssConfig m => onCvq (rssPayload m).length
  | .hostSetLink _ => none
where
  onCvq (k : Nat) : Option Submission :=
    some ⟨3, vqOf (2 * s.ext.device.activePairs), ctrlLens k⟩

/-- How many ids an op mints in the state `s`. -/
def mintCount (s : State kMaxQueues (Synth NetDevice)) (op : VirtioOp) : Nat :=
  match submission s op with
  | none => 0
  | some m => mintsBehind m.room (s.vqs m.vq) s.bufAlloc m.staged

/-- The counter of the net harness starts in the upper half. -/
abbrev IdsHigh (w : NetWorld) : Prop := IdsFrom (2 ^ 31) w

theorem IdsHigh.noZero {w : NetWorld} (h : IdsHigh w) {k : Nat} (hk : k ≤ 3) : NoZero w k := by
  apply IdsFrom.noZero h (Nat.le_refl _)
  · intro hzero
    have hge := h.ge
    rw [hzero] at hge
    exact absurd hge (by decide)
  · omega

theorem ctrlLens_length_le (k : Nat) : (ctrlLens k).length ≤ 3 := by
  rw [ctrlLens]
  split
  · exact Nat.le_refl 3
  · exact Nat.le_succ 2

section

variable {w : NetWorld}

theorem sends_onCvq (hpairs : PairsInRange w) (vclass cmd : UInt8) (payload : List UInt8) :
    Sends 3 (vqOf (2 * w.st.ext.device.activePairs)) (ctrlLens payload.length)
      (ctrlLoads [vclass, cmd] payload (payloadLen payload) (¬payload.isEmpty)) w
      ((cvq >>= fun vq => submitCtrl vq vclass cmd payload).run w).2 := by
  have hvq : vqOf (2 * w.st.ext.device.activePairs) =
      ⟨(2 * w.st.ext.device.activePairs).toNat, hpairs.cvq_lt⟩ := by
    apply Fin.ext
    exact Nat.mod_eq_of_lt hpairs.cvq_lt
  have hlens : ctrlLens payload.length =
      [2] ++ (if ¬payload.isEmpty then [payloadLen payload] else []) ++ [1] := by
    simp [ctrlLens, payloadLen, List.isEmpty_iff]
  rw [hvq, hlens]
  exact sends_submitCtrl hpairs.cvq_lt vclass cmd payload w

private theorem mints_onCvq (hids : IdsHigh w) (hpairs : PairsInRange w) (vclass cmd : UInt8)
    {payload : List UInt8} {k : Nat} (hk : payload.length = k) :
    Mints (mintsBehind 3 (w.st.vqs (vqOf (2 * w.st.ext.device.activePairs))) w.st.bufAlloc
      (ctrlLens k)) w ((cvq >>= fun vq => submitCtrl vq vclass cmd payload).run w).2 := by
  rw [← hk]
  exact (sends_onCvq hpairs vclass cmd payload).mints (hids.noZero (ctrlLens_length_le _))

private theorem mints_modifyDevice (f : NetDevice → NetDevice) (w : NetWorld) :
    Mints 0 w ((modifyDevice f).run w).2 :=
  .none rfl rfl rfl

private theorem mints_remembered (hids : IdsHigh w) (hpairs : PairsInRange w)
    {f : NetDevice → NetDevice} (hf : ∀ d, (f d).activePairs = d.activePairs) (vclass cmd : UInt8)
    {payload : List UInt8} {k : Nat} (hk : payload.length = k) :
    Mints (mintsBehind 3 (w.st.vqs (vqOf (2 * w.st.ext.device.activePairs))) w.st.bufAlloc
      (ctrlLens k)) w
        ((modifyDevice f >>= fun _ => cvq >>= fun vq => submitCtrl vq vclass cmd payload).run
          w).2 := by
  have hmod := mints_modifyDevice f w
  have hsent := mints_onCvq (hids.mints (Nat.le_refl _) hmod) (keepsPairs_modifyDevice hf w hpairs)
    vclass cmd hk
  have hvq : vqOf (2 * ((modifyDevice f).run w).2.st.ext.device.activePairs) =
      vqOf (2 * w.st.ext.device.activePairs) := by
    change vqOf (2 * (f w.st.ext.device).activePairs) = _
    rw [hf]
  rw [hvq] at hsent
  exact hmod.after hsent

private theorem mints_opCtrlVlanDel (hids : IdsHigh w) (hpairs : PairsInRange w) (m : CtrlVlanDel) :
    Mints (mintCount w.st (.ctrlVlanDel m)) w ((opCtrlVlanDel m).run w).2 := by
  rw [opCtrlVlanDel, run_bind, getState_run]
  dsimp only
  split
  · apply mints_remembered hids hpairs
    · exact fun _ => rfl
    · exact le16_length _
  · exact mints_onCvq hids hpairs 2 1 (le16_length _)

/-- An op that is not a common one mints one id for each buffer that fits. -/
theorem mints_dispatch (hids : IdsHigh w) (hpairs : PairsInRange w) (op : VirtioOp)
    (hop : asCommon op = none) : Mints (mintCount w.st op) w ((dispatch op).run w).2 := by
  cases op with
  | common op => cases hop
  | txPacket p => exact (sends_opTxPacket p w).mints (hids.noZero (by simp))
  | ctrlCmd c =>
      apply (sends_opCtrlCmd c w).mints (hids.noZero _)
      split
      · exact Nat.le_refl 3
      · exact Nat.le_succ 2
  | ctrlRx cmd enable => exact mints_onCvq hids hpairs _ _ rfl
  | ctrlMacAddrSet mac =>
      have hsent := mints_onCvq hids hpairs 1 1 (pad6_length mac)
      exact hsent.trans (mints_modifyDevice (fun d => { d with currentMac := pad6 mac }) _)
  | ctrlMacTableSet m =>
      apply mints_remembered hids hpairs
      · exact fun _ => rfl
      · rfl
  | ctrlVlanAdd m =>
      apply mints_remembered hids hpairs
      · exact fun _ => rfl
      · exact le16_length _
  | ctrlVlanDel m => exact mints_opCtrlVlanDel hids hpairs m
  | ctrlAnnounceAck => exact mints_onCvq hids hpairs _ _ rfl
  | ctrlMqVqPairsSet pairCount =>
      let pairs := (min (max pairCount 1) 3).toUInt16
      have hsent := mints_onCvq hids hpairs 4 0 (le16_length pairs)
      exact hsent.trans (mints_modifyDevice (fun d => { d with activePairs := pairs.toUInt32 }) _)
  | ctrlGuestOffloads offloads => exact mints_onCvq hids hpairs 5 0 (le64_length _)
  | ctrlRssConfig m => exact mints_onCvq hids hpairs 4 1 rfl
  | hostSetLink up => exact .none rfl rfl rfl

end

/-- The counter and the pairs of a thread, in every state it reaches. -/
structure Sane (w : NetWorld) : Prop where
  ids : IdsHigh w
  pairs : PairsInRange w

theorem sane_reset (w : NetWorld) : Sane (resetIterationState.run w).2 where
  ids := by
    rw [resetIterationState_run]
    apply IdsFrom.start
    · change kBufPoolBase kMaxQueues ≤ kBufPoolEnd
      decide
    · rfl
  pairs := pairsInRange_reset w

theorem Sane.dispatch {w : NetWorld} (h : Sane w) (op : VirtioOp) :
    Sane ((target.dispatch op).run w).2 := by
  have hpairs := keepsPairs_dispatch op w h.pairs
  rcases hop : asCommon op with _ | c
  · exact ⟨h.ids.mints (Nat.le_refl _) (mints_dispatch h.ids h.pairs op hop), hpairs⟩
  · by_cases hc : c = .reset
    · subst hc
      rw [confined.dispatch_reset op hop]
      exact sane_reset w
    · refine ⟨h.ids.steps ?_ (confined.dispatch_common op c hop hc w), hpairs⟩
      cases c <;> simp [CommonOp.acts]

theorem sane_of_reached {ops : List VirtioOp} {w : NetWorld} (hw : Reached target ops w) :
    Sane w := by
  apply hw.invariant
  · exact fun dev trace w h => ⟨⟨h.ids.room, h.ids.ge, h.ids.le⟩, h.pairs⟩
  · exact sane_reset
  · intro dev trace
    constructor
    · apply IdsFrom.start
      · change kBufPoolMid kMaxQueues ≤ kBufPoolEnd
        decide
      · rfl
    · exact pairsInRange_constructed (kBufPoolMid kMaxQueues) dev trace []
  · exact fun op w h => h.dispatch op

end VirtioCrash.Net
