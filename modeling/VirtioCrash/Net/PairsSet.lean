import VirtioCrash.Net.Minting

/-!
# Setting the queue pairs

`op_ctrl_mq_vq_pairs_set` updates `active_pairs` when `submit_ctrl` returns, which it also does when
it has dropped the command.
-/

namespace VirtioCrash.Net

open StateProgram Bytes

/-- The pairs a `CtrlMqVqPairsSet` asks for. -/
def clampedPairs (pairCount : UInt32) : UInt16 := (min (max pairCount 1) 3).toUInt16

/-- The command was sent on the control queue `cvq` named before it. -/
def PairsSent (pairCount : UInt32) (w : NetWorld) : Prop :=
  sent (opCtrlMqVqPairsSet pairCount) w =
    ctrlChain (cvq.run w).1.toNat 4 0 (le16 (clampedPairs pairCount))

/-- What selects the control queue is as it was. -/
def PairsKept (w w' : NetWorld) : Prop :=
  w'.st.ext.device.activePairs = w.st.ext.device.activePairs ∧ (cvq.run w').1 = (cvq.run w).1

private theorem activePairs_opCtrlMqVqPairsSet (pairCount : UInt32) (w : NetWorld) :
    ((opCtrlMqVqPairsSet pairCount).run w).2.st.ext.device.activePairs =
      (clampedPairs pairCount).toUInt32 :=
  rfl

private theorem pairsKept_iff (pairCount : UInt32) (w : NetWorld) :
    PairsKept w ((opCtrlMqVqPairsSet pairCount).run w).2 ↔
      (clampedPairs pairCount).toUInt32 = w.st.ext.device.activePairs := by
  have hcvq (v : NetWorld) : (cvq.run v).1 = 2 * v.st.ext.device.activePairs := rfl
  rw [PairsKept, hcvq, hcvq, activePairs_opCtrlMqVqPairsSet]
  constructor
  · exact fun h => h.1
  · intro h
    exact ⟨h, by rw [h]⟩

private theorem pairsSent_iff (pairCount : UInt32) {w : NetWorld} (hw : Sane w) :
    PairsSent pairCount w ↔
      Ready 3 (w.st.vqs (vqOf (cvq.run w).1)) ∧ fitCount w.st.bufAlloc [2, 2, 1] = 3 := by
  have hsends := sends_onCvq hw.pairs 4 0 (le16 (clampedPairs pairCount))
  have hiff := hsends.shipped_iff (hw.ids.noZero (ctrlLens_length_le _)) hw.ids.room
    (by simp [ctrlLoads])
  have hloads : ctrlLoads [4, 0] (le16 (clampedPairs pairCount))
      (payloadLen (le16 (clampedPairs pairCount))) (¬(le16 (clampedPairs pairCount)).isEmpty) =
      [.ofBytes [4, 0] 2 false,
        .ofBytes (le16 (clampedPairs pairCount)) (payloadLen (le16 (clampedPairs pairCount))) false,
        .ofBytes [0xff] 1 true] := rfl
  have hvq : ((vqOf (2 * w.st.ext.device.activePairs) : Fin kMaxQueues) : Nat) =
      (2 * w.st.ext.device.activePairs).toNat := Nat.mod_eq_of_lt hw.pairs.cvq_lt
  rw [hloads, hvq] at hiff
  exact hiff

/-- `active_pairs` follows the command exactly when it already has the value that is asked for, or
the control queue has room for the command and the pool for its buffers. -/
theorem pairsSet_follows_iff (pairCount : UInt32) {ops : List VirtioOp} {w : NetWorld}
    (hw : Reached target ops w) :
    (¬PairsSent pairCount w → PairsKept w ((opCtrlMqVqPairsSet pairCount).run w).2) ↔
      ((clampedPairs pairCount).toUInt32 = w.st.ext.device.activePairs ∨
        (Ready 3 (w.st.vqs (vqOf (cvq.run w).1)) ∧
          fitCount w.st.bufAlloc [2, 2, 1] = 3)) := by
  rw [← pairsSent_iff pairCount (sane_of_reached hw), pairsKept_iff]
  constructor
  · intro h
    by_cases hsent : PairsSent pairCount w
    · exact Or.inr hsent
    · exact Or.inl (h hsent)
  · rintro (hsame | hsent) hnot
    · exact hsame
    · exact absurd hsent hnot

/-- A machine that was only reset. -/
def resetWorld : NetWorld := runFromReset target [] readyWorld

private theorem reached_resetWorld : Reached target [] resetWorld :=
  reached_runFromReset [] readyWorld

private theorem not_pairsSent_resetWorld (pairCount : UInt32) :
    ¬PairsSent pairCount resetWorld := by
  have hnone : sent (opCtrlMqVqPairsSet pairCount) resetWorld = [] := by
    apply shipped_of_placements_eq
    rfl
  rw [PairsSent, hnone]
  exact List.cons_ne_nil _ _ ∘ Eq.symm

/-- One pair is active after a reset, so a command that asks for one may be dropped. -/
theorem pairsSet_follows_same :
    PairsKept resetWorld ((opCtrlMqVqPairsSet 1).run resetWorld).2 :=
  (pairsSet_follows_iff 1 reached_resetWorld).mpr (Or.inl (by decide +kernel))
    (not_pairsSent_resetWorld 1)

/-- Nothing is sent on a control queue that is not set up, and the next command goes to another. -/
theorem pairsSet_outruns :
    ¬∀ (pairCount : UInt32) (ops : List VirtioOp) (w : NetWorld), Reached target ops w →
      ¬PairsSent pairCount w → PairsKept w ((opCtrlMqVqPairsSet pairCount).run w).2 := by
  intro hall
  have hkept := hall 3 [] _ reached_resetWorld (not_pairsSent_resetWorld 3)
  exact absurd hkept.1 (by decide +kernel)

end VirtioCrash.Net
