import VirtioCrash.Blk.Harness
import VirtioCrash.Harness.RingEntries

/-!
# Published heads of the blk harness

`op_vq_add_desc` reduces the table index of a descriptor modulo the queue size and publishes the
counter it took it from. The entry names a descriptor of the table as long as fewer descriptors were
placed on the queue, since the last reset, than it has.
-/

namespace VirtioCrash.Blk

open StateProgram

/-- Every entry the op writes into the avail ring of a queue names a descriptor of that queue; only
`op_vq_add_desc` writes there. -/
def EntriesValid (w : World kMaxQueues Unit) : VirtioOp → Prop
  | .vqAddDesc d => ∀ i : Fin kMaxQueues, (i : Nat) = d.vqIdx.toNat →
      ∀ e ∈ ringEntries i w ((dispatch (.vqAddDesc d)).run w).2, e < (w.st.vqs i).size.toNat
  | _ => True

/-- An op that publishes finds fewer descriptors placed than the queue has, modulo 2^16. -/
def PlacedBelowSize (w : World kMaxQueues Unit) : VirtioOp → Prop
  | .vqAddDesc d => ∀ i : Fin kMaxQueues, (i : Nat) = d.vqIdx.toNat → (w.st.vqs i).size ≠ 0 →
      (descTarget w.st.bufs d.bufId d.len d.exoticRegion).isSome → d.chainNext = false →
        placedOn i w.hist % 65536 < (w.st.vqs i).size.toNat
  | _ => True

private theorem entriesValid_iff (w : World kMaxQueues Unit) (h : CountersTrack w) (op : VirtioOp) :
    EntriesValid w op ↔ PlacedBelowSize w op := by
  cases op with
  | vqAddDesc d =>
      apply forall_congr'
      rintro ⟨v, hv⟩
      apply forall_congr'
      rintro rfl
      let i : Fin kMaxQueues := ⟨d.vqIdx.toNat, hv⟩
      have hrun : ((dispatch (.vqAddDesc d)).run w).2 = w.addDesc descTarget d :=
        congrArg Prod.snd (opVqAddDesc_run d w)
      have hcount : (w.st.vqs i).nextDescIdx.toNat % 65536 = placedOn i w.hist % 65536 := by
        rw [h i, UInt32.toNat_ofNat']
        omega
      rw [hrun, World.addDesc, dif_pos hv]
      by_cases hsize : (w.st.vqs i).size = 0
      · rw [if_pos hsize, ringEntries_self]
        simp [i, hsize]
      · rw [if_neg hsize]
        rcases htarget : descTarget w.st.bufs d.bufId d.len d.exoticRegion with _ | ⟨gpa, dlen⟩
        · simp [ringEntries_self]
        · dsimp only
          rw [ringEntries_place]
          cases hchain : d.chainNext with
          | true => simp
          | false => simp [i, hsize, hcount]
  | _ => exact Iff.rfl

/-- Every entry of a run names a descriptor of its queue exactly when every publishing op finds
fewer descriptors placed than the queue has, in thread A and in thread B. -/
theorem published_heads_valid_iff (ops : List VirtioOp) (w : World kMaxQueues Unit) :
    (EveryOp target EntriesValid ops (target.resetIterationState.run w).2 ↔
      EveryOp target PlacedBelowSize ops (target.resetIterationState.run w).2) ∧
    (EveryOp target EntriesValid ops ⟨w.dev, w.trace, threadBState target, []⟩ ↔
      EveryOp target PlacedBelowSize ops ⟨w.dev, w.trace, threadBState target, []⟩) := by
  have hkeeps := confined.dispatch_keeps countersTrack_afterReset
    (fun a w w' hs (hw : CountersTrack w) => hw.step hs)
  have hcongr {w : World kMaxQueues Unit} (hw : CountersTrack w) :
      EveryOp target EntriesValid ops w ↔ EveryOp target PlacedBelowSize ops w :=
    everyOp_congr hkeeps (fun op w hw => entriesValid_iff w hw op) ops hw
  constructor
  · exact hcongr (confined.reset_keeps countersTrack_afterReset w)
  · exact hcongr fun _ => rfl

/-- A queue of one descriptor: the second descriptor is published under index 1. -/
theorem second_head_invalid :
    ¬∀ (ops : List VirtioOp) (w : World kMaxQueues Unit),
      EveryOp target EntriesValid ops (target.resetIterationState.run w).2 := by
  intro h
  have hrun := h [.vqSetup 0 1, .vqAddDesc ⟨0, 0, 4, false, false, 1⟩,
    .vqAddDesc ⟨0, 0, 4, false, false, 1⟩] ⟨fun _ _ => 8, [], constructed, []⟩
  have hentry := hrun.2.2.1 0 rfl 1 (by decide)
  exact absurd hentry (by decide)

end VirtioCrash.Blk
