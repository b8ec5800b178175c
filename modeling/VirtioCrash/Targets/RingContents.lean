import VirtioCrash.Balloon.Harness
import VirtioCrash.Console.Harness
import VirtioCrash.Fs.Harness
import VirtioCrash.Input.Harness
import VirtioCrash.Snd.Harness
import VirtioCrash.Targets.RingRuns
import VirtioCrash.Vsock.Harness

/-!
# Guest memory shows the placements

What a target places on its virtqueues is what a device reads there, in every run of one thread and
beside another thread that leaves the rings alone.
-/

namespace VirtioCrash

open StateProgram SplitRing

variable {n : Nat} {ξ Op : Type}

/-- Guest memory as the harness wrote it, read as a device reads it, holds what was placed since the
reset on every queue that is set up: the table, the ring entries and, once there is one, the index.
While a queue is in the first lap of its table, reading the ring up to the harness's own counter
finds the published descriptors, in order. -/
structure MemoryShows (m : ByteMemory) (w : World n ξ) : Prop where
  shown : ∀ i : Fin n, (w.st.vqs i).size ≠ 0 →
    Shown (memoryAfter m w.trace) (w.st.vqs i).descGpa (w.st.vqs i).availGpa
      (w.st.vqs i).size.toNat (filled (w.st.vqs i).size.toNat (queueLog i w.hist))
  firstLap : ∀ i : Fin n, (queueLog i w.hist).length ≤ (w.st.vqs i).size.toNat →
    availDescs (memoryAfter m w.trace) (w.st.vqs i).descGpa (w.st.vqs i).availGpa
        (w.st.vqs i).size.toNat (w.st.vqs i).nextAvailIdx.toNat =
      (filled (w.st.vqs i).size.toNat (queueLog i w.hist)).published

private theorem RingsShown.memoryShows {m : ByteMemory} {w : World n ξ} (h : RingsShown m w) :
    MemoryShows m w where
  shown i := (h.queues i).shown
  firstLap i hlap := by
    have hsize := h.sizes i
    have hheads := filled_heads_le (w.st.vqs i).size.toNat (queueLog i w.hist)
    have hcount : (w.st.vqs i).nextAvailIdx.toNat =
        (filled (w.st.vqs i).size.toNat (queueLog i w.hist)).heads.length := by
      rw [(h.queues i).avail, UInt32.toNat_ofNat', Nat.mod_eq_of_lt (by omega)]
    rw [hcount]
    by_cases hpos : (w.st.vqs i).size = 0
    · rw [(h.queues i).idle hpos]
      rfl
    · apply ((h.queues i).shown hpos).availDescs_eq (filled_headsPlaced _ _)
      · rw [filled_length]
        exact hlap
      · omega
      · omega

/-- In every run of the target whose queues keep the size they were filled with, and in every
interleaving with a thread that leaves the rings alone, guest memory shows what was placed. -/
structure RingsExact (t : Target n ξ Op) (asCommon : Op → Option CommonOp) : Prop where
  single : ∀ m ops w, EveryOp t (SetupKeeps asCommon) ops (t.resetIterationState.run w).2 →
    MemoryShows m (runFromReset t ops w)
  threads : ∀ m prog dev st turns c,
    AlwaysConc t prog dev st
      (fun c turn => OnA (SetupKeeps asCommon) c turn ∧ OnB (LeavesRings asCommon) c turn) turns →
    runConc t prog dev st turns = some c → MemoryShows m c.worldA

private theorem Target.Confined.ringsExact {t : Target n ξ Op} {asCommon : Op → Option CommonOp}
    (ht : t.Confined asCommon) (hn : n ≤ 16) : RingsExact t asCommon where
  single m ops w hops :=
    (ht.ringsShown_run hn m ops hops (ht.reset_keeps (ringsShown_afterReset hn m) w)).memoryShows
  threads m _ _ _ _ _ hcond hrun := (ht.ringsShown_conc hn m hcond hrun).1.memoryShows

/-- What the ten targets place on their virtqueues is what a device reads there. -/
theorem rings_show_placements :
    RingsExact Blk.target some ∧ RingsExact Net.target Net.asCommon ∧
      RingsExact Gpu.target Gpu.asCommon ∧ RingsExact Scsi.target Scsi.asCommon ∧
      RingsExact Snd.target Snd.asCommon ∧ RingsExact Fs.target Fs.asCommon ∧
      RingsExact Vsock.target Vsock.asCommon ∧ RingsExact Balloon.target Balloon.asCommon ∧
      RingsExact Console.target Console.asCommon ∧ RingsExact Input.target Input.asCommon := by
  refine ⟨?_, ?_, ?_, ?_, ?_, ?_, ?_, ?_, ?_, ?_⟩
  · exact Blk.confined.ringsExact (by decide)
  · exact Net.confined.ringsExact (by decide)
  · exact Gpu.confined.ringsExact (by decide)
  · exact Scsi.confined.ringsExact (by decide)
  · exact Snd.confined.ringsExact (by decide)
  · exact Fs.confined.ringsExact (by decide)
  · exact Vsock.confined.ringsExact (by decide)
  · exact Balloon.confined.ringsExact (by decide)
  · exact Console.confined.ringsExact (by decide)
  · exact Input.confined.ringsExact (by decide)

/-- A buffer that is placed twice, for the device to read and to write, on a queue of 4. -/
def pairOps : List CommonOp :=
  [.vqSetup 0 4, .guestMemWrite 1 [1, 2, 3], .vqAddDesc ⟨0, 1, 3, false, true, 0⟩,
    .vqAddDesc ⟨0, 1, 3, true, false, 0⟩]

/-- The device is offered the second half of the pair, by its own number. -/
theorem rings_show_placements_pair :
    let v := runFromReset Blk.target pairOps ⟨fun _ _ => 8, [], Blk.constructed, []⟩
    MemoryShows (fun _ => 0) v ∧
      availDescs (memoryAfter (fun _ => 0) v.trace) 0x47000000 0x47001000 4 1 =
        [⟨kBufPoolBase Blk.kMaxQueues, 3, kDescWrite, 2⟩] := by
  intro v
  have hshows := rings_show_placements.1.single (fun _ => 0) pairOps
    ⟨fun _ _ => 8, [], Blk.constructed, []⟩ (by decide +kernel)
  exact ⟨hshows, (hshows.firstLap 0 (by decide +kernel)).trans (by decide +kernel)⟩

end VirtioCrash
