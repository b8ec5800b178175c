import VirtioCrash.Blk.Harness
import VirtioCrash.Harness.Schedule

/-!
# The concurrent mode of the blk harness

Which ops the two threads of `proto_fuzz_virtio_blk_run` dispatch, under every schedule.
-/

namespace VirtioCrash.Blk

/-- Thread A dispatches the first 256 ops in order. Thread B dispatches whole passes over its list,
as many as `thread_b_iter` asks for when its last test comes before the store to `b_stop`, and every
schedule can be brought to its end. -/
theorem schedule_shape (prog : Program VirtioOp) (dev : Device) (st : State kMaxQueues Unit)
    (turns : List LoopTurn) (s : Sched kMaxQueues Unit VirtioOp)
    (hrun : runSched target prog dev st turns = some s) :
    (∃ more s', Run.exec (Sched.step target prog) s more = some s' ∧ s'.Finished) ∧
    (s.Finished →
      s.logA = prog.ops.take (min 256 prog.ops.length) ∧
      ∃ k ≤ (clamp prog.threadBIter 1 100).toNat,
        s.logB = (List.replicate k prog.opsThreadB).flatten ∧
        ∀ pre post, turns = pre ++ .store :: post → (∀ turn ∈ post, turn.isTest = false) →
          k = (clamp prog.threadBIter 1 100).toNat) := by
  constructor
  · exact (loops_run hrun).2.completes
  · intro hfin
    obtain ⟨hA, hB⟩ := schedule_dispatches hrun hfin
    refine ⟨?_, hB⟩
    rw [hA, List.take_eq_take_min]
    rfl

theorem schedule_shape_one_pass :
    ∃ s, runSched target ⟨[.getFeatures], [.vqKick 0, .opNotSet], 1⟩ (fun _ _ => 8) constructed
        [.a, .a, .test false, .b, .b, .b, .test false, .store] = some s ∧
      ∃ k ≤ (clamp 1 1 100).toNat,
        s.logB = (List.replicate k [.vqKick 0, .opNotSet]).flatten ∧
          k = (clamp 1 1 100).toNat := by
  obtain ⟨s, hrun, hfin⟩ : ∃ s, runSched target ⟨[.getFeatures], [.vqKick 0, .opNotSet], 1⟩
      (fun _ _ => 8) constructed [.a, .a, .test false, .b, .b, .b, .test false, .store] = some s ∧
        s.Finished := ⟨_, rfl, rfl, rfl⟩
  obtain ⟨-, hshape⟩ := schedule_shape ⟨[.getFeatures], [.vqKick 0, .opNotSet], 1⟩ (fun _ _ => 8)
    constructed [.a, .a, .test false, .b, .b, .b, .test false, .store] s hrun
  obtain ⟨-, k, hk, hlog, hall⟩ := hshape hfin
  have hafter := hall [.a, .a, .test false, .b, .b, .b, .test false] [] rfl (by simp)
  exact ⟨s, hrun, k, hk, hlog, hafter⟩

end VirtioCrash.Blk
