import VirtioCrash.Net.Repeatable
import VirtioCrash.Gpu.Repeatable

/-!
# Iterations are independent

What an iteration of the net or the gpu harness does in sequential mode does not depend on what
earlier iterations left in `g_state`.
-/

namespace VirtioCrash

open StateProgram

/-- From any two states of `g_state`, and with the same answers to its reads, a program causes the
same events, and it leaves the same state. -/
theorem iterations_independent :
    (∀ (prog : Program Net.VirtioOp) (w w' : World Net.kMaxQueues (Synth Net.NetDevice)),
      (∀ es q, w.dev (es ++ w.trace) q = w'.dev (es ++ w'.trace) q) →
        newest (runSequential Net.target prog w).trace w.trace =
            newest (runSequential Net.target prog w').trace w'.trace ∧
          (runSequential Net.target prog w).st = (runSequential Net.target prog w').st) ∧
    (∀ (prog : Program Gpu.VirtioOp) (w w' : World Gpu.kMaxQueues Gpu.GpuDevice),
      (∀ es q, w.dev (es ++ w.trace) q = w'.dev (es ++ w'.trace) q) →
        newest (runSequential Gpu.target prog w).trace w.trace =
            newest (runSequential Gpu.target prog w').trace w'.trace ∧
          (runSequential Gpu.target prog w).st = (runSequential Gpu.target prog w').st) := by
  constructor
  · intro prog w w' hsame
    exact runSequential_eq Net.repeatable_dispatch Net.resetIterationState_run prog hsame
  · intro prog w w' hsame
    exact runSequential_eq Gpu.repeatable_dispatch Gpu.resetIterationState_run prog hsame

/-- The same packet after nothing at all and after an iteration that set up two queues. -/
theorem iterations_independent_after_setup :
    let prog : Program Net.VirtioOp :=
      ⟨[.common (.vqSetup 1 8), .txPacket ⟨1, 0, 0, 0, 0, 0, 0, 0, [7], 0⟩], [], 0⟩
    let w : World Net.kMaxQueues (Synth Net.NetDevice) :=
      ⟨fun _ _ => 8, [], threadBState Net.target, []⟩
    let w' := runFromReset Net.target [.common (.vqSetup 0 8), .ctrlMqVqPairsSet 2] w
    newest (runSequential Net.target prog w).trace w.trace =
      newest (runSequential Net.target prog w').trace w'.trace := by
  intro prog w w'
  exact (iterations_independent.1 prog w w' fun _ _ => rfl).1

end VirtioCrash
