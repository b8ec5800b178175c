import VirtioCrash.Harness.Confined

/-!
# The states a thread reaches

A thread of a harness starts from a reset or, as thread B, from the state it is constructed in. It
then dispatches ops while the other thread uses the same machine. The states of every run of one
thread and of every interleaving of two are among the ones reached here.
-/

namespace VirtioCrash

open StateProgram

variable {n : Nat} {ξ Op : Type}

/-- A thread of the target is in `w`, having dispatched `ops` (newest first) since it started. -/
inductive Reached (t : Target n ξ Op) : List Op → World n ξ → Prop
  | reset (w : World n ξ) : Reached t [] (t.resetIterationState.run w).2
  | threadB (dev : Device) (trace : List Event) : Reached t [] ⟨dev, trace, threadBState t, []⟩
  | op (op : Op) {ops : List Op} {w : World n ξ} (h : Reached t ops w) :
      Reached t (op :: ops) ((t.dispatch op).run w).2
  | machine (dev : Device) (trace : List Event) {ops : List Op} {w : World n ξ}
      (h : Reached t ops w) : Reached t ops ⟨dev, trace, w.st, w.hist⟩

variable {t : Target n ξ Op}

theorem Reached.dispatchAll {older : List Op} {w : World n ξ} (h : Reached t older w)
    (ops : List Op) : Reached t (ops.reverse ++ older) (dispatchAll t ops w) := by
  induction ops generalizing older w with
  | nil => exact h
  | cons op ops ih =>
      rw [List.reverse_cons, List.append_assoc]
      exact ih (h.op op)

theorem reached_runFromReset (ops : List Op) (w : World n ξ) :
    Reached t ops.reverse (runFromReset t ops w) := by
  have h := (Reached.reset (t := t) w).dispatchAll ops
  rwa [List.append_nil] at h

theorem reachedA_step {opsThreadB : List Op} {c c' : Conc n ξ Op} {turn : Turn}
    (h : ∃ ops, Reached t ops c.worldA) (hstep : c.step t opsThreadB turn = some c') :
    ∃ ops, Reached t ops c'.worldA := by
  obtain ⟨ops, hreached⟩ := h
  rcases Conc.step_cases hstep with ⟨op, rest, -, -, rfl⟩ | ⟨op, rest, -, -, rfl⟩ |
    ⟨-, -, -, -, ha, -⟩
  · exact ⟨op :: ops, hreached.op op⟩
  · exact ⟨ops, hreached.machine _ _⟩
  · rw [Conc.worldA, ha]
    exact ⟨ops, hreached.machine _ _⟩

theorem reached_conc {prog : Program Op} {dev : Device} {st : State n ξ} {turns : List Turn}
    {c : Conc n ξ Op} (hrun : runConc t prog dev st turns = some c) :
    (∃ ops, Reached t ops c.worldA) ∧ ∃ ops, Reached t ops c.worldB := by
  apply runConc_threads (t := t) (fun w => ∃ ops, Reached t ops w) _ _ _ _ hrun
  · rintro dev trace w ⟨ops, h⟩
    exact ⟨ops, h.machine dev trace⟩
  · rintro op w ⟨ops, h⟩
    exact ⟨op :: ops, h.op op⟩
  · exact fun w => ⟨[], .reset w⟩
  · exact fun dev trace => ⟨[], .threadB dev trace⟩

/-- A property of the thread-local state that both starts have and every op keeps. -/
theorem Reached.invariant {inv : World n ξ → Prop}
    (hlocal : ∀ dev trace w, inv w → inv ⟨dev, trace, w.st, w.hist⟩)
    (hreset : ∀ w, inv (t.resetIterationState.run w).2)
    (hB : ∀ dev trace, inv ⟨dev, trace, threadBState t, []⟩)
    (hop : ∀ op w, inv w → inv ((t.dispatch op).run w).2) {ops : List Op} {w : World n ξ}
    (h : Reached t ops w) : inv w := by
  induction h with
  | reset w => exact hreset w
  | threadB dev trace => exact hB dev trace
  | op op h ih => exact hop op _ ih
  | machine dev trace h ih => exact hlocal dev trace _ ih

theorem Target.Confined.reached_invariant {asCommon : Op → Option CommonOp}
    (ht : t.Confined asCommon) {inv : World n ξ → Prop}
    (hlocal : ∀ dev trace w, inv w → inv ⟨dev, trace, w.st, w.hist⟩)
    (hreset : ∀ (w : World n ξ) f, inv (w.afterReset.setExt f))
    (hB : ∀ dev trace, inv ⟨dev, trace, threadBState t, []⟩)
    (hstep : ∀ a w w', Step a w w' → inv w → inv w') {ops : List Op} {w : World n ξ}
    (h : Reached t ops w) : inv w :=
  h.invariant hlocal (ht.reset_keeps hreset) hB (ht.dispatch_keeps hreset hstep)

theorem Reached.poolInv {asCommon : Op → Option CommonOp} (ht : t.Confined asCommon) (hn : n ≤ 16)
    {ops : List Op} {w : World n ξ} (h : Reached t ops w) :
    PoolInv (kBufPoolBase n).toNat w := by
  apply ht.reached_invariant _ (poolInv_afterReset hn) (poolInv_threadB hn t) _ h
  · exact fun _ _ _ hw => ⟨hw.packed, hw.bufs⟩
  · exact fun _ _ _ hs hw => hw.step hs

/-- A thread of the target is in `w`; the log holds the ops it has dispatched since it started,
newest first, each with the world it found. -/
inductive Logged (t : Target n ξ Op) : List (Op × World n ξ) → World n ξ → Prop
  | reset (w : World n ξ) : Logged t [] (t.resetIterationState.run w).2
  | threadB (dev : Device) (trace : List Event) : Logged t [] ⟨dev, trace, threadBState t, []⟩
  | op (op : Op) {log : List (Op × World n ξ)} {w : World n ξ} (h : Logged t log w) :
      Logged t ((op, w) :: log) ((t.dispatch op).run w).2
  | machine (dev : Device) (trace : List Event) {log : List (Op × World n ξ)} {w : World n ξ}
      (h : Logged t log w) : Logged t log ⟨dev, trace, w.st, w.hist⟩

theorem Logged.reached {log : List (Op × World n ξ)} {w : World n ξ} (h : Logged t log w) :
    Reached t (log.map Prod.fst) w := by
  induction h with
  | reset w => exact .reset w
  | threadB dev trace => exact .threadB dev trace
  | op op h ih => exact ih.op op
  | machine dev trace h ih => exact ih.machine dev trace

/-- The log of a run of ops, on top of an older one. -/
def runLog (t : Target n ξ Op) : List Op → World n ξ → List (Op × World n ξ) →
    List (Op × World n ξ)
  | [], _, log => log
  | op :: ops, w, log => runLog t ops ((t.dispatch op).run w).2 ((op, w) :: log)

theorem Logged.run {log : List (Op × World n ξ)} {w : World n ξ} (h : Logged t log w)
    (ops : List Op) : Logged t (runLog t ops w log) (VirtioCrash.dispatchAll t ops w) := by
  induction ops generalizing w log with
  | nil => exact h
  | cons op ops ih => exact ih (h.op op)

end VirtioCrash
