import VirtioCrash.Harness.Layout
import VirtioCrash.Lib.Run

/-!
# Programs and their two threads

What `proto_fuzz_virtio_*_run` does with a parsed program: thread A dispatches at most `kMaxOps` of
`ops`, thread B repeats `ops_thread_b` until its passes are used up or it sees `b_stop`. The harness
state is thread-local and the machine is shared. A turn of the model is a whole op, the store
to `b_stop` or one test of it. The source's threads also interleave between the accesses inside an
op; those runs are not among the ones here.
-/

namespace VirtioCrash

open StateProgram

/-- One proto-fuzz target: its dispatcher and the fields it adds to the common state. -/
structure Target (n : Nat) (ξ Op : Type) where
  dispatch : Op → Harness n ξ Unit
  resetIterationState : Harness n ξ Unit
  ext : ξ

/-- The program message of a target. -/
structure Program (Op : Type) where
  ops : List Op
  opsThreadB : List Op
  threadBIter : UInt32

def kMaxOps : Nat := 256

variable {n : Nat} {ξ Op : Type}

/-- The ops one after another, in one thread. -/
def dispatchAll (t : Target n ξ Op) (ops : List Op) (w : World n ξ) : World n ξ :=
  ops.foldl (fun w op => ((t.dispatch op).run w).2) w

/-- A run of one thread that starts with `reset_iteration_state`. -/
def runFromReset (t : Target n ξ Op) (ops : List Op) (w : World n ξ) : World n ξ :=
  dispatchAll t ops (t.resetIterationState.run w).2

theorem dispatchAll_invariant {t : Target n ξ Op} {inv : World n ξ → Prop}
    (hop : ∀ op w, inv w → inv ((t.dispatch op).run w).2) (ops : List Op) {w : World n ξ}
    (hw : inv w) : inv (dispatchAll t ops w) := by
  induction ops generalizing w with
  | nil => exact hw
  | cons op ops ih => exact ih (hop op w hw)

theorem runFromReset_invariant {t : Target n ξ Op} {inv : World n ξ → Prop}
    (hreset : ∀ w, inv (t.resetIterationState.run w).2)
    (hop : ∀ op w, inv w → inv ((t.dispatch op).run w).2) (ops : List Op) (w : World n ξ) :
    inv (runFromReset t ops w) :=
  dispatchAll_invariant hop ops (hreset w)

/-- Every op meets the condition in the state it is dispatched in. -/
def EveryOp (t : Target n ξ Op) (cond : World n ξ → Op → Prop) : List Op → World n ξ → Prop
  | [], _ => True
  | op :: ops, w => cond w op ∧ EveryOp t cond ops ((t.dispatch op).run w).2

instance decidableEveryOp (t : Target n ξ Op) (cond : World n ξ → Op → Prop)
    [∀ w op, Decidable (cond w op)] :
    (ops : List Op) → (w : World n ξ) → Decidable (EveryOp t cond ops w)
  | [], _ => isTrue trivial
  | op :: ops, w =>
      have := decidableEveryOp t cond ops ((t.dispatch op).run w).2
      inferInstanceAs (Decidable (cond w op ∧ EveryOp t cond ops _))

/-- A property that an op keeps exactly under a condition holds all along a run exactly when every
op meets the condition. -/
theorem prefixes_iff_everyOp {t : Target n ξ Op} {inv : World n ξ → Prop}
    {cond : World n ξ → Op → Prop}
    (hop : ∀ op w, inv w → (inv ((t.dispatch op).run w).2 ↔ cond w op)) (ops : List Op)
    {w : World n ξ} (hw : inv w) :
    (∀ pre, pre <+: ops → inv (dispatchAll t pre w)) ↔ EveryOp t cond ops w := by
  induction ops generalizing w with
  | nil =>
      constructor
      · exact fun _ => trivial
      · intro _ pre hpre
        rw [List.prefix_nil.mp hpre]
        exact hw
  | cons op ops ih =>
      constructor
      · intro hall
        have hnext : inv ((t.dispatch op).run w).2 := hall [op] (by simp)
        have hrest : ∀ pre, pre <+: ops → inv (dispatchAll t pre ((t.dispatch op).run w).2) :=
          fun pre hpre => hall (op :: pre) (List.cons_prefix_cons.mpr ⟨rfl, hpre⟩)
        exact ⟨(hop op w hw).mp hnext, (ih hnext).mp hrest⟩
      · rintro ⟨hcond, hrest⟩ pre hpre
        have hnext := (hop op w hw).mpr hcond
        rcases List.prefix_cons_iff.mp hpre with rfl | ⟨pre', rfl, hpre'⟩
        · exact hw
        · exact (ih hnext).mpr hrest pre' hpre'

/-- Conditions that agree wherever an invariant of the run holds. -/
theorem everyOp_congr {t : Target n ξ Op} {inv : World n ξ → Prop}
    {cond cond' : World n ξ → Op → Prop}
    (hkeep : ∀ op w, inv w → inv ((t.dispatch op).run w).2)
    (hiff : ∀ op w, inv w → (cond w op ↔ cond' w op)) (ops : List Op) {w : World n ξ}
    (hw : inv w) : EveryOp t cond ops w ↔ EveryOp t cond' ops w := by
  induction ops generalizing w with
  | nil => exact Iff.rfl
  | cons op ops ih => exact and_congr (hiff op w hw) (ih (hkeep op w hw))

/-- The thread-local part of a harness. -/
structure Thread (n : Nat) (ξ : Type) where
  st : State n ξ
  hist : List Mark

/-- A program in the middle of its run. -/
structure Conc (n : Nat) (ξ Op : Type) where
  dev : Device
  trace : List Event
  a : Thread n ξ
  b : Thread n ξ
  opsA : List Op
  stop : Bool
  passes : Nat
  opsB : List Op

/-- What the scheduler lets happen next: an op of thread A, the store to `b_stop` after its last op,
the test of `b_stop` before a pass of thread B with its outcome, or an op of thread B. -/
inductive Turn where
  | a
  | stop
  | test (seen : Bool)
  | b
  deriving DecidableEq

namespace Conc

/-- The machine as thread A sees it. -/
def worldA (c : Conc n ξ Op) : World n ξ := ⟨c.dev, c.trace, c.a.st, c.a.hist⟩

/-- The machine as thread B sees it. -/
def worldB (c : Conc n ξ Op) : World n ξ := ⟨c.dev, c.trace, c.b.st, c.b.hist⟩

def afterA (c : Conc n ξ Op) (w : World n ξ) (rest : List Op) : Conc n ξ Op :=
  { c with dev := w.dev, trace := w.trace, a := ⟨w.st, w.hist⟩, opsA := rest }

def afterB (c : Conc n ξ Op) (w : World n ξ) (rest : List Op) : Conc n ξ Op :=
  { c with dev := w.dev, trace := w.trace, b := ⟨w.st, w.hist⟩, opsB := rest }

@[simp] theorem worldA_afterA (c : Conc n ξ Op) (w : World n ξ) (rest : List Op) :
    (c.afterA w rest).worldA = w :=
  rfl

@[simp] theorem worldB_afterB (c : Conc n ξ Op) (w : World n ξ) (rest : List Op) :
    (c.afterB w rest).worldB = w :=
  rfl

/-- One turn. The relaxed load may miss the store to `b_stop`, but it cannot see it early. -/
def step (t : Target n ξ Op) (opsThreadB : List Op) (c : Conc n ξ Op) :
    Turn → Option (Conc n ξ Op)
  | .a =>
      match c.opsA with
      | [] => none
      | op :: rest => some (c.afterA ((t.dispatch op).run c.worldA).2 rest)
  | .stop => if c.opsA.isEmpty then some { c with stop := true } else none
  | .test seen =>
      match c.opsB, c.passes with
      | [], passes + 1 =>
          if seen then
            if c.stop then some { c with passes := 0 } else none
          else some { c with passes := passes, opsB := opsThreadB }
      | _, _ => none
  | .b =>
      match c.opsB with
      | [] => none
      | op :: rest => some (c.afterB ((t.dispatch op).run c.worldB).2 rest)

end Conc

def VqState.default : VqState := ⟨0, 0, 0, 0, 0, 0⟩

/-- Thread B's `g_state`: default-constructed but for `buf_alloc`. -/
def threadBState (t : Target n ξ Op) : State n ξ where
  vqs := fun _ => .default
  bufAlloc := kBufPoolMid n
  bufs := fun _ => none
  ext := t.ext

/-- The program once both threads can run, on a device and from whatever the last program left in
thread A's `g_state`. -/
def startConc (t : Target n ξ Op) (prog : Program Op) (dev : Device) (st : State n ξ) :
    Conc n ξ Op :=
  let w := (t.resetIterationState.run ⟨dev, [], st, []⟩).2
  { dev := w.dev
    trace := w.trace
    a := ⟨w.st, w.hist⟩
    b := ⟨threadBState t, []⟩
    opsA := prog.ops.take kMaxOps
    stop := false
    passes := if prog.opsThreadB.isEmpty then 0 else (min (max prog.threadBIter 1) 100).toNat
    opsB := [] }

/-- The program after the scheduler's choices, when they are possible. -/
def runConc (t : Target n ξ Op) (prog : Program Op) (dev : Device) (st : State n ξ)
    (turns : List Turn) : Option (Conc n ξ Op) :=
  Run.exec (Conc.step t prog.opsThreadB) (startConc t prog dev st) turns

/-- A condition on every op that thread A dispatches, in the state it dispatches it in. -/
def OnA (cond : World n ξ → Op → Prop) (c : Conc n ξ Op) (turn : Turn) : Prop :=
  turn = .a → ∀ op ∈ c.opsA.head?, cond c.worldA op

/-- A condition on every op that thread B dispatches, in the state it dispatches it in. -/
def OnB (cond : World n ξ → Op → Prop) (c : Conc n ξ Op) (turn : Turn) : Prop :=
  turn = .b → ∀ op ∈ c.opsB.head?, cond c.worldB op

instance (cond : World n ξ → Op → Prop) [∀ w op, Decidable (cond w op)] (c : Conc n ξ Op)
    (turn : Turn) : Decidable (OnA cond c turn) :=
  inferInstanceAs (Decidable (_ → ∀ op ∈ c.opsA.head?, cond c.worldA op))

instance (cond : World n ξ → Op → Prop) [∀ w op, Decidable (cond w op)] (c : Conc n ξ Op)
    (turn : Turn) : Decidable (OnB cond c turn) :=
  inferInstanceAs (Decidable (_ → ∀ op ∈ c.opsB.head?, cond c.worldB op))

/-- Every turn of the run meets the condition. -/
def AlwaysConc (t : Target n ξ Op) (prog : Program Op) (dev : Device) (st : State n ξ)
    (cond : Conc n ξ Op → Turn → Prop) (turns : List Turn) : Prop :=
  Run.Always (Conc.step t prog.opsThreadB) cond (startConc t prog dev st) turns

instance (t : Target n ξ Op) (prog : Program Op) (dev : Device) (st : State n ξ)
    (cond : Conc n ξ Op → Turn → Prop) [∀ c turn, Decidable (cond c turn)] (turns : List Turn) :
    Decidable (AlwaysConc t prog dev st cond turns) :=
  inferInstanceAs (Decidable (Run.Always _ cond _ turns))

/-- What a turn does: one thread dispatches its next op, or only the control state changes. -/
theorem Conc.step_cases {t : Target n ξ Op} {opsThreadB : List Op} {c c' : Conc n ξ Op}
    {turn : Turn} (h : c.step t opsThreadB turn = some c') :
    (∃ op rest, turn = .a ∧ c.opsA = op :: rest ∧
      c' = c.afterA ((t.dispatch op).run c.worldA).2 rest) ∨
    (∃ op rest, turn = .b ∧ c.opsB = op :: rest ∧
      c' = c.afterB ((t.dispatch op).run c.worldB).2 rest) ∨
    (turn ≠ .a ∧ turn ≠ .b ∧ c'.dev = c.dev ∧ c'.trace = c.trace ∧ c'.a = c.a ∧ c'.b = c.b ∧
      c'.opsA = c.opsA ∧ (c'.opsB = c.opsB ∨ c'.opsB = opsThreadB)) := by
  cases turn with
  | a =>
      left
      rcases hops : c.opsA with _ | ⟨op, rest⟩
      · simp [Conc.step, hops] at h
      · refine ⟨op, rest, rfl, rfl, ?_⟩
        simpa [Conc.step, hops] using h.symm
  | b =>
      right
      left
      rcases hops : c.opsB with _ | ⟨op, rest⟩
      · simp [Conc.step, hops] at h
      · refine ⟨op, rest, rfl, rfl, ?_⟩
        simpa [Conc.step, hops] using h.symm
  | stop =>
      right
      right
      simp only [Conc.step] at h
      split at h
      · cases h
        simp
      · cases h
  | test seen =>
      right
      right
      simp only [Conc.step] at h
      split at h
      · split at h
        · split at h
          · cases h
            simp
          · cases h
        · cases h
          simp
      · cases h

/-- An invariant of the interleavings: each thread keeps it by its own ops, under the conditions on
them, and the control turns do not matter to it. -/
theorem runConc_invariant {t : Target n ξ Op} {prog : Program Op}
    (condA condB : World n ξ → Op → Prop) (inv : Conc n ξ Op → Prop)
    (hcontrol : ∀ c c' : Conc n ξ Op, c'.trace = c.trace → c'.a = c.a → c'.b = c.b →
      c'.opsA = c.opsA → inv c → inv c')
    (hA : ∀ c op rest, c.opsA = op :: rest → condA c.worldA op → inv c →
      inv (c.afterA ((t.dispatch op).run c.worldA).2 rest))
    (hB : ∀ c op rest, op ∈ prog.opsThreadB → condB c.worldB op → inv c →
      inv (c.afterB ((t.dispatch op).run c.worldB).2 rest))
    {dev : Device} {st : State n ξ} {turns : List Turn} {c : Conc n ξ Op}
    (hstart : inv (startConc t prog dev st))
    (hcond : AlwaysConc t prog dev st (fun c turn => OnA condA c turn ∧ OnB condB c turn) turns)
    (hrun : runConc t prog dev st turns = some c) : inv c := by
  have hinv : inv c ∧ ∀ op ∈ c.opsB, op ∈ prog.opsThreadB := by
    refine Run.invariant (fun c => inv c ∧ ∀ op ∈ c.opsB, op ∈ prog.opsThreadB) ?_ ⟨hstart, ?_⟩
      hcond hrun
    · rintro c turn c' ⟨hc, hops⟩ ⟨hcA, hcB⟩ hstep
      rcases Conc.step_cases hstep with ⟨op, rest, rfl, hA', rfl⟩ | ⟨op, rest, rfl, hB', rfl⟩ |
        ⟨-, -, hdev, htrace, ha, hb, hopsA, hopsB⟩
      · exact ⟨hA c op rest hA' (hcA rfl op (by simp [hA'])) hc, hops⟩
      · refine ⟨hB c op rest (hops op (by simp [hB'])) (hcB rfl op (by simp [hB'])) hc, ?_⟩
        intro op' hop'
        exact hops op' (by rw [hB']; exact List.mem_cons_of_mem op hop')
      · refine ⟨hcontrol c c' htrace ha hb hopsA hc, ?_⟩
        rcases hopsB with hopsB | hopsB
        · rw [hopsB]
          exact hops
        · rw [hopsB]
          exact fun _ h => h
    · simp [startConc]
  exact hinv.1

/-- An invariant of the thread-local part of a harness holds in both threads, however they are
interleaved. -/
theorem runConc_threads {t : Target n ξ Op} {prog : Program Op} (inv : World n ξ → Prop)
    (hlocal : ∀ dev trace w, inv w → inv ⟨dev, trace, w.st, w.hist⟩)
    (hop : ∀ op w, inv w → inv ((t.dispatch op).run w).2)
    (hA : ∀ w, inv (t.resetIterationState.run w).2)
    (hB : ∀ dev trace, inv ⟨dev, trace, threadBState t, []⟩)
    {dev : Device} {st : State n ξ} {turns : List Turn} {c : Conc n ξ Op}
    (hrun : runConc t prog dev st turns = some c) : inv c.worldA ∧ inv c.worldB := by
  apply Run.invariant (fun c : Conc n ξ Op => inv c.worldA ∧ inv c.worldB) _ _
    (Run.always_true _ _) hrun
  · intro c turn c' h _ hstep
    rcases Conc.step_cases hstep with ⟨op, rest, -, -, rfl⟩ | ⟨op, rest, -, -, rfl⟩ |
      ⟨-, -, -, -, ha, hb, -⟩
    · exact ⟨hop op c.worldA h.1, hlocal _ _ c.worldB h.2⟩
    · exact ⟨hlocal _ _ c.worldA h.1, hop op c.worldB h.2⟩
    · rw [Conc.worldA, Conc.worldB, ha, hb]
      exact ⟨hlocal _ _ c.worldA h.1, hlocal _ _ c.worldB h.2⟩
  · exact ⟨hlocal _ _ _ (hA _), hB _ _⟩

end VirtioCrash
