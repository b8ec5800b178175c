import VirtioCrash.Harness.Repeatable
import VirtioCrash.Harness.Schedule

/-!
# Iterations on a machine with a past

One call of `proto_fuzz_virtio_*_run`, on the machine that earlier calls have left: the ops one
after another, or two threads under a schedule. Of two such calls of a repeatable target one can be
replayed by the other as long as the machine answers alike.
-/

namespace VirtioCrash

open StateProgram

variable {n : Nat} {ξ Op : Type}

/-- The concurrent mode once thread B is started. -/
def startThreads (t : Target n ξ Op) (prog : Program Op) (w : World n ξ) : Sched n ξ Op :=
  let w' := (t.resetIterationState.run w).2
  { dev := w'.dev
    trace := w'.trace
    a := ⟨w'.st, w'.hist⟩
    b := ⟨threadBState t, []⟩
    pcA := .loop
    rest := prog.ops
    count := 0
    stop := false
    pcB := .test
    i := 0
    logA := []
    logB := [] }

theorem startThreads_fresh (t : Target n ξ Op) (prog : Program Op) (dev : Device)
    (st : State n ξ) : startThreads t prog ⟨dev, [], st, []⟩ = startSched t prog dev st :=
  rfl

/-- An iteration under a schedule, which is not used in sequential mode; `none` when the schedule is
not one of the whole iteration. -/
def runIteration (t : Target n ξ Op) (prog : Program Op) (turns : List LoopTurn) (w : World n ξ) :
    Option (World n ξ) :=
  if prog.opsThreadB.isEmpty then some (runSequential t prog w)
  else
    match Run.exec (Sched.step t prog) (startThreads t prog w) turns with
    | some s => if s.pcA = .join ∧ s.pcB = .exit then some s.worldA else none
    | none => none

/-- `proto_fuzz_virtio_*_run`; `load` is `LoadProtoInput`. -/
def fuzzInput (t : Target n ξ Op) (load : List UInt8 → Option (Program Op)) (data : List UInt8)
    (turns : List LoopTurn) (w : World n ξ) : Option (World n ξ) :=
  match load data with
  | some prog => runIteration t prog turns w
  | none => some w

/-- Repeatable ops, and a reset that puts one value into every field. -/
structure Target.Repeatable (t : Target n ξ Op) : Prop where
  dispatch : ∀ op, VirtioCrash.Repeatable (t.dispatch op)
  reset : ∃ x, ∀ w, t.resetIterationState.run w = ((), w.afterReset.setExt fun _ => x)

/-- The same point of the threads, with other machine parts. -/
def Sched.onto (s : Sched n ξ Op) (dev : Device) (trace : List Event) (histA histB : List Mark) :
    Sched n ξ Op :=
  { s with dev, trace, a := ⟨s.a.st, histA⟩, b := ⟨s.b.st, histB⟩ }

section

variable (s : Sched n ξ Op) (dev : Device) (trace : List Event) (histA histB : List Mark)

@[simp] theorem Sched.onto_pcA : (s.onto dev trace histA histB).pcA = s.pcA := rfl

@[simp] theorem Sched.onto_rest : (s.onto dev trace histA histB).rest = s.rest := rfl

@[simp] theorem Sched.onto_pcB : (s.onto dev trace histA histB).pcB = s.pcB := rfl

end

/-- The threads are at the same point with the same state, on machines that answer alike. -/
structure SchedTwin (old old' : List Event) (s s' : Sched n ξ Op) : Prop where
  machines : SameAnswers old old' s.worldA s'.worldA
  moved : ∃ dev trace histA histB, s' = s.onto dev trace histA histB

section

variable {t : Target n ξ Op} {old old' : List Event} {s s' : Sched n ξ Op}

private theorem SchedTwin.worldA (h : SchedTwin old old' s s') :
    Twin old old' s.worldA s'.worldA where
  toSameAnswers := h.machines
  st := by
    obtain ⟨dev, trace, histA, histB, rfl⟩ := h.moved
    rfl

private theorem SchedTwin.worldB (h : SchedTwin old old' s s') :
    Twin old old' s.worldB s'.worldB where
  events := h.machines.events
  answers := h.machines.answers
  st := by
    obtain ⟨dev, trace, histA, histB, rfl⟩ := h.moved
    rfl

private theorem SchedTwin.dispatchA (ht : t.Repeatable) (h : SchedTwin old old' s s') (op : Op) :
    SchedTwin old old' (s.dispatchA t op) (s'.dispatchA t op) := by
  have hop := (ht.dispatch op old old' _ _ h.worldA).2
  refine ⟨hop.toSameAnswers, ?_⟩
  obtain ⟨dev, trace, histA, histB, rfl⟩ := h.moved
  let w := ((t.dispatch op).run (s.onto dev trace histA histB).worldA).2
  have hst : (s.dispatchA t op).a.st = w.st := hop.st
  have hmoved : (s.dispatchA t op).onto w.dev w.trace w.hist histB =
      (s.onto dev trace histA histB).dispatchA t op := by
    rw [Sched.onto, hst]
    rfl
  exact ⟨w.dev, w.trace, w.hist, histB, hmoved.symm⟩

private theorem SchedTwin.dispatchB (ht : t.Repeatable) (h : SchedTwin old old' s s') (op : Op) :
    SchedTwin old old' (s.dispatchB t op) (s'.dispatchB t op) := by
  have hop := (ht.dispatch op old old' _ _ h.worldB).2
  refine ⟨⟨hop.events, hop.answers⟩, ?_⟩
  obtain ⟨dev, trace, histA, histB, rfl⟩ := h.moved
  let w := ((t.dispatch op).run (s.onto dev trace histA histB).worldB).2
  have hst : (s.dispatchB t op).b.st = w.st := hop.st
  have hmoved : (s.dispatchB t op).onto w.dev w.trace histA w.hist =
      (s.onto dev trace histA histB).dispatchB t op := by
    rw [Sched.onto, hst]
    rfl
  exact ⟨w.dev, w.trace, histA, w.hist, hmoved.symm⟩

private theorem SchedTwin.step (ht : t.Repeatable) (h : SchedTwin old old' s s') (prog : Program Op)
    (turn : LoopTurn) :
    Option.Rel (SchedTwin old old') (s.step t prog turn) (s'.step t prog turn) := by
  obtain ⟨dev, trace, histA, histB, rfl⟩ := h.moved
  have hmachines := h.machines
  cases turn with
  | a =>
      simp only [Sched.step, Sched.stepA, Sched.onto_pcA, Sched.onto_rest]
      rcases s.pcA with _ | _ | _
      · rcases hrest : s.rest with _ | ⟨op, rest⟩
        · exact .some ⟨hmachines, dev, trace, histA, histB, rfl⟩
        · dsimp only
          by_cases hcount : s.count ≥ kMaxOps
          · have hcount' : (s.onto dev trace histA histB).count ≥ kMaxOps := hcount
            rw [if_pos hcount, if_pos hcount']
            exact .some ⟨hmachines, dev, trace, histA, histB, rfl⟩
          · have hcount' : ¬(s.onto dev trace histA histB).count ≥ kMaxOps := hcount
            rw [if_neg hcount, if_neg hcount']
            refine .some (SchedTwin.dispatchA ht ?_ op)
            exact ⟨hmachines, dev, trace, histA, histB, rfl⟩
      · exact .none
      · exact .none
  | store =>
      simp only [Sched.step, Sched.stepStore, Sched.onto_pcA]
      rcases s.pcA with _ | _ | _
      · exact .none
      · exact .some ⟨hmachines, dev, trace, histA, histB, rfl⟩
      · exact .none
  | test seen =>
      simp only [Sched.step, Sched.stepTest, Sched.onto_pcB]
      rcases s.pcB with _ | j | _
      · dsimp only
        by_cases hi : s.i < prog.iter
        · have hi' : (s.onto dev trace histA histB).i < prog.iter := hi
          rw [if_pos hi, if_pos hi']
          cases seen with
          | false => exact .some ⟨hmachines, dev, trace, histA, histB, rfl⟩
          | true =>
              rw [if_pos rfl, if_pos rfl]
              by_cases hstop : s.stop
              · have hstop' : (s.onto dev trace histA histB).stop := hstop
                rw [if_pos hstop, if_pos hstop']
                exact .some ⟨hmachines, dev, trace, histA, histB, rfl⟩
              · have hstop' : ¬(s.onto dev trace histA histB).stop := hstop
                rw [if_neg hstop, if_neg hstop']
                exact .none
        · have hi' : ¬(s.onto dev trace histA histB).i < prog.iter := hi
          rw [if_neg hi, if_neg hi']
          cases seen with
          | false => exact .some ⟨hmachines, dev, trace, histA, histB, rfl⟩
          | true => exact .none
      · exact .none
      · exact .none
  | b =>
      simp only [Sched.step, Sched.stepB, Sched.onto_pcB]
      rcases s.pcB with _ | j | _
      · exact .none
      · dsimp only
        rcases prog.opsThreadB[j]? with _ | op
        · exact .some ⟨hmachines, dev, trace, histA, histB, rfl⟩
        · refine .some (SchedTwin.dispatchB ht ?_ op)
          exact ⟨hmachines, dev, trace, histA, histB, rfl⟩
      · exact .none

private theorem SchedTwin.exec (ht : t.Repeatable) (h : SchedTwin old old' s s') (prog : Program Op)
    (turns : List LoopTurn) : Option.Rel (SchedTwin old old')
      (Run.exec (Sched.step t prog) s turns) (Run.exec (Sched.step t prog) s' turns) := by
  induction turns generalizing s s' with
  | nil => exact .some h
  | cons turn turns ih =>
      have hstep := h.step ht prog turn
      rw [Run.exec, Run.exec]
      generalize s.step t prog turn = next at hstep ⊢
      generalize s'.step t prog turn = next' at hstep ⊢
      cases hstep with
      | some hnext => exact ih hnext
      | none => exact .none

end

private theorem Target.Repeatable.runIteration {t : Target n ξ Op} (ht : t.Repeatable)
    (prog : Program Op) (turns : List LoopTurn) {old old' : List Event} {w w' : World n ξ}
    (h : SameAnswers old old' w w') :
    Option.Rel (Twin old old') (VirtioCrash.runIteration t prog turns w)
      (VirtioCrash.runIteration t prog turns w') := by
  obtain ⟨x, hreset⟩ := ht.reset
  have htwin := h.afterReset x
  rw [VirtioCrash.runIteration, VirtioCrash.runIteration]
  split
  · rw [runSequential, runSequential, runFromReset, runFromReset, hreset, hreset]
    exact .some (dispatchAll_twin ht.dispatch _ htwin)
  · have hthreads : SchedTwin old old' (startThreads t prog w) (startThreads t prog w') := by
      rw [startThreads, startThreads, hreset, hreset]
      exact ⟨htwin.toSameAnswers, w'.dev, (w'.afterReset.setExt fun _ => x).trace,
        (w'.afterReset.setExt fun _ => x).hist, [], rfl⟩
    have hexec := hthreads.exec ht prog turns
    generalize Run.exec (Sched.step t prog) (startThreads t prog w) turns = fin at hexec ⊢
    generalize Run.exec (Sched.step t prog) (startThreads t prog w') turns = fin' at hexec ⊢
    cases hexec with
    | none => exact .none
    | @some s s' hend =>
        obtain ⟨dev, trace, histA, histB, rfl⟩ := hend.moved
        dsimp only
        by_cases hjoin : s.pcA = .join ∧ s.pcB = .exit
        · have hjoin' : (s.onto dev trace histA histB).pcA = .join ∧
              (s.onto dev trace histA histB).pcB = .exit := hjoin
          rw [if_pos hjoin, if_pos hjoin']
          exact .some hend.worldA
        · have hjoin' : ¬((s.onto dev trace histA histB).pcA = .join ∧
              (s.onto dev trace histA histB).pcB = .exit) := hjoin
          rw [if_neg hjoin, if_neg hjoin']
          exact .none

/-- The machines answer alike, and so they do after the input; its program, if it is one, leaves the
same state. -/
def Replayed (parsed : Bool) (old old' : List Event) (u u' : World n ξ) : Prop :=
  SameAnswers old old' u u' ∧ (parsed → u.st = u'.st)

theorem Target.Repeatable.fuzzInput {t : Target n ξ Op} (ht : t.Repeatable)
    (load : List UInt8 → Option (Program Op)) (data : List UInt8) (turns : List LoopTurn)
    {old old' : List Event} {w w' : World n ξ} (h : SameAnswers old old' w w') :
    Option.Rel (Replayed (load data).isSome old old') (VirtioCrash.fuzzInput t load data turns w)
      (VirtioCrash.fuzzInput t load data turns w') := by
  rw [VirtioCrash.fuzzInput, VirtioCrash.fuzzInput]
  rcases load data with _ | prog
  · exact .some ⟨h, fun hno => by cases hno⟩
  · have hrun := ht.runIteration prog turns h
    dsimp only
    generalize VirtioCrash.runIteration t prog turns w = fin at hrun ⊢
    generalize VirtioCrash.runIteration t prog turns w' = fin' at hrun ⊢
    cases hrun with
    | none => exact .none
    | some htwin => exact .some ⟨htwin.toSameAnswers, fun _ => htwin.st⟩

/-- The inputs of one fuzzing process, one after another. -/
def fuzzInputs (t : Target n ξ Op) (load : List UInt8 → Option (Program Op)) :
    List (List UInt8 × List LoopTurn) → World n ξ → Option (World n ξ)
  | [], w => some w
  | (data, turns) :: ins, w =>
      (VirtioCrash.fuzzInput t load data turns w).bind (fuzzInputs t load ins)

theorem Target.Repeatable.fuzzInputs {t : Target n ξ Op} (ht : t.Repeatable)
    (load : List UInt8 → Option (Program Op)) (ins : List (List UInt8 × List LoopTurn))
    {old old' : List Event} {w w' : World n ξ} (h : SameAnswers old old' w w') :
    Option.Rel (SameAnswers old old') (VirtioCrash.fuzzInputs t load ins w)
      (VirtioCrash.fuzzInputs t load ins w') := by
  induction ins generalizing w w' with
  | nil => exact .some h
  | cons input ins ih =>
      have hfirst := ht.fuzzInput load input.1 input.2 h
      rw [VirtioCrash.fuzzInputs, VirtioCrash.fuzzInputs]
      generalize VirtioCrash.fuzzInput t load input.1 input.2 w = next at hfirst ⊢
      generalize VirtioCrash.fuzzInput t load input.1 input.2 w' = next' at hfirst ⊢
      cases hfirst with
      | none => exact .none
      | some hnext => exact ih hnext.1

end VirtioCrash
