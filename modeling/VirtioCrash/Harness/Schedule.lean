import VirtioCrash.Harness.Program

/-!
# The concurrent mode, loop by loop

The two loops of `proto_fuzz_virtio_*_run` with the counters they test, and the flag that couples
them. Every schedule of the loops dispatches whole passes in thread B, and is a run of the program
as `Conc` has it.
-/

namespace VirtioCrash

open StateProgram

variable {n : Nat} {ξ Op : Type}

/-- `std::clamp`. -/
def clamp (v lo hi : UInt32) : UInt32 := if v < lo then lo else if hi < v then hi else v

/-- How often thread B may run its list. -/
def Program.iter (prog : Program Op) : UInt32 := clamp prog.threadBIter 1 100

/-- Thread A: in its loop, before the store to `b_stop`, or waiting for thread B. -/
inductive PcA where
  | loop
  | store
  | join
  deriving DecidableEq

/-- Thread B: before the test of its outer loop, in the inner loop, or behind both. -/
inductive PcB where
  | test
  | body (j : Nat)
  | exit
  deriving DecidableEq

/-- The two threads in the middle of their loops, with what each has dispatched so far. -/
structure Sched (n : Nat) (ξ Op : Type) where
  dev : Device
  trace : List Event
  a : Thread n ξ
  b : Thread n ξ
  pcA : PcA
  rest : List Op
  count : Nat
  stop : Bool
  pcB : PcB
  i : UInt32
  logA : List Op
  logB : List Op

/-- One evaluation of thread A's loop, its store to `b_stop`, the test of thread B's outer loop with
what its load returns, or one evaluation of thread B's inner loop. -/
inductive LoopTurn where
  | a
  | store
  | test (seen : Bool)
  | b
  deriving DecidableEq

def LoopTurn.isTest : LoopTurn → Bool
  | .test _ => true
  | _ => false

namespace Sched

def worldA (s : Sched n ξ Op) : World n ξ := ⟨s.dev, s.trace, s.a.st, s.a.hist⟩

def worldB (s : Sched n ξ Op) : World n ξ := ⟨s.dev, s.trace, s.b.st, s.b.hist⟩

/-- Thread A dispatches an op. -/
def dispatchA (t : Target n ξ Op) (op : Op) (s : Sched n ξ Op) : Sched n ξ Op :=
  let w := ((t.dispatch op).run s.worldA).2
  { s with dev := w.dev, trace := w.trace, a := ⟨w.st, w.hist⟩, logA := s.logA ++ [op] }

/-- Thread B dispatches an op. -/
def dispatchB (t : Target n ξ Op) (op : Op) (s : Sched n ξ Op) : Sched n ξ Op :=
  let w := ((t.dispatch op).run s.worldB).2
  { s with dev := w.dev, trace := w.trace, b := ⟨w.st, w.hist⟩, logB := s.logB ++ [op] }

/-- `for (const auto& op : prog.ops()) { if (n++ >= kMaxOps) break; dispatch(op); }` -/
def stepA (t : Target n ξ Op) (s : Sched n ξ Op) : Option (Sched n ξ Op) :=
  match s.pcA, s.rest with
  | .loop, [] => some { s with pcA := .store }
  | .loop, op :: rest =>
      if s.count ≥ kMaxOps then some { s with count := s.count + 1, pcA := .store }
      else some (dispatchA t op { s with count := s.count + 1, rest := rest })
  | _, _ => none

def stepStore (s : Sched n ξ Op) : Option (Sched n ξ Op) :=
  match s.pcA with
  | .store => some { s with stop := true, pcA := .join }
  | _ => none

/-- `i < iter && !b_stop.load(std::memory_order_relaxed)`: the load may miss the store, but it
cannot see it early, and it is not evaluated when `i` has reached `iter`. -/
def stepTest (prog : Program Op) (seen : Bool) (s : Sched n ξ Op) : Option (Sched n ξ Op) :=
  match s.pcB with
  | .test =>
      if s.i < prog.iter then
        if seen then
          if s.stop then some { s with pcB := .exit } else none
        else some { s with pcB := .body 0 }
      else if seen then none else some { s with pcB := .exit }
  | _ => none

/-- `for (int j = 0; j < bsz; ++j) dispatch(prog.ops_thread_b(j));`, then `++i`. -/
def stepB (t : Target n ξ Op) (prog : Program Op) (s : Sched n ξ Op) : Option (Sched n ξ Op) :=
  match s.pcB with
  | .body j =>
      match prog.opsThreadB[j]? with
      | some op => some (dispatchB t op { s with pcB := .body (j + 1) })
      | none => some { s with i := s.i + 1, pcB := .test }
  | _ => none

def step (t : Target n ξ Op) (prog : Program Op) (s : Sched n ξ Op) :
    LoopTurn → Option (Sched n ξ Op)
  | .a => s.stepA t
  | .store => s.stepStore
  | .test seen => s.stepTest prog seen
  | .b => s.stepB t prog

/-- Both loops are left and the store to `b_stop` is done: `join` returns. -/
def Finished (s : Sched n ξ Op) : Prop := s.pcA = .join ∧ s.pcB = .exit

end Sched

/-- The concurrent mode once thread B is started. -/
def startSched (t : Target n ξ Op) (prog : Program Op) (dev : Device) (st : State n ξ) :
    Sched n ξ Op :=
  let w := (t.resetIterationState.run ⟨dev, [], st, []⟩).2
  { dev := w.dev
    trace := w.trace
    a := ⟨w.st, w.hist⟩
    b := ⟨threadBState t, []⟩
    pcA := .loop
    rest := prog.ops
    count := 0
    stop := false
    pcB := .test
    i := 0
    logA := []
    logB := [] }

/-- The concurrent mode after the scheduler's choices, when they are possible. -/
def runSched (t : Target n ξ Op) (prog : Program Op) (dev : Device) (st : State n ξ)
    (turns : List LoopTurn) : Option (Sched n ξ Op) :=
  Run.exec (Sched.step t prog) (startSched t prog dev st) turns

private theorem Sched.step_cases {t : Target n ξ Op} {prog : Program Op} {s s' : Sched n ξ Op}
    {turn : LoopTurn} (h : s.step t prog turn = some s') :
    (turn = .a ∧ s.pcA = .loop ∧ ∃ op rest, s.rest = op :: rest ∧ s.count < kMaxOps ∧
      s' = dispatchA t op { s with count := s.count + 1, rest := rest }) ∨
    (turn = .a ∧ s.pcA = .loop ∧ (s.rest = [] ∨ kMaxOps ≤ s.count) ∧
      ∃ count, s' = { s with count := count, pcA := .store }) ∨
    (turn = .store ∧ s.pcA = .store ∧ s' = { s with stop := true, pcA := .join }) ∨
    (turn = .test false ∧ s.pcB = .test ∧ s.i < prog.iter ∧ s' = { s with pcB := .body 0 }) ∨
    (turn.isTest ∧ s.pcB = .test ∧ (s.i < prog.iter ∧ turn = .test true ∧ s.stop ∨
      ¬s.i < prog.iter) ∧ s' = { s with pcB := .exit }) ∨
    (turn = .b ∧ ∃ j op, s.pcB = .body j ∧ prog.opsThreadB[j]? = some op ∧
      s' = dispatchB t op { s with pcB := .body (j + 1) }) ∨
    (turn = .b ∧ ∃ j, s.pcB = .body j ∧ prog.opsThreadB[j]? = none ∧
      s' = { s with i := s.i + 1, pcB := .test }) := by
  cases turn with
  | a =>
      simp only [Sched.step, Sched.stepA] at h
      split at h
      · rename_i hpc hrest
        right; left
        exact ⟨rfl, hpc, Or.inl hrest, s.count, by simpa using h.symm⟩
      · rename_i op rest hpc hrest
        by_cases hcount : s.count ≥ kMaxOps
        · rw [if_pos hcount] at h
          right; left
          exact ⟨rfl, hpc, Or.inr hcount, s.count + 1, by simpa using h.symm⟩
        · rw [if_neg hcount] at h
          left
          exact ⟨rfl, hpc, op, rest, hrest, by omega, by simpa using h.symm⟩
      · cases h
  | store =>
      simp only [Sched.step, Sched.stepStore] at h
      split at h
      · rename_i hpc
        right; right; left
        exact ⟨rfl, hpc, by simpa using h.symm⟩
      · cases h
  | test seen =>
      simp only [Sched.step, Sched.stepTest] at h
      split at h
      · rename_i hpc
        by_cases hi : s.i < prog.iter
        · rw [if_pos hi] at h
          cases seen with
          | false =>
              right; right; right; left
              exact ⟨rfl, hpc, hi, by simpa using h.symm⟩
          | true =>
              rw [if_pos rfl] at h
              by_cases hstop : s.stop
              · rw [if_pos hstop] at h
                right; right; right; right; left
                exact ⟨rfl, hpc, Or.inl ⟨hi, rfl, hstop⟩, by simpa using h.symm⟩
              · rw [if_neg hstop] at h
                cases h
        · rw [if_neg hi] at h
          cases seen with
          | false =>
              right; right; right; right; left
              exact ⟨rfl, hpc, Or.inr hi, by simpa using h.symm⟩
          | true => cases h
      · cases h
  | b =>
      simp only [Sched.step, Sched.stepB] at h
      split at h
      · rename_i j hpc
        rcases hop : prog.opsThreadB[j]? with _ | op
        · rw [hop] at h
          right; right; right; right; right; right
          exact ⟨rfl, j, hpc, hop, by simpa using h.symm⟩
        · rw [hop] at h
          right; right; right; right; right; left
          exact ⟨rfl, j, op, hpc, hop, by simpa using h.symm⟩
      · cases h

/-- Thread A has dispatched what its iterator has passed, at most `kMaxOps` ops. -/
structure LoopA (prog : Program Op) (s : Sched n ξ Op) : Prop where
  split : s.logA ++ s.rest = prog.ops
  counted : s.pcA = .loop → s.count = s.logA.length ∧ s.logA.length ≤ kMaxOps
  left : s.pcA ≠ .loop → s.logA = prog.ops.take kMaxOps
  stored : s.stop = true ↔ s.pcA = .join

/-- What thread B has dispatched of its current pass. -/
def Sched.part (prog : Program Op) (s : Sched n ξ Op) : List Op :=
  match s.pcB with
  | .body j => prog.opsThreadB.take j
  | _ => []

/-- Thread B has dispatched `i` passes and a part of the next one. -/
structure LoopB (prog : Program Op) (s : Sched n ξ Op) : Prop where
  bound : s.i.toNat ≤ prog.iter.toNat
  log : s.logB = (List.replicate s.i.toNat prog.opsThreadB).flatten ++ s.part prog
  inner : ∀ j, s.pcB = .body j → s.i < prog.iter ∧ j ≤ prog.opsThreadB.length
  exited : s.pcB = .exit → s.i = prog.iter ∨ s.stop = true

private theorem clamp_bounds (v lo hi : UInt32) (h : lo ≤ hi) :
    lo ≤ clamp v lo hi ∧ clamp v lo hi ≤ hi := by
  rw [clamp]
  split
  · exact ⟨UInt32.le_refl lo, h⟩
  · rename_i hlo
    split
    · exact ⟨h, UInt32.le_refl hi⟩
    · rename_i hhi
      exact ⟨UInt32.not_lt.mp hlo, UInt32.not_lt.mp hhi⟩

theorem clamp_eq_min_max (v lo hi : UInt32) (h : lo ≤ hi) : clamp v lo hi = min (max v lo) hi := by
  change _ = if (if v ≤ lo then lo else v) ≤ hi then if v ≤ lo then lo else v else hi
  rw [clamp]
  grind

private theorem Program.iter_bounds (prog : Program Op) :
    1 ≤ prog.iter.toNat ∧ prog.iter.toNat ≤ 100 := by
  obtain ⟨hlo, hhi⟩ := clamp_bounds prog.threadBIter 1 100 (by decide)
  exact ⟨UInt32.le_iff_toNat_le.mp hlo, UInt32.le_iff_toNat_le.mp hhi⟩

private theorem loopA_start (t : Target n ξ Op) (prog : Program Op) (dev : Device)
    (st : State n ξ) : LoopA prog (startSched t prog dev st) where
  split := rfl
  counted _ := ⟨rfl, Nat.zero_le _⟩
  left h := absurd rfl h
  stored := by simp [startSched]

private theorem loopB_start (t : Target n ξ Op) (prog : Program Op) (dev : Device)
    (st : State n ξ) : LoopB prog (startSched t prog dev st) where
  bound := Nat.zero_le _
  log := rfl
  inner _ h := by cases h
  exited h := by cases h

section Step

variable {t : Target n ξ Op} {prog : Program Op} {s s' : Sched n ξ Op} {turn : LoopTurn}

private theorem LoopA.step (h : LoopA prog s) (hs : s.step t prog turn = some s') :
    LoopA prog s' := by
  rcases Sched.step_cases hs with ⟨-, hpc, op, rest, hrest, hcount, rfl⟩ |
    ⟨-, hpc, hend, count, rfl⟩ | ⟨-, hpc, rfl⟩ | ⟨-, -, -, rfl⟩ | ⟨-, -, -, rfl⟩ |
    ⟨-, j, op, -, -, rfl⟩ | ⟨-, j, -, -, rfl⟩
  · obtain ⟨hlen, hle⟩ := h.counted hpc
    have hsplit := h.split
    rw [hrest] at hsplit
    have hstop := h.stored
    constructor
    · rw [← hsplit]
      simp [Sched.dispatchA]
    · intro _
      simp only [Sched.dispatchA, List.length_append, List.length_singleton]
      omega
    · exact fun hne => absurd hpc hne
    · exact hstop
  · obtain ⟨hlen, hle⟩ := h.counted hpc
    have hstop : s.stop = false := by
      rw [← Bool.not_eq_true, h.stored, hpc]
      decide
    have hlog : s.logA = prog.ops.take kMaxOps := by
      rw [← h.split]
      rcases hend with hrest | hcap
      · rw [hrest, List.append_nil, List.take_of_length_le hle]
      · rw [List.take_append_of_le_length (by omega), List.take_of_length_le hle]
    exact ⟨h.split, fun he => (by cases he), fun _ => hlog, by simp [hstop]⟩
  · have hleft := h.left (by rw [hpc]; decide)
    exact ⟨h.split, fun he => (by cases he), fun _ => hleft, by simp⟩
  · exact ⟨h.split, h.counted, h.left, h.stored⟩
  · exact ⟨h.split, h.counted, h.left, h.stored⟩
  · exact ⟨h.split, h.counted, h.left, h.stored⟩
  · exact ⟨h.split, h.counted, h.left, h.stored⟩

private theorem LoopB.next_pass (h : LoopB prog s) {j : Nat} (hpc : s.pcB = .body j) :
    (s.i + 1).toNat = s.i.toNat + 1 := by
  have hi := UInt32.lt_iff_toNat_lt.mp (h.inner j hpc).1
  have hiter := prog.iter_bounds
  rw [UInt32.toNat_add]
  change (s.i.toNat + 1) % 2 ^ 32 = _
  omega

private theorem LoopB.step (h : LoopB prog s) (hs : s.step t prog turn = some s') :
    LoopB prog s' := by
  rcases Sched.step_cases hs with ⟨-, -, op, rest, -, -, rfl⟩ |
    ⟨-, -, -, count, rfl⟩ | ⟨-, -, rfl⟩ | ⟨-, hpc, hi, rfl⟩ | ⟨-, hpc, hexit, rfl⟩ |
    ⟨-, j, op, hpc, hop, rfl⟩ | ⟨-, j, hpc, hop, rfl⟩
  · exact ⟨h.bound, h.log, h.inner, h.exited⟩
  · exact ⟨h.bound, h.log, h.inner, h.exited⟩
  · exact ⟨h.bound, h.log, h.inner, fun _ => Or.inr rfl⟩
  · -- a new pass: nothing of it is dispatched yet
    have hlog := h.log
    simp only [Sched.part, hpc] at hlog
    exact ⟨h.bound, hlog, fun j hj => ⟨hi, by cases hj; exact Nat.zero_le _⟩,
      fun he => (by cases he)⟩
  · have hlog := h.log
    simp only [Sched.part, hpc] at hlog
    refine ⟨h.bound, hlog, fun _ he => (by cases he), fun _ => ?_⟩
    rcases hexit with ⟨-, -, hstop⟩ | hi
    · exact Or.inr hstop
    · left
      rw [UInt32.lt_iff_toNat_lt] at hi
      have hbound := h.bound
      apply UInt32.toNat_inj.mp
      change s.i.toNat = prog.iter.toNat
      omega
  · have hlog := h.log
    simp only [Sched.part, hpc] at hlog
    have hj : j + 1 ≤ prog.opsThreadB.length := (List.getElem?_eq_some_iff.mp hop).1
    refine ⟨h.bound, ?_, fun k hk => ⟨(h.inner j hpc).1, by cases hk; exact hj⟩,
      fun he => (by cases he)⟩
    have htake : prog.opsThreadB.take (j + 1) = prog.opsThreadB.take j ++ [op] := by
      rw [List.take_add_one, hop]
      rfl
    simp only [Sched.dispatchB, Sched.part, hlog, htake, List.append_assoc]
  · -- the end of a pass: all of it is dispatched
    have hi := UInt32.lt_iff_toNat_lt.mp (h.inner j hpc).1
    have hsucc := h.next_pass hpc
    have hlog := h.log
    have hwhole : prog.opsThreadB.take j = prog.opsThreadB :=
      List.take_of_length_le (List.getElem?_eq_none_iff.mp hop)
    simp only [Sched.part, hpc, hwhole] at hlog
    refine ⟨by simp only [hsucc]; omega, ?_, fun _ he => (by cases he), fun he => (by cases he)⟩
    simp only [Sched.part, hsucc, List.append_nil, List.replicate_succ', List.flatten_append,
      List.flatten_singleton]
    exact hlog

end Step

theorem loops_run {t : Target n ξ Op} {prog : Program Op} {dev : Device} {st : State n ξ}
    {turns : List LoopTurn} {s : Sched n ξ Op} (hrun : runSched t prog dev st turns = some s) :
    LoopA prog s ∧ LoopB prog s := by
  apply Run.invariant (fun s => LoopA prog s ∧ LoopB prog s) _ _ (Run.always_true _ turns) hrun
  · rintro s turn s' ⟨hA, hB⟩ - hs
    exact ⟨hA.step hs, hB.step hs⟩
  · exact ⟨loopA_start t prog dev st, loopB_start t prog dev st⟩

/-- A bound on the turns that are left. -/
def Sched.todo (prog : Program Op) (s : Sched n ξ Op) : Nat :=
  (match s.pcA with
    | .loop => s.rest.length + 2
    | .store => 1
    | .join => 0) +
  match s.pcB with
    | .test => (prog.iter.toNat - s.i.toNat) * (prog.opsThreadB.length + 2) + 1
    | .body j => (prog.iter.toNat - s.i.toNat) * (prog.opsThreadB.length + 2) - j
    | .exit => 0

section Todo

variable {t : Target n ξ Op} {prog : Program Op} {s s' : Sched n ξ Op} {turn : LoopTurn}

private theorem LoopB.todo_lt (h : LoopB prog s) (hs : s.step t prog turn = some s') :
    s'.todo prog < s.todo prog := by
  rcases Sched.step_cases hs with ⟨-, hpc, op, rest, hrest, -, rfl⟩ |
    ⟨-, hpc, -, count, rfl⟩ | ⟨-, hpc, rfl⟩ | ⟨-, hpc, -, rfl⟩ | ⟨-, hpc, -, rfl⟩ |
    ⟨-, j, op, hpc, -, rfl⟩ | ⟨-, j, hpc, hop, rfl⟩
  · simp only [Sched.todo, Sched.dispatchA, hpc, hrest, List.length_cons]
    omega
  · simp only [Sched.todo, hpc]
    omega
  · simp only [Sched.todo, hpc]
    omega
  · simp only [Sched.todo, hpc]
    omega
  · simp only [Sched.todo, hpc]
    omega
  · obtain ⟨hi, hj⟩ := h.inner j hpc
    rw [UInt32.lt_iff_toNat_lt] at hi
    have hpass : prog.opsThreadB.length + 2 ≤
        (prog.iter.toNat - s.i.toNat) * (prog.opsThreadB.length + 2) :=
      Nat.le_mul_of_pos_left _ (by omega)
    simp only [Sched.todo, Sched.dispatchB, hpc]
    omega
  · obtain ⟨hi, hj⟩ := h.inner j hpc
    rw [UInt32.lt_iff_toNat_lt] at hi
    have hsplit : (prog.iter.toNat - s.i.toNat) * (prog.opsThreadB.length + 2) =
        (prog.iter.toNat - (s.i.toNat + 1)) * (prog.opsThreadB.length + 2) +
          (prog.opsThreadB.length + 2) := by
      rw [← Nat.succ_mul]
      congr 1
      omega
    simp only [Sched.todo, hpc, h.next_pass hpc, hsplit]
    omega

private theorem Sched.progress (t : Target n ξ Op) (prog : Program Op) (hfin : ¬s.Finished) :
    ∃ turn, (s.step t prog turn).isSome := by
  rcases hA : s.pcA with _ | _ | _
  · refine ⟨.a, ?_⟩
    rcases hrest : s.rest with _ | ⟨op, rest⟩
    · simp [Sched.step, Sched.stepA, hA, hrest]
    · simp only [Sched.step, Sched.stepA, hA, hrest]
      split
      · rfl
      · rfl
  · exact ⟨.store, by simp [Sched.step, Sched.stepStore, hA]⟩
  · rcases hB : s.pcB with _ | j | _
    · refine ⟨.test false, ?_⟩
      simp only [Sched.step, Sched.stepTest, hB]
      split
      · rfl
      · rfl
    · refine ⟨.b, ?_⟩
      simp only [Sched.step, Sched.stepB, hB]
      split
      · rfl
      · rfl
    · exact absurd ⟨hA, hB⟩ hfin

/-- No schedule goes on for ever, and each that has not ended can go on. -/
theorem LoopB.completes (h : LoopB prog s) :
    ∃ turns s', Run.exec (Sched.step t prog) s turns = some s' ∧ s'.Finished := by
  induction hm : s.todo prog using Nat.strong_induction_on generalizing s with
  | _ m ih =>
      by_cases hfin : s.Finished
      · exact ⟨[], s, rfl, hfin⟩
      · obtain ⟨turn, hturn⟩ := Sched.progress t prog hfin
        obtain ⟨s1, hs⟩ := Option.isSome_iff_exists.mp hturn
        have hlt := h.todo_lt hs
        obtain ⟨turns, s', hrun, hend⟩ := ih _ (hm ▸ hlt) (h.step hs) rfl
        refine ⟨turn :: turns, s', ?_, hend⟩
        rw [Run.exec, hs]
        exact hrun

end Todo

private theorem pcB_exit_of_no_test {t : Target n ξ Op} {prog : Program Op} {s s' : Sched n ξ Op}
    {turns : List LoopTurn} (hno : ∀ turn ∈ turns, turn.isTest = false)
    (hrun : Run.exec (Sched.step t prog) s turns = some s') (hexit : s'.pcB = .exit) :
    s.pcB = .exit ∧ s'.i = s.i := by
  induction turns generalizing s with
  | nil =>
      cases hrun
      exact ⟨hexit, rfl⟩
  | cons turn turns ih =>
      obtain ⟨s1, hs, hrun⟩ := Run.exec_cons hrun
      obtain ⟨hexit1, hi⟩ := ih (fun l hl => hno l (List.mem_cons_of_mem _ hl)) hrun
      have hturn := hno turn List.mem_cons_self
      rcases Sched.step_cases hs with ⟨-, -, op, rest, -, -, rfl⟩ |
        ⟨-, -, -, count, rfl⟩ | ⟨-, -, rfl⟩ | ⟨rfl, -⟩ | ⟨htest, -⟩ |
        ⟨-, j, op, -, -, rfl⟩ | ⟨-, j, -, -, rfl⟩
      · exact ⟨hexit1, hi⟩
      · exact ⟨hexit1, hi⟩
      · exact ⟨hexit1, hi⟩
      · cases hturn
      · rw [hturn] at htest
        cases htest
      · cases hexit1
      · cases hexit1

/-- What a schedule that ran to its end dispatched: in thread A the first `kMaxOps` ops, in thread B
whole passes, and all of them when no test of the outer loop comes after the store to `b_stop`. -/
theorem schedule_dispatches {t : Target n ξ Op} {prog : Program Op} {dev : Device}
    {st : State n ξ} {turns : List LoopTurn} {s : Sched n ξ Op}
    (hrun : runSched t prog dev st turns = some s) (hfin : s.Finished) :
    s.logA = prog.ops.take kMaxOps ∧
    ∃ k ≤ prog.iter.toNat, s.logB = (List.replicate k prog.opsThreadB).flatten ∧
      ∀ pre post, turns = pre ++ .store :: post → (∀ turn ∈ post, turn.isTest = false) →
        k = prog.iter.toNat := by
  obtain ⟨hA, hB⟩ := loops_run hrun
  obtain ⟨hjoin, hexit⟩ := hfin
  have hlog := hB.log
  simp only [Sched.part, hexit, List.append_nil] at hlog
  refine ⟨hA.left (by rw [hjoin]; decide), s.i.toNat, hB.bound, hlog, ?_⟩
  rintro pre post rfl hpost
  rw [runSched, Run.exec_append, Option.bind_eq_some_iff] at hrun
  obtain ⟨s0, hpre, hrest⟩ := hrun
  obtain ⟨s1, hstore, hrest⟩ := Run.exec_cons hrest
  obtain ⟨hexit1, hi⟩ := pcB_exit_of_no_test hpost hrest hexit
  obtain ⟨hA0, hB0⟩ := loops_run hpre
  have hstore' : s0.pcA = .store ∧ s1 = { s0 with stop := true, pcA := .join } := by
    rcases Sched.step_cases hstore with ⟨hturn, -⟩ | ⟨hturn, -⟩ | ⟨-, hpc, hs1⟩ | ⟨hturn, -⟩ |
      ⟨hturn, -⟩ | ⟨hturn, -⟩ | ⟨hturn, -⟩
    · cases hturn
    · cases hturn
    · exact ⟨hpc, hs1⟩
    · cases hturn
    · cases hturn
    · cases hturn
    · cases hturn
  obtain ⟨hpc0, rfl⟩ := hstore'
  -- before the store thread B can only have left its loop by counting its passes
  have hstop : s0.stop ≠ true := by
    rw [Ne, hA0.stored, hpc0]
    decide
  rcases hB0.exited hexit1 with hiter | hseen
  · rw [hi]
    exact congrArg UInt32.toNat hiter
  · exact absurd hseen hstop

/-- The state of the loops as the interleavings of ops see it. -/
def Sched.toConc (prog : Program Op) (s : Sched n ξ Op) : Conc n ξ Op where
  dev := s.dev
  trace := s.trace
  a := s.a
  b := s.b
  opsA :=
    match s.pcA with
    | .loop => s.rest.take (kMaxOps - s.count)
    | _ => []
  stop := s.stop
  passes :=
    match s.pcB with
    | .test => prog.iter.toNat - s.i.toNat
    | .body _ => prog.iter.toNat - s.i.toNat - 1
    | .exit => 0
  opsB :=
    match s.pcB with
    | .body j => prog.opsThreadB.drop j
    | _ => []

theorem startSched_toConc (t : Target n ξ Op) (prog : Program Op) (hB : prog.opsThreadB ≠ [])
    (dev : Device) (st : State n ξ) :
    (startSched t prog dev st).toConc prog = startConc t prog dev st := by
  have hiter := clamp_eq_min_max prog.threadBIter 1 100 (by decide)
  have hempty : prog.opsThreadB.isEmpty = false := by
    simpa using hB
  simp only [Sched.toConc, startSched, startConc, hempty, Program.iter, hiter]
  rfl

/-- A turn of the loops is a turn of the interleavings, or none when it only tests or counts. -/
theorem LoopB.toConc_step {t : Target n ξ Op} {prog : Program Op} {s s' : Sched n ξ Op}
    {turn : LoopTurn} (h : LoopB prog s) (hs : s.step t prog turn = some s') :
    ∃ turns, Run.exec (Conc.step t prog.opsThreadB) (s.toConc prog) turns =
      some (s'.toConc prog) := by
  rcases Sched.step_cases hs with ⟨-, hpc, op, rest, hrest, hcount, rfl⟩ |
    ⟨-, hpc, hend, count, rfl⟩ | ⟨-, hpc, rfl⟩ | ⟨-, hpc, hi, rfl⟩ | ⟨-, hpc, hexit, rfl⟩ |
    ⟨-, j, op, hpc, hop, rfl⟩ | ⟨-, j, hpc, hop, rfl⟩
  · refine ⟨[.a], ?_⟩
    have htake : (op :: rest).take (kMaxOps - s.count) =
        op :: rest.take (kMaxOps - (s.count + 1)) := by
      rw [show kMaxOps - s.count = kMaxOps - (s.count + 1) + 1 by omega, List.take_succ_cons]
    simp [Run.exec, Conc.step, Sched.toConc, hpc, hrest, htake]
    rfl
  · refine ⟨[], ?_⟩
    have hnone : s.rest.take (kMaxOps - s.count) = [] := by
      rcases hend with hrest | hcap
      · rw [hrest, List.take_nil]
      · rw [Nat.sub_eq_zero_of_le hcap, List.take_zero]
    simp [Run.exec, Sched.toConc, hpc, hnone]
  · refine ⟨[.stop], ?_⟩
    simp [Run.exec, Conc.step, Sched.toConc, hpc]
  · refine ⟨[.test false], ?_⟩
    rw [UInt32.lt_iff_toNat_lt] at hi
    have hpasses : prog.iter.toNat - s.i.toNat = prog.iter.toNat - s.i.toNat - 1 + 1 := by
      omega
    rw [Run.exec, Conc.step]
    simp only [Sched.toConc, hpc]
    rw [hpasses]
    rfl
  · rcases hexit with ⟨hi, rfl, hstop⟩ | hi
    · refine ⟨[.test true], ?_⟩
      rw [UInt32.lt_iff_toNat_lt] at hi
      have hpasses : prog.iter.toNat - s.i.toNat = prog.iter.toNat - s.i.toNat - 1 + 1 := by
        omega
      rw [Run.exec, Conc.step]
      simp only [Sched.toConc, hpc]
      rw [hpasses]
      simp [hstop, Run.exec]
    · refine ⟨[], ?_⟩
      rw [UInt32.lt_iff_toNat_lt] at hi
      have hpasses : prog.iter.toNat - s.i.toNat = 0 := by
        omega
      simp [Run.exec, Sched.toConc, hpc, hpasses]
  · refine ⟨[.b], ?_⟩
    obtain ⟨hj, hget⟩ := List.getElem?_eq_some_iff.mp hop
    have hdrop : prog.opsThreadB.drop j = op :: prog.opsThreadB.drop (j + 1) := by
      rw [List.drop_eq_getElem_cons hj, hget]
    simp [Run.exec, Conc.step, Sched.toConc, hpc, hdrop]
    rfl
  · refine ⟨[], ?_⟩
    have hdrop : prog.opsThreadB.drop j = [] :=
      List.drop_eq_nil_of_le (List.getElem?_eq_none_iff.mp hop)
    have hpasses : prog.iter.toNat - s.i.toNat - 1 = prog.iter.toNat - (s.i.toNat + 1) := by
      omega
    simp [Run.exec, Sched.toConc, hpc, hdrop, hpasses, h.next_pass hpc]

/-- Every schedule of the two loops is an interleaving of dispatched ops. -/
theorem runSched_toConc {t : Target n ξ Op} {prog : Program Op} (hB : prog.opsThreadB ≠ [])
    {dev : Device} {st : State n ξ} {turns : List LoopTurn} {s : Sched n ξ Op}
    (hrun : runSched t prog dev st turns = some s) :
    ∃ turns', runConc t prog dev st turns' = some (s.toConc prog) := by
  have hinv : LoopB prog s ∧ ∃ turns', runConc t prog dev st turns' = some (s.toConc prog) := by
    apply Run.invariant
      (fun s => LoopB prog s ∧ ∃ turns', runConc t prog dev st turns' = some (s.toConc prog))
      _ _ (Run.always_true _ turns) hrun
    · rintro s turn s' ⟨h, turns', hturns⟩ - hs
      obtain ⟨more, hmore⟩ := h.toConc_step hs
      refine ⟨h.step hs, turns' ++ more, ?_⟩
      rw [runConc] at hturns ⊢
      rw [Run.exec_append, hturns]
      exact hmore
    · exact ⟨loopB_start t prog dev st, [],
        congrArg some (startSched_toConc t prog hB dev st).symm⟩
  exact hinv.2

end VirtioCrash
