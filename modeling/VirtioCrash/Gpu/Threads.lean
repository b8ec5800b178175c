import VirtioCrash.Gpu.Submission

/-!
# The two threads of the gpu harness

A backing takes up to 64 KiB of the pool, so 120 of the 256 ops of thread A are enough to cross
`kBufPoolMid`, where thread B starts.
-/

namespace VirtioCrash.Gpu

open StateProgram BumpAllocator

def midNat : Nat := (kBufPoolMid kMaxQueues).toNat

private theorem dispatch_ranges (op : VirtioOp) (w : World kMaxQueues GpuDevice) (hw : InPool w) :
    allocRanges ((dispatch op).run w).2.hist =
      (rangesFrom w.st.bufAlloc (allocLens w.st op)).reverse ++ allocRanges w.hist := by
  by_cases hop : asCommon op = some .reset
  · cases op with
    | common op => cases hop; rfl
    | _ => cases hop
  · exact (dispatch_accounted op w hw hop).ranges

/-- Every range the op hands out ends in the lower half of the pool. -/
def AllocatesBelow (w : World kMaxQueues GpuDevice) (op : VirtioOp) : Prop :=
  ∀ r ∈ rangesFrom w.st.bufAlloc (allocLens w.st op), r.stop ≤ midNat

instance (w : World kMaxQueues GpuDevice) (op : VirtioOp) : Decidable (AllocatesBelow w op) :=
  inferInstanceAs (Decidable (∀ r ∈ _, _))

/-- Thread A is in the lower half and thread B in the upper half of the pool. -/
structure PoolsApart (c : Conc kMaxQueues GpuDevice VirtioOp) : Prop where
  poolA : PoolInv (kBufPoolBase kMaxQueues).toNat c.worldA
  rangesA : ∀ r ∈ allocRanges c.a.hist, r.stop ≤ midNat
  poolB : PoolInv midNat c.worldB
  noReset : Mark.reset ∉ c.b.hist

private theorem PoolsApart.disjoint {c : Conc kMaxQueues GpuDevice VirtioOp} (h : PoolsApart c) :
    ∀ r ∈ allocRanges c.a.hist, ∀ s ∈ allocRanges c.b.hist, r.Disjoint s := by
  intro r hr s hs
  have hsince : sinceReset c.b.hist = c.b.hist := sinceReset_eq_self h.noReset
  have hinside := h.poolB.packed.inside
  change ∀ r ∈ allocRanges (sinceReset c.b.hist), _ at hinside
  rw [hsince] at hinside
  exact Range.disjoint_of_le (h.rangesA r hr) (hinside s hs).1

private theorem PoolsApart.afterA {c : Conc kMaxQueues GpuDevice VirtioOp} {op : VirtioOp}
    {rest : List VirtioOp} (h : PoolsApart c) (hop : AllocatesBelow c.worldA op) :
    PoolsApart (c.afterA ((dispatch op).run c.worldA).2 rest) where
  poolA := confined.dispatch_keeps (poolInv_afterReset (by decide))
    (fun _ _ _ hs hw => hw.step hs) op c.worldA h.poolA
  rangesA := by
    change ∀ r ∈ allocRanges ((dispatch op).run c.worldA).2.hist, r.stop ≤ midNat
    rw [dispatch_ranges op c.worldA (inPool_of_poolInv h.poolA (by decide))]
    intro r hr
    rcases List.mem_append.mp hr with hr | hr
    · exact hop r (List.mem_reverse.mp hr)
    · exact h.rangesA r hr
  poolB := ⟨h.poolB.packed, h.poolB.bufs⟩
  noReset := h.noReset

private theorem PoolsApart.afterB {c : Conc kMaxQueues GpuDevice VirtioOp} {op : VirtioOp}
    {rest : List VirtioOp} (h : PoolsApart c) (hop : asCommon op ≠ some .reset) :
    PoolsApart (c.afterB ((dispatch op).run c.worldB).2 rest) where
  poolA := ⟨h.poolA.packed, h.poolA.bufs⟩
  rangesA := h.rangesA
  poolB := h.poolB.steps (confined.dispatch_step op hop c.worldB)
  noReset := (confined.dispatch_step op hop c.worldB).no_reset h.noReset

private theorem poolsApart_start (prog : Program VirtioOp) (dev : Device)
    (st : State kMaxQueues GpuDevice) : PoolsApart (startConc target prog dev st) := by
  constructor
  · have hpool := poolInv_afterReset (n := kMaxQueues) (by decide) ⟨dev, [], st, []⟩
      fun _ => resetExt
    exact ⟨hpool.packed, hpool.bufs⟩
  · intro r hr
    cases hr
  · constructor
    · exact Packed.empty (by decide) (by decide)
    · intro id b hb
      cases hb
  · intro hmem
    cases hmem

/-- While thread A stays in the lower half and thread B does not reset, no range of one thread meets
a range of the other. -/
theorem alloc_ranges_disjoint (prog : Program VirtioOp) (dev : Device)
    (st : State kMaxQueues GpuDevice) (turns : List Turn) (c : Conc kMaxQueues GpuDevice VirtioOp)
    (hB : ∀ op ∈ prog.opsThreadB, asCommon op ≠ some .reset)
    (hcond : AlwaysConc target prog dev st (OnA AllocatesBelow) turns)
    (hrun : runConc target prog dev st turns = some c) :
    ∀ r ∈ allocRanges c.a.hist, ∀ s ∈ allocRanges c.b.hist, r.Disjoint s := by
  have happart : PoolsApart c := by
    refine runConc_invariant AllocatesBelow (fun _ _ => True) PoolsApart
      ?_ ?_ ?_ (poolsApart_start prog dev st) ?_ hrun
    · intro c c' _ ha hb _ hc
      constructor
      · exact ⟨by simpa [Conc.worldA, ha] using hc.poolA.packed,
          by simpa [Conc.worldA, ha] using hc.poolA.bufs⟩
      · rw [ha]
        exact hc.rangesA
      · exact ⟨by simpa [Conc.worldB, hb] using hc.poolB.packed,
          by simpa [Conc.worldB, hb] using hc.poolB.bufs⟩
      · rw [hb]
        exact hc.noReset
    · intro c op rest _ hop hc
      exact hc.afterA hop
    · intro c op rest hmem _ hc
      exact hc.afterB (hB op hmem)
    · exact Run.Always.mono (fun c turn h => ⟨h, fun _ _ _ => trivial⟩) hcond
  exact happart.disjoint

theorem alloc_ranges_disjoint_one_each :
    ∃ c, runConc target
        ⟨[.gpuAttachBacking ⟨0, 0, 1, 16, [1]⟩], [.common (.guestMemWrite 1 [8])], 1⟩
        (fun _ _ => 8) (threadBState target) [.a, .test false, .b] = some c ∧
      ∀ r ∈ allocRanges c.a.hist, ∀ s ∈ allocRanges c.b.hist, r.Disjoint s :=
  ⟨_, rfl, alloc_ranges_disjoint
    ⟨[.gpuAttachBacking ⟨0, 0, 1, 16, [1]⟩], [.common (.guestMemWrite 1 [8])], 1⟩ (fun _ _ => 8)
    (threadBState target) [.a, .test false, .b] _
    (by intro op hop; cases hop with | head => decide | tail _ h => cases h) (by decide) rfl⟩

/-- Thread A after `k` backings of 64 KiB with no queue set up: nothing is published, and the
backings and their padding are taken from the pool. -/
structure Backed (k : Nat) (w : World kMaxQueues GpuDevice) : Prop where
  notSetUp : (w.st.vqs kCmdVq).size = 0
  next : w.st.bufAlloc.toNat = (kBufPoolBase kMaxQueues).toNat + 65552 * k

private theorem Backed.inPool {k : Nat} {w : World kMaxQueues GpuDevice} (h : Backed k w)
    (hk : k ≤ 120) : InPool w := by
  have hbase : (kBufPoolBase kMaxQueues).toNat = 0x4700c000 := by decide
  have hnext := h.next
  constructor
  · omega
  · rw [UInt64.le_iff_toNat_le, kBufPoolEnd_toNat, kBufPoolEndNat]
    omega

private theorem Backed.fits {k : Nat} {w : World kMaxQueues GpuDevice} (h : Backed k w)
    (hk : k < 120) : ¬PoolFull w.st.bufAlloc 65536 := by
  have hbase : (kBufPoolBase kMaxQueues).toNat = 0x4700c000 := by decide
  have hnext := h.next
  have hlen : (65536 : UInt32).toNat = 65536 := rfl
  rw [not_poolFull_iff _ _ (h.inPool hk.le).le_end, hlen]
  omega

/-- The last of 120 backings; it reaches beyond the middle of the pool. -/
def lastBacking : Range := ⟨(kBufPoolBase kMaxQueues).toNat + 65552 * 119, 65536⟩

section Backed

variable {m : GpuResourceAttachBacking}
  (hm : clamp m.numEntries 1 16 * clamp m.entrySize 1 4096 = 65536)

include hm

private theorem Backed.step {k : Nat} {w : World kMaxQueues GpuDevice} (h : Backed k w)
    (hk : k < 120) :
    Backed (k + 1) ((dispatch (.gpuAttachBacking m)).run w).2 ∧
      allocRanges ((dispatch (.gpuAttachBacking m)).run w).2.hist =
        ⟨w.st.bufAlloc.toNat, 65536⟩ :: allocRanges w.hist := by
  have hpool := h.inPool hk.le
  have hfit := h.fits hk
  have hnot : ¬SubmitReady (w.st.vqs kCmdVq) := fun hr => hr.1 h.notSetUp
  constructor
  · have hrun := congrArg Prod.snd (opAttachBacking_run m w)
    rw [hm] at hrun
    obtain ⟨v, hv, -, hfits⟩ := backedSubmit_fits 65536 _ _ _ w hpool hfit
    have hvqs := Steps.vqs_eq (by decide) (by decide) hv
    have hnext := (hv.alloc_eq (by decide)).2
    have hnot' : ¬SubmitReady (v.st.vqs kCmdVq) := by
      rw [hvqs]
      exact hnot
    rw [hfits, submitCmd_notReady kCmdVq _ 24 v hnot'] at hrun
    constructor
    · have hsize : (v.st.vqs kCmdVq).size = 0 := by
        rw [hvqs]
        exact h.notSetUp
      exact (congrArg (fun u => (u.st.vqs kCmdVq).size) hrun).trans hsize
    · have hbump : v.st.bufAlloc.toNat = (bumpNext w.st.bufAlloc 65536).toNat :=
        congrArg UInt64.toNat hnext
      have hw := h.next
      have hlen : (65536 : UInt32).toNat = 65536 := rfl
      have hbase : (kBufPoolBase kMaxQueues).toNat = 0x4700c000 := by decide
      refine (congrArg (fun u => u.st.bufAlloc.toNat) hrun).trans (hbump.trans ?_)
      rw [bumpNext_toNat w.st.bufAlloc 65536 hpool.le_end, hlen]
      omega
  · have hlens : allocLens w.st (.gpuAttachBacking m) = [65536] := by
      simp only [allocLens, backingLen, requestOf, hm, submitLens, if_neg hnot]
      rfl
    rw [dispatch_ranges _ w hpool, hlens, rangesFrom, if_neg hfit]
    rfl

private theorem backed_turns (opsB : List VirtioOp) (j k : Nat) (hk : k + j = 120)
    {c : Conc kMaxQueues GpuDevice VirtioOp}
    (hops : c.opsA = List.replicate j (.gpuAttachBacking m))
    (hw : Backed k c.worldA) (hlast : j = 0 → lastBacking ∈ allocRanges c.a.hist) :
    ∃ c', Run.exec (Conc.step target opsB) c (List.replicate j .a) = some c' ∧
      c'.b = c.b ∧ c'.passes = c.passes ∧ c'.opsB = c.opsB ∧
      lastBacking ∈ allocRanges c'.a.hist := by
  induction j generalizing k c with
  | zero => exact ⟨c, rfl, rfl, rfl, rfl, hlast rfl⟩
  | succ j ih =>
      have hcons : c.opsA = .gpuAttachBacking m :: List.replicate j (.gpuAttachBacking m) := hops
      have hturn : c.step target opsB .a =
          some (c.afterA ((dispatch (.gpuAttachBacking m)).run c.worldA).2
            (List.replicate j (.gpuAttachBacking m))) := by
        simp only [Conc.step, hcons]
        rfl
      obtain ⟨hnext, hrange⟩ := hw.step hm (by omega)
      generalize ((dispatch (.gpuAttachBacking m)).run c.worldA).2 = w' at hturn hnext hrange
      obtain ⟨c', hrun, hb, hpasses, hopsB, hmem⟩ := ih (k + 1) (by omega)
        (c := c.afterA w' (List.replicate j (.gpuAttachBacking m))) rfl hnext (by
          intro hj
          change lastBacking ∈ allocRanges w'.hist
          rw [hrange, hw.next, show k = 119 by omega]
          exact List.mem_cons_self)
      refine ⟨c', ?_, hb, hpasses, hopsB, hmem⟩
      simp only [List.replicate_succ, Run.exec, hturn, Option.bind_some]
      exact hrun

end Backed

/-- 120 backings of 16 times 4096 bytes in thread A, one byte in thread B. -/
def crossingProgram : Program VirtioOp :=
  ⟨List.replicate 120 (.gpuAttachBacking ⟨0, 0, 16, 4096, []⟩), [.common (.guestMemWrite 1 [7])], 1⟩

private theorem single_pass (op : VirtioOp) {c : Conc kMaxQueues GpuDevice VirtioOp}
    (hpasses : c.passes = 1) (hopsB : c.opsB = []) :
    Run.exec (Conc.step target [op]) c [.test false, .b] =
      some (({ c with passes := 0, opsB := [op] } : Conc kMaxQueues GpuDevice VirtioOp).afterB
        ((dispatch op).run c.worldB).2 []) := by
  simp only [Run.exec, Conc.step, hpasses, hopsB]
  rfl

/-- Thread A crosses the middle of the pool and gets the byte thread B has taken. -/
theorem alloc_ranges_overlap_beyond_mid :
    ¬∀ (prog : Program VirtioOp) (dev : Device) (st : State kMaxQueues GpuDevice)
      (turns : List Turn) (c : Conc kMaxQueues GpuDevice VirtioOp),
      (∀ op ∈ prog.opsThreadB, asCommon op ≠ some .reset) →
      runConc target prog dev st turns = some c →
        ∀ r ∈ allocRanges c.a.hist, ∀ s ∈ allocRanges c.b.hist, r.Disjoint s := by
  intro h
  have hops : (startConc target crossingProgram (fun _ _ => 8) (threadBState target)).opsA =
      List.replicate 120 (.gpuAttachBacking ⟨0, 0, 16, 4096, []⟩) := by
    simp [startConc, crossingProgram, kMaxOps]
  have hstart : Backed 0 (startConc target crossingProgram (fun _ _ => 8)
      (threadBState target)).worldA := ⟨rfl, rfl⟩
  obtain ⟨c, hrun, hb, hpasses, hopsB, hmem⟩ :=
    backed_turns (by decide) crossingProgram.opsThreadB 120 0 rfl hops hstart (by decide)
  have hpass := single_pass (.common (.guestMemWrite 1 [7])) hpasses hopsB
  have hrun' : runConc target crossingProgram (fun _ _ => 8) (threadBState target)
      (List.replicate 120 .a ++ [.test false, .b]) =
        Run.exec (Conc.step target crossingProgram.opsThreadB) c [.test false, .b] := by
    rw [runConc, Run.exec_append, hrun]
    rfl
  have hB : c.worldB.st = threadBState target ∧ c.worldB.hist = [] := by
    constructor
    · exact congrArg Thread.st hb
    · exact congrArg Thread.hist hb
  have hpool : InPool c.worldB := by
    constructor
    · rw [hB.1]
      decide
    · rw [hB.1]
      decide
  have hrangeB : ⟨midNat, 1⟩ ∈ allocRanges
      ((dispatch (.common (.guestMemWrite 1 [7]))).run c.worldB).2.hist := by
    rw [dispatch_ranges _ _ hpool, hB.1, hB.2]
    decide
  have hdisj := h crossingProgram _ _ _ _ (by decide) (hrun'.trans hpass) lastBacking hmem
    ⟨midNat, 1⟩ hrangeB
  exact absurd hdisj (by unfold Range.Disjoint Range.stop; decide)

end VirtioCrash.Gpu
