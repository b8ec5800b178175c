import VirtioCrash.Harness.DeviceLatch
import VirtioCrash.Targets.BufferPool

/-!
# The queue areas of the targets

The areas of a thread's queues stay apart as long as every `op_vq_setup` finds the addresses that
`reset_iteration_state` assigns and settles on a size that the 4 KB of a descriptor table hold, and
not a step longer.
-/

namespace VirtioCrash

open StateProgram BumpAllocator

variable {n : Nat} {ξ Op : Type}

/-- The addresses `reset_iteration_state` gives a queue. -/
def resetAddresses (i : Nat) : UInt64 × UInt64 × UInt64 :=
  ((resetVq i).descGpa, (resetVq i).availGpa, (resetVq i).usedGpa)

/-- A queue that is set up has its own addresses and no more descriptors than they have room for. -/
def QueuesFit (w : World n ξ) : Prop :=
  ∀ i, (w.st.vqs i).size ≠ 0 →
    vqAddresses w i = resetAddresses i ∧ (w.st.vqs i).size.toNat ≤ 256

/-- A thread's queues have the addresses of a reset, or, before its first one, none at all. -/
def Addressed (w : World n ξ) : Prop :=
  AddressesReset w ∨ ∀ i, vqAddresses w i = (0, 0, 0)

/-- The areas are apart exactly when every queue fits its own. -/
theorem layoutSound_iff_queuesFit {w : World n ξ} (hn : n ≤ 16) (h : Addressed w) :
    LayoutSound w ↔ QueuesFit w := by
  rcases h with hreset | hzero
  · rw [layoutSound_iff hreset hn]
    constructor
    · intro hsize i _
      exact ⟨hreset i, hsize i⟩
    · intro hfit i
      by_cases hi : (w.st.vqs i).size = 0
      · simp [hi]
      · exact (hfit i hi).2
  · have hstart (i : Fin n) : (w.st.vqs i).descGpa = 0 ∧ (w.st.vqs i).availGpa = 0 := by
      have hi := hzero i
      simp only [vqAddresses, Prod.mk.injEq] at hi
      exact ⟨hi.1, hi.2.1⟩
    constructor
    · intro hs i hi
      -- without addresses the table and the avail ring start at the same byte
      have hdisj : (w.st.vqs i).descArea.Disjoint (w.st.vqs i).availArea :=
        (List.pairwise_cons.mp (hs.apart i hi)).1 _ (by simp)
      have hpos : (w.st.vqs i).size.toNat ≠ 0 := fun hz => hi (UInt32.toNat_inj.mp hz)
      obtain ⟨hdesc, havail⟩ := hstart i
      simp only [Range.Disjoint, Range.stop, VqState.descArea, VqState.availArea, hdesc, havail,
        UInt64.toNat_zero] at hdisj
      omega
    · intro hfit
      have hnone (i : Fin n) : (w.st.vqs i).size = 0 := by
        by_contra hi
        have haddr := (hfit i hi).1
        have hne := (resetVq_toNat (lt_of_lt_of_le i.isLt hn)).1
        rw [hzero i, resetAddresses, Prod.mk.injEq] at haddr
        rw [← haddr.1, UInt64.toNat_zero] at hne
        omega
      constructor
      · exact fun i hi => absurd (hnone i) hi
      · exact fun i _ _ hi => absurd (hnone i) hi
      · exact fun i hi => absurd (hnone i) hi

/-- A `VqSetup` finds the addresses of a reset and asks for a size that, once capped by the device's
maximum, is below the first power of two that the areas have no room for. -/
def SetupFits (asCommon : Op → Option CommonOp) (w : World n ξ) (op : Op) : Prop :=
  match asCommon op with
  | some (.vqSetup vqIdx size) => ∀ hi : vqIdx.toNat < n, queueNumMax w vqIdx ≠ 0 →
      vqAddresses w ⟨vqIdx.toNat, hi⟩ = resetAddresses vqIdx.toNat ∧
        cappedSize size (queueNumMax w vqIdx) < 512
  | _ => True

instance (asCommon : Op → Option CommonOp) (w : World n ξ) (op : Op) :
    Decidable (SetupFits asCommon w op) := by
  unfold SetupFits
  split <;> infer_instance

private theorem queuesFit_vqSetup (i : Fin n) (vqIdx size : UInt32) (w : World n ξ)
    (hw : QueuesFit w) (hmax : queueNumMax w vqIdx ≠ 0) :
    QueuesFit (w.vqSetup i vqIdx size) ↔
      vqAddresses w i = resetAddresses i ∧ cappedSize size (queueNumMax w vqIdx) < 512 := by
  have hvqs : (w.vqSetup i vqIdx size).st.vqs = Function.update w.st.vqs i
      { w.st.vqs i with size := vqSize size (queueNumMax w vqIdx) } := by
    simp [World.vqSetup, hmax, World.setVq]
  rw [← vqSize_le_iff size _ hmax]
  constructor
  · intro hfit
    have hi := hfit i
    simp only [vqAddresses, hvqs, Function.update_self] at hi
    exact hi (vqSize_ne_zero size _)
  · rintro ⟨haddr, hsize⟩ j hj
    by_cases hij : j = i
    · subst hij
      simpa [vqAddresses, hvqs] using And.intro haddr hsize
    · simp only [hvqs, Function.update_of_ne hij, vqAddresses] at hj ⊢
      exact hw j hj

private theorem CommonOp.setSize_notMem {c : CommonOp} (hc : ∀ vqIdx size, c ≠ .vqSetup vqIdx size) :
    Act.setSize ∉ c.acts := by
  cases c with
  | vqSetup vqIdx size => exact absurd rfl (hc vqIdx size)
  | _ => simp [CommonOp.acts]

/-- What an op does: it is a reset, it sets up a queue that there is, or it sets up none. -/
theorem Target.Confined.dispatch_cases {t : Target n ξ Op} {asCommon : Op → Option CommonOp}
    (ht : t.Confined asCommon) (op : Op) (w : World n ξ) :
    (asCommon op = some .reset ∧
      ∃ f, ((t.dispatch op).run w).2 = w.afterReset.setExt f) ∨
    (∃ vqIdx size, ∃ hi : vqIdx.toNat < n, asCommon op = some (.vqSetup vqIdx size) ∧
      ((t.dispatch op).run w).2 = w.vqSetup ⟨vqIdx.toNat, hi⟩ vqIdx size) ∨
    ((∀ vqIdx size, asCommon op = some (.vqSetup vqIdx size) → ¬vqIdx.toNat < n) ∧
      ∃ A, Act.setSize ∉ A ∧ Steps A w ((t.dispatch op).run w).2) := by
  rcases hc : asCommon op with _ | c
  · exact Or.inr (Or.inr ⟨nofun, typedActs, by decide, ht.dispatch_typed op hc w⟩)
  · by_cases hreset : c = .reset
    · obtain ⟨f, hf⟩ := ht.reset w
      rw [← ht.dispatch_reset op (hc.trans (congrArg some hreset))] at hf
      exact Or.inl ⟨congrArg some hreset, f, hf⟩
    · by_cases hsetup : ∃ vqIdx size, c = .vqSetup vqIdx size
      · obtain ⟨vqIdx, size, rfl⟩ := hsetup
        rw [ht.dispatch_vqSetup op vqIdx size hc]
        by_cases hi : vqIdx.toNat < n
        · exact Or.inr (Or.inl ⟨vqIdx, size, hi, rfl, by rw [opVqSetup_run vqIdx size w hi]⟩)
        · refine Or.inr (Or.inr ⟨?_, [], List.not_mem_nil, ?_⟩)
          · rintro _ _ ⟨⟩
            exact hi
          · rw [opVqSetup_run_ge vqIdx size w hi]
            exact .refl
      · have hno : ∀ vqIdx size, c ≠ .vqSetup vqIdx size :=
          fun vqIdx size he => hsetup ⟨vqIdx, size, he⟩
        refine Or.inr (Or.inr ⟨?_, c.acts, CommonOp.setSize_notMem hno,
          ht.dispatch_common op c hc hreset w⟩)
        exact fun vqIdx size he => absurd (Option.some.inj he) (hno vqIdx size)

private theorem queuesFit_afterReset (w : World n ξ) (f : ξ → ξ) :
    QueuesFit (w.afterReset.setExt f) :=
  fun _ hi => absurd rfl hi

private theorem QueuesFit.of_st {w w' : World n ξ} (hst : w'.st = w.st) (hw : QueuesFit w) :
    QueuesFit w' := by
  intro i hi
  simp only [vqAddresses, hst] at hi ⊢
  exact hw i hi

private theorem QueuesFit.steps {A : List Act} {w w' : World n ξ} (hA : Act.setSize ∉ A)
    (hs : Steps A w w') (hw : QueuesFit w) : QueuesFit w' := by
  intro i hi
  rw [hs.size_eq hA i] at hi ⊢
  rw [hs.vqAddresses_eq]
  exact hw i hi

namespace Target.Confined

variable {t : Target n ξ Op} {asCommon : Op → Option CommonOp}

private theorem addressed_dispatch (ht : t.Confined asCommon) (op : Op) (w : World n ξ)
    (hw : Addressed w) : Addressed ((t.dispatch op).run w).2 := by
  by_cases hop : asCommon op = some .reset
  · rw [ht.dispatch_reset op hop]
    exact ht.reset_keeps (fun w f => Or.inl (addressesReset_afterReset w f)) w
  · have haddr := (ht.dispatch_step op hop w).vqAddresses_eq
    rw [Addressed, AddressesReset, haddr]
    exact hw

theorem queuesFit_dispatch (ht : t.Confined asCommon) (op : Op) (w : World n ξ)
    (hw : QueuesFit w) :
    QueuesFit ((t.dispatch op).run w).2 ↔ SetupFits asCommon w op := by
  rcases ht.dispatch_cases op w with ⟨hop, f, hrun⟩ | ⟨vqIdx, size, hi, hop, hrun⟩ |
    ⟨hno, A, hA, hsteps⟩
  · rw [SetupFits, hop, hrun]
    exact iff_of_true (queuesFit_afterReset w f) trivial
  · rw [SetupFits, hop, hrun]
    by_cases hmax : queueNumMax w vqIdx = 0
    · have hst : (w.vqSetup ⟨vqIdx.toNat, hi⟩ vqIdx size).st = w.st := by
        simp [World.vqSetup, hmax]
      exact iff_of_true (hw.of_st hst) fun _ h => absurd hmax h
    · rw [queuesFit_vqSetup _ vqIdx size w hw hmax]
      exact ⟨fun h _ _ => h, fun h => h hi hmax⟩
  · refine iff_of_true (hw.steps hA hsteps) ?_
    rw [SetupFits]
    split
    · rename_i vqIdx size hop
      exact fun hi => absurd hi (hno vqIdx size hop)
    · trivial

theorem addressed_start (ht : t.Confined asCommon) (w : World n ξ) :
    QueuesFit (t.resetIterationState.run w).2 ∧ Addressed (t.resetIterationState.run w).2 := by
  constructor
  · exact ht.reset_keeps queuesFit_afterReset w
  · exact ht.reset_keeps (fun w f => Or.inl (addressesReset_afterReset w f)) w

private theorem layout_iff (ht : t.Confined asCommon) (hn : n ≤ 16) (ops : List Op)
    (w : World n ξ) :
    (∀ pre, pre <+: ops → LayoutSound (runFromReset t pre w)) ↔
      EveryOp t (SetupFits asCommon) ops (t.resetIterationState.run w).2 := by
  have hsound (pre : List Op) :
      LayoutSound (runFromReset t pre w) ↔ QueuesFit (runFromReset t pre w) :=
    layoutSound_iff_queuesFit hn (Or.inl (ht.addressesReset pre w))
  simp only [hsound]
  exact prefixes_iff_everyOp ht.queuesFit_dispatch ops (ht.addressed_start w).1

theorem addressed_conc (ht : t.Confined asCommon) {prog : Program Op} {dev : Device}
    {st : State n ξ} {turns : List Turn} {c : Conc n ξ Op}
    (hrun : runConc t prog dev st turns = some c) : Addressed c.worldA ∧ Addressed c.worldB := by
  apply runConc_threads Addressed _ ht.addressed_dispatch _ _ hrun
  · exact fun _ _ _ hw => hw
  · exact fun w => (ht.addressed_start w).2
  · exact fun _ _ => Or.inr fun _ => rfl

/-- Both threads find the layout sound all along exactly when every `VqSetup` of either has room. -/
theorem layout_conc_iff (ht : t.Confined asCommon) (hn : n ≤ 16) (prog : Program Op)
    (dev : Device) (st : State n ξ) (turns : List Turn) :
    (∀ pre, pre <+: turns → ∀ c, runConc t prog dev st pre = some c →
      LayoutSound c.worldA ∧ LayoutSound c.worldB) ↔
      AlwaysConc t prog dev st
        (fun c turn => OnA (SetupFits asCommon) c turn ∧ OnB (SetupFits asCommon) c turn)
        turns := by
  have hsound : (∀ pre, pre <+: turns → ∀ c, runConc t prog dev st pre = some c →
      LayoutSound c.worldA ∧ LayoutSound c.worldB) ↔
      ∀ pre, pre <+: turns → ∀ c, runConc t prog dev st pre = some c →
        QueuesFit c.worldA ∧ QueuesFit c.worldB := by
    refine forall₂_congr fun pre _ => forall₂_congr fun c hrun => ?_
    obtain ⟨hA, hB⟩ := ht.addressed_conc hrun
    rw [layoutSound_iff_queuesFit hn hA, layoutSound_iff_queuesFit hn hB]
  rw [hsound]
  apply Run.prefixes_iff_always (fun c : Conc n ξ Op => QueuesFit c.worldA ∧ QueuesFit c.worldB)
  · rintro c turn c' ⟨hA, hB⟩ hstep
    rcases Conc.step_cases hstep with ⟨op, rest, rfl, hops, rfl⟩ | ⟨op, rest, rfl, hops, rfl⟩ |
      ⟨hnotA, hnotB, -, -, ha, hb, -⟩
    · have hkeeps := ht.queuesFit_dispatch op c.worldA hA
      have hother : QueuesFit (c.afterA ((t.dispatch op).run c.worldA).2 rest).worldB := hB
      simp [OnA, OnB, hops, hkeeps, hother]
    · have hkeeps := ht.queuesFit_dispatch op c.worldB hB
      have hother : QueuesFit (c.afterB ((t.dispatch op).run c.worldB).2 rest).worldA := hA
      simp [OnA, OnB, hops, hkeeps, hother]
    · have hstA : c'.worldA.st = c.worldA.st := congrArg Thread.st ha
      have hstB : c'.worldB.st = c.worldB.st := congrArg Thread.st hb
      simp [OnA, OnB, hnotA, hnotB, hA.of_st hstA, hB.of_st hstB]
  · intro c turn hstep
    constructor
    · rintro rfl op hop
      rcases hops : c.opsA with _ | ⟨op', rest⟩
      · simp [hops] at hop
      · simp [Conc.step, hops] at hstep
    · rintro rfl op hop
      rcases hops : c.opsB with _ | ⟨op', rest⟩
      · simp [hops] at hop
      · simp [Conc.step, hops] at hstep
  · exact ⟨(ht.addressed_start _).1, fun _ hi => absurd rfl hi⟩

end Target.Confined

/-- What `op_vq_setup` programs into the device are the areas of the queue it set up. -/
def SetupProgramsAreas (n : Nat) (ξ : Type) : Prop :=
  ∀ (vqIdx size : UInt32) (w : World n ξ) (hi : vqIdx.toNat < n), queueNumMax w vqIdx ≠ 0 →
    ∀ d : Latch,
      ((d.after ((opVqSetup vqIdx size).run w).2.trace).queues vqIdx).Matches
        (((opVqSetup vqIdx size).run w).2.st.vqs ⟨vqIdx.toNat, hi⟩)

private theorem setupProgramsAreas (n : Nat) (ξ : Type) : SetupProgramsAreas n ξ := by
  intro vqIdx size w hi hmax d
  rw [opVqSetup_run vqIdx size w hi]
  have hsel : (d.after (selectEvents vqIdx (queueNumMax w vqIdx) ++ w.trace)).sel = vqIdx := rfl
  have hprog := latch_program d _ vqIdx
    { w.st.vqs ⟨vqIdx.toNat, hi⟩ with size := vqSize size (queueNumMax w vqIdx) } hsel
  simpa [World.vqSetup, hmax, World.setVq] using hprog.1

/-- On a device, the layout of a target is sound all along a run, of one thread or of two, exactly
when every `VqSetup` of the run has room. -/
structure LayoutExact (dev : Device) (t : Target n ξ Op) (asCommon : Op → Option CommonOp) :
    Prop where
  single : ∀ ops w, w.dev = dev →
    ((∀ pre, pre <+: ops → LayoutSound (runFromReset t pre w)) ↔
      EveryOp t (SetupFits asCommon) ops (t.resetIterationState.run w).2)
  threads : ∀ prog st turns,
    (∀ pre, pre <+: turns → ∀ c, runConc t prog dev st pre = some c →
      LayoutSound c.worldA ∧ LayoutSound c.worldB) ↔
    AlwaysConc t prog dev st
      (fun c turn => OnA (SetupFits asCommon) c turn ∧ OnB (SetupFits asCommon) c turn) turns
  programs : SetupProgramsAreas n ξ

private theorem Target.Confined.layoutExact {t : Target n ξ Op} {asCommon : Op → Option CommonOp}
    (ht : t.Confined asCommon) (hn : n ≤ 16) (dev : Device) : LayoutExact dev t asCommon where
  single ops w _ := ht.layout_iff hn ops w
  threads prog st turns := ht.layout_conc_iff hn prog dev st turns
  programs := setupProgramsAreas n ξ

/-- On every device and in every run, the areas of the queues that are set up stay apart from one
another and from the buffer pool exactly when every `VqSetup` finds the addresses of a reset and
asks for a size that the areas hold. -/
theorem queueLayout_sound_iff (dev : Device) :
    LayoutExact dev Blk.target some ∧ LayoutExact dev Net.target Net.asCommon ∧
      LayoutExact dev Gpu.target Gpu.asCommon ∧ LayoutExact dev Scsi.target Scsi.asCommon := by
  constructor
  · exact Blk.confined.layoutExact (by decide) dev
  constructor
  · exact Net.confined.layoutExact (by decide) dev
  constructor
  · exact Gpu.confined.layoutExact (by decide) dev
  · exact Scsi.confined.layoutExact (by decide) dev

/-- A device that allows 1024 descriptors, as QEMU's does. -/
def largeDevice : Device := fun _ _ => 1024

/-- A table of 512 descriptors runs into the avail ring behind it. -/
theorem queueLayout_overlap_at_512 :
    ¬∀ (ops : List Net.VirtioOp) w, LayoutSound (runFromReset Net.target ops w) := by
  intro hall
  have hsound := hall [.common (.vqSetup 0 512)]
    ⟨largeDevice, [], ⟨fun _ => .default, 0, fun _ => none, Net.resetExt⟩, []⟩
  have hpair := hsound.apart 0 (by decide)
  have hdisj := (List.pairwise_cons.mp hpair).1 _ (List.mem_cons_self)
  revert hdisj
  decide

end VirtioCrash
