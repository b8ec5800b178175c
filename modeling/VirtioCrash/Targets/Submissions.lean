import VirtioCrash.Net.Submissions
import VirtioCrash.Gpu.Outcome
import VirtioCrash.Scsi.DataBuffer
import VirtioCrash.Targets.QueueLayout

/-!
# The submissions of the targets

In every state of a run whose `op_vq_setup`s all have room, a typed submission is all or nothing on
the ring of its queue. A table of 512 descriptors lies over the avail ring, and publishing a chain
then breaks the chain.
-/

namespace VirtioCrash

open StateProgram SplitRing

variable {n : Nat} {ξ Op : Type}

/-- What a thread sees in a run, of one thread or of two, in which every `VqSetup` has room. -/
inductive InFittingRun (t : Target n ξ Op) (asCommon : Op → Option CommonOp) (dev : Device) :
    World n ξ → Prop
  | single (ops : List Op) (w : World n ξ) (hdev : w.dev = dev)
      (hfits : EveryOp t (SetupFits asCommon) ops (t.resetIterationState.run w).2) :
      InFittingRun t asCommon dev (runFromReset t ops w)
  | threadA (prog : Program Op) (st : State n ξ) (turns : List Turn) (c : Conc n ξ Op)
      (hfits : AlwaysConc t prog dev st
        (fun c turn => OnA (SetupFits asCommon) c turn ∧ OnB (SetupFits asCommon) c turn) turns)
      (hrun : runConc t prog dev st turns = some c) : InFittingRun t asCommon dev c.worldA
  | threadB (prog : Program Op) (st : State n ξ) (turns : List Turn) (c : Conc n ξ Op)
      (hfits : AlwaysConc t prog dev st
        (fun c turn => OnA (SetupFits asCommon) c turn ∧ OnB (SetupFits asCommon) c turn) turns)
      (hrun : runConc t prog dev st turns = some c) : InFittingRun t asCommon dev c.worldB

private theorem QueuesFit.inAreas {w : World n ξ} (h : QueuesFit w) (i : Fin n) :
    SetUpInAreas i w := by
  intro hsize
  obtain ⟨haddr, hle⟩ := h i hsize
  simp only [vqAddresses, resetAddresses, Prod.mk.injEq] at haddr
  exact ⟨haddr.1, haddr.2.1, hle⟩

section

variable {t : Target n ξ Op} {asCommon : Op → Option CommonOp}

private theorem Target.Confined.queuesFit_run (ht : t.Confined asCommon) (ops : List Op)
    {w : World n ξ} (hfits : EveryOp t (SetupFits asCommon) ops (t.resetIterationState.run w).2) :
    QueuesFit (runFromReset t ops w) :=
  (prefixes_iff_everyOp ht.queuesFit_dispatch ops (ht.addressed_start w).1).mpr hfits ops
    (List.prefix_refl ops)

private theorem Target.Confined.queuesFit_conc (ht : t.Confined asCommon) (hn : n ≤ 16)
    {prog : Program Op} {dev : Device} {st : State n ξ} {turns : List Turn} {c : Conc n ξ Op}
    (hfits : AlwaysConc t prog dev st
      (fun c turn => OnA (SetupFits asCommon) c turn ∧ OnB (SetupFits asCommon) c turn) turns)
    (hrun : runConc t prog dev st turns = some c) : QueuesFit c.worldA ∧ QueuesFit c.worldB := by
  obtain ⟨hA, hB⟩ := ht.addressed_conc hrun
  rw [← layoutSound_iff_queuesFit hn hA, ← layoutSound_iff_queuesFit hn hB]
  exact (ht.layout_conc_iff hn prog dev st turns).mpr hfits turns (List.prefix_refl turns) c hrun

private theorem InFittingRun.sound (ht : t.Confined asCommon) (hn : n ≤ 16) {dev : Device}
    {w : World n ξ} (h : InFittingRun t asCommon dev w) :
    QueuesFit w ∧ PoolInv (kBufPoolBase n).toNat w := by
  cases h with
  | single ops w hdev hfits => exact ⟨ht.queuesFit_run ops hfits, ht.poolInv hn ops w⟩
  | threadA prog st turns c hfits hrun =>
      exact ⟨(ht.queuesFit_conc hn hfits hrun).1, (ht.poolInv_conc hn hrun).1⟩
  | threadB prog st turns c hfits hrun =>
      exact ⟨(ht.queuesFit_conc hn hfits hrun).2, (ht.poolInv_conc hn hrun).2⟩

end

/-- A submission on queue `i` leaves the ring alone or puts one whole chain on it; the index of the
avail ring then moves by one exactly where it was what the queue had counted. -/
def RingAtomic (m : ByteMemory) (i : Fin n) (chain : List Piece → Prop) (w w' : World n ξ) : Prop :=
  (w.st.vqs i).nextDescIdx.toNat < 2 ^ 32 - 8 →
    Untouched m i w w' ∨ ∃ ps, chain ps ∧ Placed m i ps w w' ∧
      ((w.st.vqs i).availIdx (memoryAfter m w'.trace) =
          (w.st.vqs i).availIdx (memoryAfter m w.trace) + 1 ↔
        (w.st.vqs i).availIdx (memoryAfter m w.trace) = (w.st.vqs i).nextAvailIdx.toUInt16)

private theorem InFittingRun.ringAtomic {t : Target n ξ Op} {asCommon : Op → Option CommonOp}
    {dev : Device} {w w' : World n ξ} {room : UInt32} {i : Fin n} {chain : List Piece → Prop}
    (h : InFittingRun t asCommon dev w) (ht : t.Confined asCommon) (hn : n ≤ 16)
    (hsub : Submitted room i chain w w') (hroom : room.toNat ≤ 8) (m : ByteMemory) :
    RingAtomic m i chain w w' := by
  intro hsmall
  obtain ⟨hqueues, hpool⟩ := h.sound ht hn
  rcases hsub.allOrNothing hroom (hqueues.inAreas i) hn (Nat.le_refl _) hpool hsmall with
    hdropped | ⟨ps, hps, hplaced⟩
  · exact Or.inl hdropped
  · exact Or.inr ⟨ps, hps, hplaced, hplaced.advance_iff⟩

/-- The submissions of the net harness. -/
structure Net.SubmissionsAtomic (m : ByteMemory) (w : World Net.kMaxQueues (Synth NetDevice)) :
    Prop where
  txPacket : ∀ p, RingAtomic m (vqOf p.vqIdx) (TxChain p) w ((opTxPacket p).run w).2
  ctrlCmd : ∀ c, RingAtomic m (vqOf c.vqIdx)
    (CtrlChain (UInt32.ofNat (min c.data.length 1024) > 0)
      (UInt32.ofNat (min c.data.length 1024))) w ((opCtrlCmd c).run w).2
  submitCtrl : ∀ vqIdx vclass cmd payload (hi : vqIdx.toNat < Net.kMaxQueues),
    RingAtomic m ⟨vqIdx.toNat, hi⟩
      (CtrlChain (¬payload.isEmpty) (min (UInt32.ofNat payload.length) 2048)) w
      ((Net.submitCtrl vqIdx vclass cmd payload).run w).2
  noQueue : ∀ vqIdx vclass cmd payload, ¬vqIdx.toNat < Net.kMaxQueues →
    ((Net.submitCtrl vqIdx vclass cmd payload).run w).2 = w

/-- The submissions of the scsi harness. -/
def Scsi.SubmissionsAtomic (m : ByteMemory) (w : World Scsi.kMaxQueues (Synth Unit)) : Prop :=
  ∀ c, RingAtomic m (Fin.ofNat kMaxQueues c.vqIdx.toNat)
    (CmdChain (capLen (packCdb c.cdb).outLen) (capLen (packCdb c.cdb).inLen)) w
    ((submitScsiCmd c).run w).2

/-- The submissions of the gpu harness. -/
def Gpu.SubmissionsAtomic (m : ByteMemory) (w : World Gpu.kMaxQueues GpuDevice) : Prop :=
  ∀ vq req respLen, RingAtomic m vq (CmdChain (UInt32.ofNat req.length) respLen) w
    ((submitCmd vq req respLen).run w).2

private theorem Scsi.submitted_submitScsiCmd (c : ScsiCmd) (w : World kMaxQueues (Synth Unit)) :
    Submitted 5 (Fin.ofNat kMaxQueues c.vqIdx.toNat)
      (CmdChain (capLen (packCdb c.cdb).outLen) (capLen (packCdb c.cdb).inLen)) w
      ((submitScsiCmd c).run w).2 where
  outcome := outcome_submitScsiCmd c w
  idle := guarded_not_ready () _
  few := by
    intro ps hps
    apply few_of_map hps
    · simp [cmdChain]
    · rw [cmdChain]
      split <;> split <;> simp

/-- On every device and in every run whose `op_vq_setup`s all find the addresses of a reset and ask
for sizes that the areas hold, each typed submission of the net, scsi and gpu harnesses is all or
nothing on the ring. -/
theorem submissions_all_or_nothing (m : ByteMemory) (dev : Device) :
    (∀ w, InFittingRun Net.target Net.asCommon dev w → Net.SubmissionsAtomic m w) ∧
      (∀ w, InFittingRun Scsi.target Scsi.asCommon dev w → Scsi.SubmissionsAtomic m w) ∧
      (∀ w, InFittingRun Gpu.target Gpu.asCommon dev w → Gpu.SubmissionsAtomic m w) := by
  constructor
  · intro w hw
    have hatomic {room i chain w'} (hsub : Submitted room i chain w w') (hroom : room.toNat ≤ 8) :=
      hw.ringAtomic Net.confined (by decide) hsub hroom m
    constructor
    · exact fun p => hatomic (Net.submitted_opTxPacket p w) (by decide)
    · exact fun c => hatomic (Net.submitted_opCtrlCmd c w) (by decide)
    · exact fun _ vclass cmd payload hi =>
        hatomic (Net.submitted_submitCtrl hi vclass cmd payload w) (by decide)
    · exact fun _ vclass cmd payload hi => Net.submitCtrl_noQueue hi vclass cmd payload w
  constructor
  · exact fun w hw c =>
      hw.ringAtomic Scsi.confined (by decide) (Scsi.submitted_submitScsiCmd c w) (by decide) m
  · exact fun w hw vq req respLen =>
      hw.ringAtomic Gpu.confined (by decide) (Gpu.submitted_submitCmd vq req respLen w)
        (by decide) m

/-- A control command with a byte of data, for queue 1. -/
def oneByteCmd : Net.CtrlCmd := ⟨1, 0, 0, [0]⟩

theorem submissions_all_or_nothing_one_command :
    let w := runFromReset Net.target [.common (.vqSetup 1 256)]
      ⟨largeDevice, [], ⟨fun _ => .default, 0, fun _ => none, Net.resetExt⟩, []⟩
    ∃ ps, Placed (fun _ => 0) 1 ps w ((Net.opCtrlCmd oneByteCmd).run w).2 := by
  intro w
  have hfits : EveryOp Net.target (SetupFits Net.asCommon) [.common (.vqSetup 1 256)]
      (Net.target.resetIterationState.run
        ⟨largeDevice, [], ⟨fun _ => .default, 0, fun _ => none, Net.resetExt⟩, []⟩).2 := by
    decide +kernel
  have hall := (submissions_all_or_nothing (fun _ => 0) largeDevice).1 w (.single _ _ rfl hfits)
  rcases hall.ctrlCmd oneByteCmd (by decide +kernel) with hdropped | ⟨ps, -, hplaced, -⟩
  · have hq : (((Net.opCtrlCmd oneByteCmd).run w).2.st.vqs 1).nextDescIdx =
        (w.st.vqs 1).nextDescIdx := congrArg VqState.nextDescIdx hdropped.queue
    exact absurd hq (by decide +kernel)
  · exact ⟨ps, hplaced⟩

/-- A descriptor for queue 1 that announces a next one. -/
def openDesc : VqAddDesc := ⟨1, 0, 4, false, true, 1⟩

/-- Four commands and 244 open descriptors, which fill the first page of a larger table. -/
def fullPageOps : List Net.VirtioOp :=
  .common (.vqSetup 1 512) :: List.replicate 4 (.ctrlCmd oneByteCmd) ++
    List.replicate 244 (.common (.vqAddDesc openDesc))

def fullPageStart : World Net.kMaxQueues (Synth Net.NetDevice) :=
  ⟨largeDevice, [], ⟨fun _ => .default, 0, fun _ => none, Net.resetExt⟩, []⟩

def fullPage : World Net.kMaxQueues (Synth Net.NetDevice) :=
  runFromReset Net.target fullPageOps fullPageStart

/-- The next descriptor is the first one behind the page, where the avail ring is, and the ring
entry of the next chain lies over its flags. -/
private theorem fullPage_vq : fullPage.st.vqs 1 =
    { resetVq 1 with size := 512, nextDescIdx := 256, nextAvailIdx := 4 } := by
  decide +kernel

/-- Publishing the command then clears the NEXT flag of its first descriptor. -/
private theorem fullPage_torn :
    let w' := ((Net.opCtrlCmd oneByteCmd).run fullPage).2
    (w'.st.vqs 1).nextDescIdx = 259 ∧
      (readDesc (memoryAfter (fun _ => 0) w'.trace)
        (entryAddr (fullPage.st.vqs 1).descGpa (fullPage.st.vqs 1).nextDescIdx.toNat)).flags &&&
          kDescNext = 0 := by
  decide +kernel

/-- A table of 512 descriptors does not fit its page: a command whose chain starts behind the page
is neither left out nor placed. -/
theorem submissions_torn_at_512 :
    ¬∀ (m : ByteMemory) (ops : List Net.VirtioOp) (c : Net.CtrlCmd)
      (w : World Net.kMaxQueues (Synth Net.NetDevice)), ops.length < kMaxOps →
      ((runFromReset Net.target ops w).st.vqs (Net.vqOf c.vqIdx)).nextDescIdx.toNat < 2 ^ 32 - 8 →
      AllOrNothing m (Net.vqOf c.vqIdx)
        (Net.CtrlChain (UInt32.ofNat (min c.data.length 1024) > 0)
          (UInt32.ofNat (min c.data.length 1024)))
        (runFromReset Net.target ops w)
        ((Net.opCtrlCmd c).run (runFromReset Net.target ops w)).2 := by
  intro hall
  obtain ⟨hplacedAll, hflags⟩ := fullPage_torn
  have hbefore := fullPage_vq
  have hidx : (fullPage.st.vqs 1).nextDescIdx.toNat < 2 ^ 32 - 8 := by
    rw [hbefore]
    decide
  have hatomic := hall (fun _ => 0) fullPageOps oneByteCmd fullPageStart (by decide +kernel)
  rw [show Net.vqOf oneByteCmd.vqIdx = 1 from rfl, ← fullPage] at hatomic
  rcases hatomic hidx with hdropped | ⟨ps, hps, hplaced⟩
  · have hq : ((Net.opCtrlCmd oneByteCmd).run fullPage).2.st.vqs 1 = fullPage.st.vqs 1 :=
      hdropped.queue
    rw [hq, hbefore] at hplacedAll
    revert hplacedAll
    decide
  · have hlen : ps.length = 3 := by
      have hmap := congrArg List.length hps
      rw [List.length_map] at hmap
      exact hmap
    exact hplaced.next (by omega) hflags

end VirtioCrash
