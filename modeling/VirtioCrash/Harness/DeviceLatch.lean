import VirtioCrash.Harness.Confined
import VirtioCrash.Harness.ConfigSpace

/-!
# What the device latches

The virtio-mmio registers of the queues: `QUEUE_SEL` picks the queue that the other registers belong
to, and a zero in `STATUS` makes every queue not ready. `opVqSetup_run` says what `op_vq_setup`
writes, and `latch_program` what the device has latched afterwards.
-/

namespace VirtioCrash

open StateProgram

variable {n : Nat} {ξ : Type}

structure LatchedQueue where
  num : UInt32
  descLo : UInt32
  descHi : UInt32
  drvLo : UInt32
  drvHi : UInt32
  devLo : UInt32
  devHi : UInt32
  ready : Bool
  deriving DecidableEq

namespace LatchedQueue

def desc (q : LatchedQueue) : UInt64 := q.descLo.toUInt64 ||| q.descHi.toUInt64 <<< 32
def driver (q : LatchedQueue) : UInt64 := q.drvLo.toUInt64 ||| q.drvHi.toUInt64 <<< 32
def device (q : LatchedQueue) : UInt64 := q.devLo.toUInt64 ||| q.devHi.toUInt64 <<< 32

/-- The device knows the queue as the harness does. -/
def Matches (l : LatchedQueue) (q : VqState) : Prop :=
  l.num = q.size ∧ l.desc = q.descGpa ∧ l.driver = q.availGpa ∧ l.device = q.usedGpa

instance (l : LatchedQueue) (q : VqState) : Decidable (l.Matches q) :=
  inferInstanceAs (Decidable (_ ∧ _))

end LatchedQueue

structure Latch where
  sel : UInt32
  queues : UInt32 → LatchedQueue

namespace Latch

def onSelected (f : LatchedQueue → LatchedQueue) (d : Latch) : Latch :=
  { d with queues := Function.update d.queues d.sel (f (d.queues d.sel)) }

/-- A register write at an offset of the window. -/
def write (d : Latch) (off : UInt64) (v : UInt32) : Latch :=
  if off = rQueueSel then { d with sel := v }
  else if off = rQueueNum then d.onSelected fun q => { q with num := v }
  else if off = rQdescLo then d.onSelected fun q => { q with descLo := v }
  else if off = rQdescHi then d.onSelected fun q => { q with descHi := v }
  else if off = rQdrvLo then d.onSelected fun q => { q with drvLo := v }
  else if off = rQdrvHi then d.onSelected fun q => { q with drvHi := v }
  else if off = rQdevLo then d.onSelected fun q => { q with devLo := v }
  else if off = rQdevHi then d.onSelected fun q => { q with devHi := v }
  else if off = rQueueReady then d.onSelected fun q => { q with ready := decide (v ≠ 0) }
  else if off = rStatus ∧ v = 0 then
    { d with queues := fun i => { d.queues i with ready := false } }
  else d

/-- The device after the events (newest first). -/
def after (d : Latch) : List Event → Latch
  | [] => d
  | .mmioWrite _ addr v :: es => (d.after es).write (addr - kVirtioMmioBase) v
  | _ :: es => d.after es

end Latch

/-- The registers a queue is programmed through. -/
def queueRegisters : List UInt64 :=
  [rQueueNum, rQdescLo, rQdescHi, rQdrvLo, rQdrvHi, rQdevLo, rQdevHi, rQueueReady]

private theorem Latch.write_queues {d : Latch} {off : UInt64} {v : UInt32}
    (hoff : off ∉ queueRegisters) (hstatus : off = rStatus → v ≠ 0) :
    (d.write off v).queues = d.queues := by
  simp only [queueRegisters, List.mem_cons, List.not_mem_nil, or_false, not_or] at hoff
  obtain ⟨h1, h2, h3, h4, h5, h6, h7, h8⟩ := hoff
  have hst : ¬(off = rStatus ∧ v = 0) := fun h => hstatus h.1 h.2
  simp only [Latch.write, h1, h2, h3, h4, h5, h6, h7, h8, hst, if_false]
  split <;> rfl

/-- The answer to the read of `QUEUE_NUM_MAX` that `op_vq_setup` makes for a queue. -/
def queueNumMax (w : World n ξ) (vqIdx : UInt32) : UInt32 :=
  w.dev (.mmioWrite 4 (kVirtioMmioBase + rQueueSel) vqIdx :: w.trace)
    (.mmio 4 (kVirtioMmioBase + rQueueNumMax))

/-- The writes that program a queue, newest first. -/
def VqState.programEvents (q : VqState) : List Event :=
  [.mmioWrite 4 (kVirtioMmioBase + rQueueReady) 1,
    .mmioWrite 4 (kVirtioMmioBase + rQdevHi) (q.usedGpa >>> 32).toUInt32,
    .mmioWrite 4 (kVirtioMmioBase + rQdevLo) q.usedGpa.toUInt32,
    .mmioWrite 4 (kVirtioMmioBase + rQdrvHi) (q.availGpa >>> 32).toUInt32,
    .mmioWrite 4 (kVirtioMmioBase + rQdrvLo) q.availGpa.toUInt32,
    .mmioWrite 4 (kVirtioMmioBase + rQdescHi) (q.descGpa >>> 32).toUInt32,
    .mmioWrite 4 (kVirtioMmioBase + rQdescLo) q.descGpa.toUInt32,
    .mmioWrite 4 (kVirtioMmioBase + rQueueNum) q.size]

/-- The two accesses before them, newest first. -/
def selectEvents (vqIdx max : UInt32) : List Event :=
  [.mmioRead 4 (kVirtioMmioBase + rQueueNumMax) max,
    .mmioWrite 4 (kVirtioMmioBase + rQueueSel) vqIdx]

/-- What `op_vq_setup` does to the world. -/
def World.vqSetup (i : Fin n) (vqIdx requestedSize : UInt32) (w : World n ξ) : World n ξ :=
  let max := queueNumMax w vqIdx
  if max = 0 then { w with trace := selectEvents vqIdx max ++ w.trace }
  else
    let q := { w.st.vqs i with size := vqSize requestedSize max }
    { w.setVq i q with trace := q.programEvents ++ (selectEvents vqIdx max ++ w.trace) }

theorem opVqSetup_run (vqIdx requestedSize : UInt32) (w : World n ξ) (hi : vqIdx.toNat < n) :
    (opVqSetup vqIdx requestedSize).run w =
      ((), w.vqSetup ⟨vqIdx.toNat, hi⟩ vqIdx requestedSize) := by
  by_cases hmax : queueNumMax w vqIdx = 0
  · have hdev := hmax
    simp only [queueNumMax] at hdev
    simp [opVqSetup, hi, World.vqSetup, hmax, selectEvents, mmioWritel, mmioWrite, mmioReadl,
      mmioRead, emit, World.emit, hdev]
    rfl
  · have hdev := hmax
    simp only [queueNumMax] at hdev
    simp [opVqSetup, hi, World.vqSetup, selectEvents, mmioWritel, mmioWrite, mmioReadl,
      mmioRead, emit, World.emit, hdev, modifyVq, getState, World.setVq, VqState.programEvents,
      queueNumMax]
    rfl

theorem opVqSetup_run_ge (vqIdx requestedSize : UInt32) (w : World n ξ) (hi : ¬vqIdx.toNat < n) :
    (opVqSetup vqIdx requestedSize).run w = ((), w) := by
  simp [opVqSetup, hi]
  rfl

private theorem or_halves (x : UInt64) :
    x.toUInt32.toUInt64 ||| (x >>> 32).toUInt32.toUInt64 <<< 32 = x := by
  apply UInt64.toNat_inj.mp
  have hx := x.toNat_lt
  have hlow : x.toNat % 4294967296 < 2 ^ 32 := Nat.mod_lt _ (by decide)
  have hhigh : x.toNat / 4294967296 % 4294967296 = x.toNat / 4294967296 :=
    Nat.mod_eq_of_lt (by omega)
  have hshift : x.toNat / 4294967296 * 4294967296 % 18446744073709551616 =
      x.toNat / 4294967296 * 4294967296 := Nat.mod_eq_of_lt (by omega)
  have hor := Nat.shiftLeft_add_eq_or_of_lt hlow (x.toNat / 4294967296)
  simp only [Nat.shiftLeft_eq, Nat.reducePow] at hor
  simp only [UInt64.toNat_or, UInt32.toNat_toUInt64, UInt64.toNat_toUInt32, UInt64.toNat_shiftLeft,
    UInt64.toNat_shiftRight, UInt64.reduceToNat, Nat.shiftRight_eq_div_pow, Nat.shiftLeft_eq,
    Nat.reducePow, Nat.reduceMod]
  rw [hhigh, hshift, Nat.or_comm, ← hor]
  omega

/-- After the programming of a queue the device has it ready, with the harness's size and
addresses; the other queues are as they were. -/
theorem latch_program (d : Latch) (es : List Event) (vqIdx : UInt32) (q : VqState)
    (hsel : (d.after es).sel = vqIdx) :
    ((d.after (q.programEvents ++ es)).queues vqIdx).Matches q ∧
      ((d.after (q.programEvents ++ es)).queues vqIdx).ready = true ∧
      ∀ i, i ≠ vqIdx →
        (d.after (q.programEvents ++ es)).queues i = (d.after es).queues i := by
  have hoff (off : UInt64) : kVirtioMmioBase + off - kVirtioMmioBase = off := by
    rw [UInt64.add_comm, UInt64.add_sub_cancel]
  simp only [VqState.programEvents, List.cons_append, List.nil_append, Latch.after, hoff]
  refine ⟨?_, ?_, ?_⟩
  · have hhalves := And.intro (or_halves q.descGpa)
      (And.intro (or_halves q.availGpa) (or_halves q.usedGpa))
    simpa [Latch.write, Latch.onSelected, hsel, LatchedQueue.Matches, LatchedQueue.desc,
      LatchedQueue.driver, LatchedQueue.device, rQueueSel, rQueueNum, rQdescLo, rQdescHi, rQdrvLo,
      rQdrvHi, rQdevLo, rQdevHi, rQueueReady] using hhalves
  · simp [Latch.write, Latch.onSelected, hsel, rQueueSel, rQueueNum, rQdescLo, rQdescHi,
      rQdrvLo, rQdrvHi, rQdevLo, rQdevHi, rQueueReady]
  · intro i hi
    simp [Latch.write, Latch.onSelected, hsel, hi, rQueueSel, rQueueNum, rQdescLo, rQdescHi,
      rQdrvLo, rQdrvHi, rQdevLo, rQdevHi, rQueueReady]

/-- Neither the harness nor the device changes what it knows of the queues. -/
def QueuesKept (w w' : World n ξ) : Prop :=
  (∀ i, vqAddresses w' i = vqAddresses w i ∧ (w'.st.vqs i).size = (w.st.vqs i).size) ∧
    ∀ d : Latch, (d.after w'.trace).queues = (d.after w.trace).queues

instance : IsPreorder (World n ξ) QueuesKept where
  refl _ := ⟨fun _ => ⟨rfl, rfl⟩, fun _ => rfl⟩
  trans _ _ _ h h' :=
    ⟨fun i => ⟨(h'.1 i).1.trans (h.1 i).1, (h'.1 i).2.trans (h.1 i).2⟩,
      fun d => (h'.2 d).trans (h.2 d)⟩

theorem QueuesKept.matches_iff {w w' : World n ξ} (h : QueuesKept w w') (l : LatchedQueue)
    (i : Fin n) : l.Matches (w'.st.vqs i) ↔ l.Matches (w.st.vqs i) := by
  obtain ⟨haddr, hsize⟩ := h.1 i
  simp only [vqAddresses, Prod.mk.injEq] at haddr
  obtain ⟨hdesc, havail, hused⟩ := haddr
  rw [LatchedQueue.Matches, LatchedQueue.Matches, hsize, hdesc, havail, hused]

private theorem kept_mmioRead (width : Nat) (off : UInt64) :
    Within QueuesKept (mmioRead width off : Harness n ξ UInt32) :=
  fun _ => ⟨fun _ => ⟨rfl, rfl⟩, fun _ => rfl⟩

private theorem kept_mmioWritel (off : UInt64) (v : UInt32) (hoff : off ∉ queueRegisters)
    (hstatus : off = rStatus → v ≠ 0) :
    Within QueuesKept (mmioWritel off v : Harness n ξ Unit) := by
  intro w
  refine ⟨fun _ => ⟨rfl, rfl⟩, fun d => ?_⟩
  have hsub : kVirtioMmioBase + off - kVirtioMmioBase = off := by
    rw [UInt64.add_comm, UInt64.add_sub_cancel]
  change ((d.after w.trace).write (kVirtioMmioBase + off - kVirtioMmioBase) v).queues = _
  rw [hsub]
  exact Latch.write_queues hoff hstatus

private theorem kept_flushEvents : Within QueuesKept (flushEvents : Harness n ξ Unit) :=
  fun _ => ⟨fun _ => ⟨rfl, rfl⟩, fun _ => rfl⟩

theorem kept_opGetFeatures : Within QueuesKept (opGetFeatures : Harness n ξ Unit) := by
  refine (kept_mmioWritel _ _ (by decide) (by decide)).bind fun _ => ?_
  refine (kept_mmioRead _ _).bind fun _ => ?_
  refine (kept_mmioWritel _ _ (by decide) (by decide)).bind fun _ => ?_
  exact (kept_mmioRead _ _).bind fun _ => Within.pure _

theorem kept_opSetFeatures (f : UInt64) :
    Within QueuesKept (opSetFeatures f : Harness n ξ Unit) := by
  have hsel : rDrvFeaturesSel ∉ queueRegisters ∧ rDrvFeaturesSel ≠ rStatus := by decide
  have hfeat : rDrvFeatures ∉ queueRegisters ∧ rDrvFeatures ≠ rStatus := by decide
  refine (kept_mmioWritel _ _ hsel.1 fun h => absurd h hsel.2).bind fun _ => ?_
  refine (kept_mmioWritel _ _ hfeat.1 fun h => absurd h hfeat.2).bind fun _ => ?_
  refine (kept_mmioWritel _ _ hsel.1 fun h => absurd h hsel.2).bind fun _ => ?_
  refine (kept_mmioWritel _ _ hfeat.1 fun h => absurd h hfeat.2).bind fun _ => ?_
  refine (kept_mmioRead _ _).bind fun st => ?_
  refine kept_mmioWritel _ _ (by decide) fun _ h => ?_
  exact absurd (UInt32.or_eq_zero_iff.mp h).2 (by decide)

theorem kept_opConfigReadSized (offset size : UInt32) :
    Within QueuesKept (opConfigReadSized offset size : Harness n ξ Unit) := by
  refine Within.ite ?_ (Within.ite ?_ ?_)
  · exact (kept_mmioRead _ _).bind fun _ => Within.pure _
  · exact (kept_mmioRead _ _).bind fun _ => Within.pure _
  · exact (kept_mmioRead _ _).bind fun _ => Within.pure _

theorem kept_opConfigWrite (offset : UInt32) (data : List UInt8) :
    Within QueuesKept (opConfigWrite offset data : Harness n ξ Unit) := by
  refine Within.forM _ fun word hword => ?_
  obtain ⟨k, hk, hoff⟩ := configWords_off _ _ _ word hword
  have hlow : ∀ r ∈ rStatus :: queueRegisters, r.toNat < 0x100 := by
    have hall : (rStatus :: queueRegisters).all (fun r => decide (r.toNat < 0x100)) = true := by
      decide
    intro r hr
    exact of_decide_eq_true (List.all_eq_true.mp hall r hr)
  have hhigh : 0x100 ≤ word.1.toNat := by
    rw [hoff, UInt64.toNat_add, UInt64.toNat_ofNat']
    simp only [rConfig, UInt64.reduceToNat]
    omega
  have hnot : word.1 ∉ rStatus :: queueRegisters := by
    intro hmem
    have hlt := hlow word.1 hmem
    omega
  rw [List.mem_cons, not_or] at hnot
  exact kept_mmioWritel _ _ hnot.2 fun h => absurd h hnot.1

theorem kept_opVqSelect (vqIdx : UInt32) :
    Within QueuesKept (opVqSelect vqIdx : Harness n ξ Unit) :=
  kept_mmioWritel _ _ (by decide) fun h => absurd h (by decide)

theorem kept_opSetStatus (bits : UInt32) (hbits : bits ≠ 0) :
    Within QueuesKept (opSetStatus bits : Harness n ξ Unit) := by
  rw [opSetStatus, if_neg hbits]
  refine (kept_mmioRead _ _).bind fun st => ?_
  refine kept_mmioWritel _ _ (by decide) fun _ h => ?_
  exact hbits (UInt32.or_eq_zero_iff.mp h).2

theorem kept_opVqKick (vqIdx : UInt32) : Within QueuesKept (opVqKick vqIdx : Harness n ξ Unit) :=
  (kept_mmioWritel _ _ (by decide) fun h => absurd h (by decide)).bind fun _ => kept_flushEvents

theorem kept_opVqWaitUsed (vqIdx : UInt32) :
    Within QueuesKept (opVqWaitUsed vqIdx : Harness n ξ Unit) := by
  refine kept_flushEvents.bind fun _ => ?_
  refine (kept_mmioRead _ _).bind fun st => ?_
  refine Within.ite ?_ (Within.pure _)
  exact kept_mmioWritel _ _ (by decide) fun h => absurd h (by decide)

theorem kept_opMemwriteAbsolute (gpa : UInt64) (data : List UInt8) :
    Within QueuesKept (opMemwriteAbsolute gpa data : Harness n ξ Unit) := by
  refine Within.ite (Within.pure _) ?_
  dsimp only
  split
  · exact Within.pure _
  · exact fun _ => ⟨fun _ => ⟨rfl, rfl⟩, fun _ => rfl⟩

theorem kept_opGuestMemWrite (bufId : UInt32) (data : List UInt8) :
    Within QueuesKept (opGuestMemWrite bufId data : Harness n ξ Unit) := by
  intro w
  by_cases h : PoolFull w.st.bufAlloc (UInt32.ofNat (min data.length 4096))
  · rw [opGuestMemWrite_full bufId data w h]
    exact Std.Refl.refl w
  · rw [opGuestMemWrite_fits bufId data w rfl h, World.stage]
    split
    · exact ⟨fun _ => ⟨rfl, rfl⟩, fun _ => rfl⟩
    · exact ⟨fun _ => ⟨rfl, rfl⟩, fun _ => rfl⟩

private theorem queuesKept_place (i : Fin n) (addr : UInt64) (len : UInt32)
    (deviceWritable chainNext : Bool) (w : World n ξ) :
    QueuesKept w (w.place i addr len deviceWritable chainNext) := by
  constructor
  · intro j
    by_cases hj : j = i
    · subst hj
      simp [vqAddresses, World.place, VqState.advance]
    · simp [vqAddresses, World.place, hj]
  · intro d
    cases chainNext <;> rfl

theorem queuesKept_addDesc (target : TargetRule) (d : VqAddDesc) (w : World n ξ) :
    QueuesKept w (w.addDesc target d) := by
  rw [World.addDesc]
  split
  · split
    · exact Std.Refl.refl w
    · split
      · exact Std.Refl.refl w
      · exact queuesKept_place _ _ _ _ _ w
  · exact Std.Refl.refl w

end VirtioCrash
