import VirtioCrash.Blk.Harness
import VirtioCrash.Gpu.Harness
import VirtioCrash.Harness.DeviceLatch
import VirtioCrash.Harness.Request

/-!
# The inlined and the factored ring code

The blk harness allocates and places in the bodies of its ops, the gpu harness in `alloc_gpa` and
`place_desc`. On ops that only use the pool and the rings the two do the same.
-/

namespace VirtioCrash

open StateProgram

/-- The ops that only use the pool and the rings. -/
inductive RingOp where
  | reset
  | vqSetup (vqIdx size : UInt32)
  | guestMemWrite (bufId : UInt32) (data : List UInt8)
  | vqAddDesc (d : VqAddDesc)

def RingOp.toCommon : RingOp → CommonOp
  | .reset => .reset
  | .vqSetup vqIdx size => .vqSetup vqIdx size
  | .guestMemWrite bufId data => .guestMemWrite bufId data
  | .vqAddDesc d => .vqAddDesc d

def Event.isMmioWrite : Event → Bool
  | .mmioWrite _ _ _ => true
  | _ => false

/-- The read of `QUEUE_NUM_MAX`. -/
def maxQuery : Query := .mmio 4 (kVirtioMmioBase + rQueueNumMax)

section Alike

variable {n : Nat} {ξ ξ' : Type}

/-- Two harnesses in the same state of the pool and the rings, whose devices have the same maximal
queue sizes, after the same events since `old` and `old'`. -/
structure Alike (old old' : List Event) (w : World n ξ) (w' : World n ξ') : Prop where
  events : ∃ es, w.trace = es ++ old ∧ w'.trace = es ++ old'
  answers : ∀ es, w.dev (es ++ old) maxQuery = w'.dev (es ++ old') maxQuery
  vqs : w.st.vqs = w'.st.vqs
  bufAlloc : w.st.bufAlloc = w'.st.bufAlloc
  bufs : w.st.bufs = w'.st.bufs
  inPool : 0 < w.st.bufAlloc.toNat ∧ w.st.bufAlloc ≤ kBufPoolEnd

variable {old old' : List Event} {w : World n ξ} {w' : World n ξ'}

private theorem Alike.events_append (h : Alike old old' w w') (es : List Event) :
    ∃ es', es ++ w.trace = es' ++ old ∧ es ++ w'.trace = es' ++ old' := by
  obtain ⟨es₀, htrace, htrace'⟩ := h.events
  exact ⟨es ++ es₀, by rw [htrace, List.append_assoc], by rw [htrace', List.append_assoc]⟩

private theorem alike_afterReset (hevents : ∃ es, w.trace = es ++ old ∧ w'.trace = es ++ old')
    (hanswers : ∀ es, w.dev (es ++ old) maxQuery = w'.dev (es ++ old') maxQuery) (hn : n ≤ 16)
    (f : ξ → ξ) (f' : ξ' → ξ') :
    Alike old old' (w.afterReset.setExt f) (w'.afterReset.setExt f') where
  events := by
    obtain ⟨es, htrace, htrace'⟩ := hevents
    refine ⟨.mmioWrite 4 (kVirtioMmioBase + rStatus) (kStatusAck ||| kStatusDriver) ::
      .mmioWrite 4 (kVirtioMmioBase + rStatus) 0 :: es, ?_, ?_⟩
    · rw [List.cons_append, List.cons_append, ← htrace]
      rfl
    · rw [List.cons_append, List.cons_append, ← htrace']
      rfl
  answers := hanswers
  vqs := rfl
  bufAlloc := rfl
  bufs := rfl
  inPool := by
    change 0 < (kBufPoolBase n).toNat ∧ kBufPoolBase n ≤ kBufPoolEnd
    rw [UInt64.le_iff_toNat_le, kBufPoolBase_toNat hn]
    change 0 < _ ∧ _ ≤ 0x47F00000
    omega

private theorem Alike.queueNumMax (h : Alike old old' w w') (vqIdx : UInt32) :
    queueNumMax w vqIdx = queueNumMax w' vqIdx := by
  obtain ⟨es, htrace, htrace'⟩ := h.events
  have hanswer := h.answers (.mmioWrite 4 (kVirtioMmioBase + rQueueSel) vqIdx :: es)
  rw [List.cons_append, List.cons_append, ← htrace, ← htrace'] at hanswer
  exact hanswer

private theorem Alike.vqSetup (h : Alike old old' w w') (i : Fin n) (vqIdx size : UInt32) :
    Alike old old' (w.vqSetup i vqIdx size) (w'.vqSetup i vqIdx size) := by
  simp only [World.vqSetup, h.queueNumMax vqIdx, h.vqs]
  by_cases hmax : VirtioCrash.queueNumMax w' vqIdx = 0
  · rw [if_pos hmax, if_pos hmax]
    exact ⟨h.events_append _, h.answers, h.vqs, h.bufAlloc, h.bufs, h.inPool⟩
  · rw [if_neg hmax, if_neg hmax]
    constructor
    · have hes := h.events_append
        (({ w'.st.vqs i with size := vqSize size (VirtioCrash.queueNumMax w' vqIdx) } :
          VqState).programEvents ++ selectEvents vqIdx (VirtioCrash.queueNumMax w' vqIdx))
      simp only [List.append_assoc] at hes
      exact hes
    · exact h.answers
    · simp only [World.setVq, h.vqs]
    · exact h.bufAlloc
    · exact h.bufs
    · exact h.inPool

private theorem Alike.place (h : Alike old old' w w') (i : Fin n) (addr : UInt64) (len : UInt32)
    (deviceWritable chainNext : Bool) :
    Alike old old' (w.place i addr len deviceWritable chainNext)
      (w'.place i addr len deviceWritable chainNext) where
  events := by
    have hes := h.events_append ((w'.st.vqs i).placeEvents addr len deviceWritable chainNext)
    rw [World.place, World.place, h.vqs]
    exact hes
  answers := h.answers
  vqs := by
    rw [World.place, World.place, h.vqs]
  bufAlloc := h.bufAlloc
  bufs := h.bufs
  inPool := h.inPool

private theorem Alike.addDesc (h : Alike old old' w w') (target : TargetRule) (d : VqAddDesc) :
    Alike old old' (w.addDesc target d) (w'.addDesc target d) := by
  by_cases hi : d.vqIdx.toNat < n
  · rw [World.addDesc, World.addDesc, dif_pos hi, dif_pos hi, h.vqs, h.bufs]
    by_cases hsize : (w'.st.vqs ⟨d.vqIdx.toNat, hi⟩).size = 0
    · rw [if_pos hsize, if_pos hsize]
      exact h
    · rw [if_neg hsize, if_neg hsize]
      cases target w'.st.bufs d.bufId d.len d.exoticRegion with
      | none => exact h
      | some t => exact h.place _ _ _ _ _
  · rw [World.addDesc, World.addDesc, dif_neg hi, dif_neg hi]
    exact h

private theorem bumpNext_inPool {bufAlloc : UInt64} {len : UInt32}
    (h : 0 < bufAlloc.toNat ∧ bufAlloc ≤ kBufPoolEnd) (hfit : ¬PoolFull bufAlloc len) :
    0 < (bumpNext bufAlloc len).toNat ∧ bumpNext bufAlloc len ≤ kBufPoolEnd := by
  have hend := (not_poolFull_iff bufAlloc len h.2).mp hfit
  rw [UInt64.le_iff_toNat_le, bumpNext_toNat bufAlloc len h.2]
  change 0 < _ ∧ _ ≤ 0x47F00000
  omega

private theorem Alike.stage (h : Alike old old' w w') (gpa : UInt64) (bytes : List UInt8)
    (len : UInt32) : Alike old old' (w.stage gpa bytes len) (w'.stage gpa bytes len) := by
  rw [World.stage, World.stage]
  by_cases hlen : len ≠ 0
  · rw [if_pos hlen, if_pos hlen]
    exact ⟨h.events_append [_], h.answers, h.vqs, h.bufAlloc, h.bufs, h.inPool⟩
  · rw [if_neg hlen, if_neg hlen]
    exact h

private theorem Alike.opGuestMemWrite (h : Alike old old' w w') (bufId : UInt32)
    (data : List UInt8) :
    Alike old old' ((opGuestMemWrite bufId data).run w).2
      ((opGuestMemWrite bufId data).run w').2 := by
  by_cases hfull : PoolFull w.st.bufAlloc (UInt32.ofNat (min data.length 4096))
  · have hfull' := hfull
    rw [h.bufAlloc] at hfull'
    rw [opGuestMemWrite_full bufId data w hfull, opGuestMemWrite_full bufId data w' hfull']
    exact h
  · have hfull' := hfull
    rw [h.bufAlloc] at hfull'
    have hbump : Alike old old' (w.bump (UInt32.ofNat (min data.length 4096)))
        (w'.bump (UInt32.ofNat (min data.length 4096))) := by
      refine ⟨h.events, h.answers, h.vqs, ?_, h.bufs, bumpNext_inPool h.inPool hfull⟩
      exact congrArg (bumpNext · _) h.bufAlloc
    have hstage := hbump.stage w.st.bufAlloc data (UInt32.ofNat (min data.length 4096))
    rw [opGuestMemWrite_fits bufId data w rfl hfull, opGuestMemWrite_fits bufId data w' rfl hfull',
      ← h.bufAlloc]
    refine ⟨hstage.events, hstage.answers, hstage.vqs, hstage.bufAlloc, ?_, hstage.inPool⟩
    simp only [World.bindBuf, hstage.bufs]

end Alike

private theorem Gpu.opGuestMemWrite_run (bufId : UInt32) (data : List UInt8)
    (w : World Gpu.kMaxQueues Gpu.GpuDevice) (hpos : 0 < w.st.bufAlloc.toNat) :
    (Gpu.opGuestMemWrite bufId data).run w = (VirtioCrash.opGuestMemWrite bufId data).run w := by
  have hne : w.st.bufAlloc ≠ 0 := by
    intro hzero
    rw [hzero] at hpos
    exact absurd hpos (by decide)
  by_cases hfull : PoolFull w.st.bufAlloc (UInt32.ofNat (min data.length 4096))
  · rw [VirtioCrash.opGuestMemWrite_full bufId data w hfull, Gpu.opGuestMemWrite, run_bind,
      allocGpa_full _ w hfull]
    rfl
  · rw [VirtioCrash.opGuestMemWrite_fits bufId data w rfl hfull, Gpu.opGuestMemWrite, run_bind,
      allocGpa_fits _ w hfull]
    simp only [if_neg hne, World.stage]
    split
    · rfl
    · rfl

private theorem ringOp_alike {old old' : List Event} {w : World Blk.kMaxQueues Unit}
    {w' : World Gpu.kMaxQueues Gpu.GpuDevice} (h : Alike old old' w w') (op : RingOp) :
    Alike old old' ((Blk.target.dispatch op.toCommon).run w).2
      ((Gpu.target.dispatch (.common op.toCommon)).run w').2 := by
  cases op with
  | reset =>
      have hblk : ((Blk.target.dispatch CommonOp.reset).run w).2 = w.afterReset :=
        congrArg Prod.snd (resetCommon_run w)
      have hgpu : ((Gpu.target.dispatch (.common .reset)).run w').2 =
          w'.afterReset.setExt fun _ => Gpu.resetExt :=
        congrArg Prod.snd (Gpu.resetIterationState_run w')
      simp only [RingOp.toCommon]
      rw [hblk, hgpu]
      exact alike_afterReset h.events h.answers (by decide) id _
  | vqSetup vqIdx size =>
      change Alike old old' ((opVqSetup vqIdx size).run w).2 ((opVqSetup vqIdx size).run w').2
      by_cases hi : vqIdx.toNat < 4
      · rw [opVqSetup_run vqIdx size w hi, opVqSetup_run vqIdx size w' hi]
        exact h.vqSetup _ vqIdx size
      · rw [opVqSetup_run_ge vqIdx size w hi, opVqSetup_run_ge vqIdx size w' hi]
        exact h
  | guestMemWrite bufId data =>
      change Alike old old' ((VirtioCrash.opGuestMemWrite bufId data).run w).2
        ((Gpu.opGuestMemWrite bufId data).run w').2
      rw [Gpu.opGuestMemWrite_run bufId data w' (h.bufAlloc ▸ h.inPool.1)]
      exact h.opGuestMemWrite bufId data
  | vqAddDesc d =>
      change Alike old old' ((Blk.opVqAddDesc d).run w).2 ((addDescWith descTarget d).run w').2
      rw [Blk.opVqAddDesc_run, addDescWith_run]
      exact h.addDesc descTarget d

private theorem ringOps_alike {old old' : List Event} (ops : List RingOp)
    {w : World Blk.kMaxQueues Unit} {w' : World Gpu.kMaxQueues Gpu.GpuDevice}
    (h : Alike old old' w w') :
    Alike old old' (dispatchAll Blk.target (ops.map RingOp.toCommon) w)
      (dispatchAll Gpu.target (ops.map fun op => .common op.toCommon) w') := by
  induction ops generalizing w w' with
  | nil => exact h
  | cons op ops ih => exact ih (ringOp_alike h op)

/-- What two runs have in common: what they leave in guest memory, whatever it held before, their
MMIO writes, the queues with their counters, `buf_alloc` and `bufs`. -/
structure SameEffects (old old' : List Event) (w : World Blk.kMaxQueues Unit)
    (w' : World Gpu.kMaxQueues Gpu.GpuDevice) : Prop where
  memory : ∀ m, memoryAfter m (newest w.trace old) = memoryAfter m (newest w'.trace old')
  mmioWrites : (newest w.trace old).filter Event.isMmioWrite =
    (newest w'.trace old').filter Event.isMmioWrite
  vqs : w.st.vqs = w'.st.vqs
  bufAlloc : w.st.bufAlloc = w'.st.bufAlloc
  bufs : w.st.bufs = w'.st.bufs

private theorem Alike.sameEffects {old old' : List Event} {w : World Blk.kMaxQueues Unit}
    {w' : World Gpu.kMaxQueues Gpu.GpuDevice} (h : Alike old old' w w') :
    SameEffects old old' w w' := by
  have hnew : newest w.trace old = newest w'.trace old' := by
    obtain ⟨es, htrace, htrace'⟩ := h.events
    rw [htrace, htrace', newest_append, newest_append]
  exact ⟨fun m => by rw [hnew], by rw [hnew], h.vqs, h.bufAlloc, h.bufs⟩

/-- On every list of ring ops, and with the same maximal queue sizes, the inlined and the factored
ring code do the same, in thread A from its reset and in thread B from its own state. -/
theorem ring_code_agrees (ops : List RingOp) (w : World Blk.kMaxQueues Unit)
    (w' : World Gpu.kMaxQueues Gpu.GpuDevice)
    (hsame : ∀ es, w.dev (es ++ w.trace) maxQuery = w'.dev (es ++ w'.trace) maxQuery) :
    SameEffects w.trace w'.trace (runFromReset Blk.target (ops.map RingOp.toCommon) w)
      (runFromReset Gpu.target (ops.map fun op => .common op.toCommon) w') ∧
    SameEffects w.trace w'.trace
      (dispatchAll Blk.target (ops.map RingOp.toCommon)
        ⟨w.dev, w.trace, threadBState Blk.target, []⟩)
      (dispatchAll Gpu.target (ops.map fun op => .common op.toCommon)
        ⟨w'.dev, w'.trace, threadBState Gpu.target, []⟩) := by
  constructor
  · have hreset : Alike w.trace w'.trace (Blk.target.resetIterationState.run w).2
        (Gpu.target.resetIterationState.run w').2 := by
      rw [show (Gpu.target.resetIterationState.run w').2 =
        w'.afterReset.setExt fun _ => Gpu.resetExt from
          congrArg Prod.snd (Gpu.resetIterationState_run w')]
      exact alike_afterReset ⟨[], rfl, rfl⟩ hsame (by decide) id _
    exact (ringOps_alike ops hreset).sameEffects
  · have hmid : 0 < (kBufPoolMid 4).toNat ∧ kBufPoolMid 4 ≤ kBufPoolEnd := by decide
    have hstart : Alike w.trace w'.trace
        (⟨w.dev, w.trace, threadBState Blk.target, []⟩ : World Blk.kMaxQueues Unit)
        (⟨w'.dev, w'.trace, threadBState Gpu.target, []⟩ :
          World Gpu.kMaxQueues Gpu.GpuDevice) :=
      ⟨⟨[], rfl, rfl⟩, hsame, rfl, rfl, rfl, hmid⟩
    exact (ringOps_alike ops hstart).sameEffects

theorem ring_code_agrees_one_buffer :
    let ops : List RingOp :=
      [.vqSetup 0 8, .guestMemWrite 1 [7], .vqAddDesc ⟨0, 1, 4, false, false, 0⟩]
    (runFromReset Blk.target (ops.map RingOp.toCommon)
        ⟨fun _ _ => 8, [], Blk.constructed, []⟩).st.vqs =
      (runFromReset Gpu.target (ops.map fun op => .common op.toCommon)
        ⟨fun _ _ => 8, [], threadBState Gpu.target, []⟩).st.vqs := by
  intro ops
  exact (ring_code_agrees ops ⟨fun _ _ => 8, [], Blk.constructed, []⟩
    ⟨fun _ _ => 8, [], threadBState Gpu.target, []⟩ fun _ => rfl).1.vqs

end VirtioCrash
