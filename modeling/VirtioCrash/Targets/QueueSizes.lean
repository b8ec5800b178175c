import VirtioCrash.Harness.Reached
import VirtioCrash.Targets.QueueLayout

/-!
# The size of a queue

The loop of `op_vq_setup` ends, and what it leaves is the largest power of two within the request
and the device's maximum. The sizes of all queues are therefore powers of two in every state a
thread reaches, which the ring arithmetic modulo `q.size` rests on.
-/

namespace VirtioCrash

open StateProgram

variable {n : Nat} {ξ Op : Type}

/-- The loop's condition, `size && (size & (size - 1))`. -/
def HasLowerBit (size : UInt32) : Prop := size ≠ 0 ∧ size &&& (size - 1) ≠ 0

/-- The loop's body, `size &= size - 1`. -/
def clearLowestBit (size : UInt32) : UInt32 := size &&& (size - 1)

private theorem loopEnds_clearLowBits (fuel : Nat) (size : UInt32)
    (hend : ¬HasLowerBit (clearLowBits fuel size)) :
    ∃ passes ≤ fuel,
      Run.LoopEnds HasLowerBit clearLowestBit passes size (clearLowBits fuel size) := by
  induction fuel generalizing size with
  | zero => exact ⟨0, le_refl 0, .done hend⟩
  | succ fuel ih =>
      by_cases hbit : HasLowerBit size
      · have hpass : clearLowBits (fuel + 1) size = clearLowBits fuel (clearLowestBit size) :=
          if_pos hbit
        rw [hpass] at hend ⊢
        obtain ⟨passes, hle, hrest⟩ := ih (clearLowestBit size) hend
        exact ⟨passes + 1, Nat.succ_le_succ hle, .again hbit hrest⟩
      · have hstop : clearLowBits (fuel + 1) size = size := if_neg hbit
        rw [hstop]
        exact ⟨0, Nat.zero_le _, .done hbit⟩

private theorem not_hasLowerBit_of_pow {size : UInt32} {k : Nat} (h : size.toNat = 2 ^ k) :
    ¬HasLowerBit size := by
  rintro ⟨hne, hlower⟩
  have hne' : size.toNat ≠ 0 := fun hz => hne (UInt32.toNat_inj.mp hz)
  have hpred : (size - 1).toNat = size.toNat - 1 :=
    UInt32.toNat_sub_of_le size 1 (UInt32.le_iff_toNat_le.mpr (Nat.pos_of_ne_zero hne'))
  have hzero := (Nat.and_sub_one_eq_zero_iff_isPowerOfTwo hne').mpr ⟨k, h⟩
  rw [← hpred, ← UInt32.toNat_and] at hzero
  exact hlower (UInt32.toNat_inj.mp hzero)

private theorem clearLoop_ends (size : UInt32) :
    ∃ passes ≤ 32,
      Run.LoopEnds HasLowerBit clearLowestBit passes size (clearLowBits 32 size) := by
  apply loopEnds_clearLowBits
  by_cases hzero : size = 0
  · subst hzero
    exact fun h => h.1 rfl
  · have hne : size.toNat ≠ 0 := fun hz => hzero (UInt32.toNat_inj.mp hz)
    have hvalue := BitClear.clearLoop_eq hne size.toNat_lt
    rw [← clearLowBits_toNat] at hvalue
    exact not_hasLowerBit_of_pow hvalue

private theorem isGreatest_two_pow_log2 {bound : Nat} (h : bound ≠ 0) :
    IsGreatest {p | (∃ k, p = 2 ^ k) ∧ p ≤ bound} (2 ^ bound.log2) := by
  constructor
  · exact ⟨⟨bound.log2, rfl⟩, Nat.log2_self_le h⟩
  · rintro p ⟨⟨k, rfl⟩, hle⟩
    exact Nat.pow_le_pow_right (by decide) ((Nat.le_log2 h).mpr hle)

private theorem vqSize_isGreatest (requestedSize : UInt32) {max : UInt32} (hmax : max ≠ 0) :
    IsGreatest {p | (∃ k, p = 2 ^ k) ∧ p ≤ cappedSize requestedSize max}
      (vqSize requestedSize max).toNat := by
  rw [vqSize_toNat _ _ hmax]
  exact isGreatest_two_pow_log2 (cappedSize_ne_zero requestedSize hmax)

/-- A target rounds the sizes of its queues: an op that decodes to `VqSetup` stores the largest
power of two within the request, 64 if it is zero, and the device's maximum, whatever the two
are, and no other size is ever reached, by one thread or by the two threads of a program. -/
structure RoundsSizes (t : Target n ξ Op) (asCommon : Op → Option CommonOp) : Prop where
  ends : ∀ size : UInt32, ∃ passes ≤ 32,
    Run.LoopEnds HasLowerBit clearLowestBit passes size (clearLowBits 32 size)
  stored : ∀ op vqIdx requestedSize, asCommon op = some (.vqSetup vqIdx requestedSize) →
    ∀ (hi : vqIdx.toNat < n) (w : World n ξ), queueNumMax w vqIdx ≠ 0 →
      let size := (((t.dispatch op).run w).2.st.vqs ⟨vqIdx.toNat, hi⟩).size.toNat
      IsGreatest {p | (∃ k, p = 2 ^ k) ∧ p ≤ cappedSize requestedSize (queueNumMax w vqIdx)} size ∧
        1 ≤ size ∧ size ≤ (queueNumMax w vqIdx).toNat
  reached : ∀ ops w, Reached t ops w → SizesPow2 w
  threads : ∀ prog dev st turns c, runConc t prog dev st turns = some c →
    SizesPow2 c.worldA ∧ SizesPow2 c.worldB

private theorem Target.Confined.reached_sizesPow2 {t : Target n ξ Op}
    {asCommon : Op → Option CommonOp} (ht : t.Confined asCommon) {ops : List Op} {w : World n ξ}
    (h : Reached t ops w) : SizesPow2 w := by
  apply ht.reached_invariant _ sizesPow2_afterReset _ _ h
  · exact fun _ _ _ hw => hw
  · exact fun _ _ _ => Or.inl rfl
  · exact fun _ _ _ hs hw => hw.step hs

private theorem Target.Confined.roundsSizes {t : Target n ξ Op} {asCommon : Op → Option CommonOp}
    (ht : t.Confined asCommon) : RoundsSizes t asCommon where
  ends := clearLoop_ends
  stored := by
    intro op vqIdx requestedSize hop hi w hmax size
    have hstored : size = (vqSize requestedSize (queueNumMax w vqIdx)).toNat := by
      simp only [size]
      rw [ht.dispatch_vqSetup op vqIdx requestedSize hop, opVqSetup_run vqIdx requestedSize w hi]
      simp [World.vqSetup, hmax, World.setVq]
    have hgreatest := vqSize_isGreatest requestedSize hmax
    rw [← hstored] at hgreatest
    obtain ⟨⟨k, hk⟩, hle⟩ := hgreatest.1
    have hpos := Nat.two_pow_pos k
    rw [cappedSize] at hle
    exact ⟨hgreatest, by omega, by omega⟩
  reached _ _ h := ht.reached_sizesPow2 h
  threads := by
    intro prog dev st turns c hrun
    obtain ⟨⟨_, ha⟩, ⟨_, hb⟩⟩ := reached_conc hrun
    exact ⟨ht.reached_sizesPow2 ha, ht.reached_sizesPow2 hb⟩

/-- Every harness rounds the sizes of its queues, for every request and every device. -/
theorem queueSizes_rounded :
    RoundsSizes Blk.target some ∧ RoundsSizes Net.target Net.asCommon ∧
      RoundsSizes Gpu.target Gpu.asCommon ∧ RoundsSizes Scsi.target Scsi.asCommon := by
  constructor
  · exact Blk.confined.roundsSizes
  constructor
  · exact Net.confined.roundsSizes
  constructor
  · exact Gpu.confined.roundsSizes
  · exact Scsi.confined.roundsSizes

/-- A request for 100 entries from a device that offers 1024 stores 64. -/
theorem queueSizes_hundred :
    let w := runFromReset Blk.target [] ⟨fun _ _ => 1024, [], Blk.constructed, []⟩
    let w' := ((Blk.target.dispatch (.vqSetup 0 100)).run w).2
    IsGreatest {p | (∃ k, p = 2 ^ k) ∧ p ≤ 100} (w'.st.vqs 0).size.toNat ∧
      (w'.st.vqs 0).size = 64 ∧ SizesPow2 w' := by
  intro w w'
  have hrounds := queueSizes_rounded.1
  have hstored := hrounds.stored (.vqSetup 0 100) 0 100 rfl (by decide) w (by decide +kernel)
  have hreached : Reached Blk.target [] w := reached_runFromReset [] _
  exact ⟨hstored.1, by decide +kernel, hrounds.reached _ w' (hreached.op (.vqSetup 0 100))⟩

end VirtioCrash
