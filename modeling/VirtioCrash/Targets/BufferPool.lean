import VirtioCrash.Blk.Harness
import VirtioCrash.Net.Harness
import VirtioCrash.Gpu.Harness
import VirtioCrash.Scsi.Harness

/-!
# The buffer pool of the targets

Every confined target keeps the buffer-pool invariant, and in a state that has it the guard of the
allocators is the exact bound: what does not fit below the end of the pool changes nothing.
-/

namespace VirtioCrash

open StateProgram BumpAllocator

variable {n : Nat} {ξ η Op : Type}

/-- A request of `len` bytes and its padding runs past the end of the pool. -/
def NoRoom (w : World n ξ) (len : UInt32) : Prop :=
  kBufPoolEndNat < w.st.bufAlloc.toNat + len.toNat + 16

private theorem PoolInv.poolFull_iff {lo : Nat} {w : World n ξ} (h : PoolInv lo w) (len : UInt32) :
    PoolFull w.st.bufAlloc len ↔ NoRoom w len := by
  have hfit := not_poolFull_iff w.st.bufAlloc len h.le_end
  rw [NoRoom, kBufPoolEndNat, ← not_iff_not, hfit, Nat.not_lt]

/-- The pool of a thread: the invariant, and requests without room leave the thread as it was. -/
structure PoolSound (w : World n ξ) : Prop where
  inv : PoolInv (kBufPoolBase n).toNat w
  allocGpa_noRoom : ∀ len, NoRoom w len → (allocGpa len).run w = (0, w)
  guestMemWrite_noRoom : ∀ bufId data, NoRoom w (UInt32.ofNat (min data.length 4096)) →
    (opGuestMemWrite bufId data).run w = ((), w)

private theorem PoolInv.sound {w : World n ξ} (h : PoolInv (kBufPoolBase n).toNat w) :
    PoolSound w where
  inv := h
  allocGpa_noRoom := by
    intro len hlen
    have hfull := (h.poolFull_iff len).mpr hlen
    exact allocGpa_full len w hfull
  guestMemWrite_noRoom := by
    intro bufId data hlen
    have hfull := (h.poolFull_iff _).mpr hlen
    exact opGuestMemWrite_full bufId data w hfull

/-- The same where `alloc_buf` mints the buffer ids. -/
structure SynthPoolSound (w : World n (Synth η)) : Prop extends PoolSound w where
  allocBuf_noRoom : ∀ bytes len, NoRoom w len → (allocBuf bytes len).run w = (0, w)

private theorem PoolInv.synthSound {w : World n (Synth η)} (h : PoolInv (kBufPoolBase n).toNat w) :
    SynthPoolSound w where
  toPoolSound := h.sound
  allocBuf_noRoom := by
    intro bytes len hlen
    have hfull := (h.poolFull_iff len).mpr hlen
    exact allocBuf_full bytes len w hfull

/-- In every state that the ops of one thread reach from a reset, the ranges handed out since the
last reset are aligned, disjoint, inside the pool and below `buf_alloc`, every staged buffer is one
of them, and a request that does not fit changes nothing. -/
theorem bufferPool_sound :
    (∀ ops w, PoolSound (runFromReset Blk.target ops w)) ∧
    (∀ ops w, SynthPoolSound (runFromReset Net.target ops w)) ∧
    (∀ ops w, PoolSound (runFromReset Gpu.target ops w)) ∧
    (∀ ops w, SynthPoolSound (runFromReset Scsi.target ops w)) := by
  constructor
  · intro ops w
    exact (Blk.confined.poolInv (by decide) ops w).sound
  constructor
  · intro ops w
    exact (Net.confined.poolInv (by decide) ops w).synthSound
  constructor
  · intro ops w
    exact (Gpu.confined.poolInv (by decide) ops w).sound
  · intro ops w
    exact (Scsi.confined.poolInv (by decide) ops w).synthSound

end VirtioCrash
