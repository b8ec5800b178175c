import VirtioCrash.Harness.Containment
import VirtioCrash.Blk.Harness
import VirtioCrash.Net.Harness
import VirtioCrash.Gpu.Harness
import VirtioCrash.Scsi.Harness

/-!
# The absolute writes of the targets

The blk, net, gpu and scsi harnesses share one clamp, each with its own start of the buffer pool.
The clamp's lower bound is the buffer pool, not the reserved region: the descriptor tables and rings
below it cannot be written at.
-/

namespace VirtioCrash

open StateProgram

/-- An absolute write with data stores its first 4096 bytes inside the buffer pool of its harness,
at the address it names when they fit there and at the clamped one otherwise. -/
theorem absoluteWrites_clamped (gpa : UInt64) (data : List UInt8) (hdata : data ≠ []) :
    (∀ w : World Blk.kMaxQueues Unit, ∃ a,
      WritesClamped gpa data a w ((Blk.dispatch (.memWriteAbsolute gpa data)).run w).2) ∧
    (∀ w : World Net.kMaxQueues (Synth Net.NetDevice), ∃ a,
      WritesClamped gpa data a w ((Net.dispatch (.common (.memWriteAbsolute gpa data))).run w).2) ∧
    (∀ w : World Gpu.kMaxQueues Gpu.GpuDevice, ∃ a,
      WritesClamped gpa data a w ((Gpu.dispatch (.common (.memWriteAbsolute gpa data))).run w).2) ∧
    (∀ w : World Scsi.kMaxQueues (Synth Unit), ∃ a,
      WritesClamped gpa data a w
        ((Scsi.dispatch (.common (.memWriteAbsolute gpa data))).run w).2) := by
  constructor
  · intro w
    exact opMemwriteAbsolute_clamped (by decide) gpa hdata w
  constructor
  · intro w
    exact opMemwriteAbsolute_clamped (by decide) gpa hdata w
  constructor
  · intro w
    exact opMemwriteAbsolute_clamped (by decide) gpa hdata w
  · intro w
    exact opMemwriteAbsolute_clamped (by decide) gpa hdata w

/-- Four bytes for the last address of all land in the buffer pool of the blk harness. -/
theorem absoluteWrites_clamped_at_top :
    let w : World Blk.kMaxQueues Unit := ⟨fun _ _ => 0, [], threadBState Blk.target, []⟩
    ∃ a, WritesClamped 0xffffffffffffffff [1, 2, 3, 4] a w
      ((Blk.dispatch (.memWriteAbsolute 0xffffffffffffffff [1, 2, 3, 4])).run w).2 := by
  intro w
  exact (absoluteWrites_clamped 0xffffffffffffffff [1, 2, 3, 4] (by decide)).1 w

/-- The blk harness stores the bytes of an absolute write at the very address it names. -/
def WrittenExactly (w : World Blk.kMaxQueues Unit) (gpa : UInt64) (data : List UInt8) : Prop :=
  ((Blk.dispatch (.memWriteAbsolute gpa data)).run w).2 = w.emit (.memWrite gpa (data.take 4096))

private theorem not_writtenExactly (w : World Blk.kMaxQueues Unit) {gpa : UInt64}
    {data : List UInt8} (hdata : data ≠ []) (hlow : gpa < kBufPoolBase Blk.kMaxQueues) :
    ¬WrittenExactly w gpa data := by
  intro hexact
  obtain ⟨a, ha⟩ : ∃ a, WritesClamped gpa data a w
      ((Blk.dispatch (.memWriteAbsolute gpa data)).run w).2 :=
    opMemwriteAbsolute_clamped (by decide) gpa hdata w
  have hsame : w.emit (.memWrite a (data.take 4096)) = w.emit (.memWrite gpa (data.take 4096)) :=
    ha.event.symm.trans hexact
  have hgpa : a = gpa := by
    injection hsame with _ htrace
    injection htrace with hevent
    injection hevent
  have hinside := ha.inside.1
  rw [UInt64.lt_iff_toNat_lt] at hlow
  rw [hgpa] at hinside
  omega

/-- Bytes for the reserved region are stored where they belong exactly when they belong in the
buffer pool; those for a descriptor table or a ring are stored in some buffer instead. -/
theorem reservedRegion_written_iff (w : World Blk.kMaxQueues Unit) (gpa : UInt64)
    (data : List UInt8) (hdata : data ≠ []) (hin : InRegion gpa (min data.length 4096)) :
    WrittenExactly w gpa data ↔ kBufPoolBase Blk.kMaxQueues ≤ gpa := by
  constructor
  · intro hexact
    rw [← UInt64.not_lt]
    exact fun hlow => not_writtenExactly w hdata hlow hexact
  · intro hlow
    obtain ⟨a, ha⟩ : ∃ a, WritesClamped gpa data a w
        ((Blk.dispatch (.memWriteAbsolute gpa data)).run w).2 :=
      opMemwriteAbsolute_clamped (by decide) gpa hdata w
    have hgpa := ha.kept (UInt64.le_iff_toNat_le.mp hlow) hin.2
    subst hgpa
    exact ha.event

theorem reservedRegion_written_at_buffers :
    WrittenExactly ⟨fun _ _ => 0, [], threadBState Blk.target, []⟩ 0x4700c000 [1, 2, 3, 4] ↔
      kBufPoolBase Blk.kMaxQueues ≤ 0x4700c000 :=
  reservedRegion_written_iff _ 0x4700c000 [1, 2, 3, 4] (by decide) (by decide)

/-- The length field of descriptor 1 of queue 0 cannot be overwritten. -/
theorem reservedRegion_not_written :
    ¬∀ (w : World Blk.kMaxQueues Unit) (gpa : UInt64) (data : List UInt8), data ≠ [] →
      InRegion gpa (min data.length 4096) → WrittenExactly w gpa data := by
  intro hall
  have hexact := hall ⟨fun _ _ => 0, [], threadBState Blk.target, []⟩ 0x47000018
    [0xff, 0xff, 0xff, 0xff] (by decide) (by decide)
  exact not_writtenExactly _ (by decide) (by decide) hexact

end VirtioCrash
