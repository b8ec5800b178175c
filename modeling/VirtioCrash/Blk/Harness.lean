import VirtioCrash.Harness.Confined

/-!
# The virtio-blk harness

`proto_fuzz_virtio_blk.cc`: the common operations over four queues and nothing else. Its
`op_vq_add_desc` places the descriptor in its own body, which `opVqAddDesc_eq` shows to be the
placement of the other harnesses.
-/

namespace VirtioCrash.Blk

open StateProgram Bytes Relation

abbrev kMaxQueues : Nat := 4

abbrev VirtioOp := CommonOp

def resetIterationState : Harness kMaxQueues Unit Unit := resetCommon

def opVqAddDesc (d : VqAddDesc) : Harness kMaxQueues Unit Unit := do
  if h : d.vqIdx.toNat < kMaxQueues then
    let i : Fin kMaxQueues := ⟨d.vqIdx.toNat, h⟩
    let s ← getState
    let q := s.vqs i
    if q.size = 0 then return
    match descTarget s.bufs d.bufId d.len d.exoticRegion with
    | none => return
    | some (addr, dlen) =>
        let idx := q.nextDescIdx % q.size
        let flags := descFlags d.deviceWritable d.chainNext
        let next := ((idx + 1) % q.size).toUInt16
        qtestMemwrite (q.descGpa + (idx * 16).toUInt64) (descBytes addr dlen flags next)
        note (.place i addr dlen d.deviceWritable d.chainNext)
        if ¬d.chainNext then
          let head := q.nextDescIdx.toUInt16
          let ringSlot := q.availGpa + 4 + (q.nextAvailIdx % q.size * 2).toUInt64
          qtestMemwrite ringSlot (le16 head)
          modifyVq i fun q => { q with nextAvailIdx := q.nextAvailIdx + 1 }
          let aidx := (q.nextAvailIdx + 1).toUInt16
          qtestMemwrite (q.availGpa + 2) (le16 aidx)
        modifyVq i fun q => { q with nextDescIdx := q.nextDescIdx + 1 }

def handlers : Handlers kMaxQueues Unit where
  configRead := opConfigReadSized
  guestMemWrite := opGuestMemWrite
  vqAddDesc := opVqAddDesc
  vqKick := opVqKick
  vqWaitUsed := opVqWaitUsed
  resetIterationState := resetIterationState
  mmioCorrupt := opMmioCorrupt

def dispatch (op : VirtioOp) : Harness kMaxQueues Unit Unit := dispatchCommon handlers op

/-- `proto_fuzz_virtio_blk`. -/
def target : Target kMaxQueues Unit VirtioOp where
  dispatch := dispatch
  resetIterationState := resetIterationState
  ext := ()

/-- `g_state` as it is constructed. -/
def constructed : State kMaxQueues Unit :=
  ⟨fun _ => .default, kBufPoolBase kMaxQueues, fun _ => none, ()⟩

/-- The descriptor placement of the blk harness is that of the others. -/
theorem opVqAddDesc_run (d : VqAddDesc) (w : World kMaxQueues Unit) :
    (opVqAddDesc d).run w = ((), w.addDesc descTarget d) := by
  by_cases hi : d.vqIdx.toNat < kMaxQueues
  · by_cases hsize : (w.st.vqs ⟨d.vqIdx.toNat, hi⟩).size = 0
    · simp [opVqAddDesc, World.addDesc, getState, hi, hsize]
      rfl
    · rcases ht : descTarget w.st.bufs d.bufId d.len d.exoticRegion with _ | ⟨gpa, dlen⟩
      · simp [opVqAddDesc, World.addDesc, getState, hi, hsize, ht]
        rfl
      · rcases hchain : d.chainNext with _ | _ <;>
          simp [opVqAddDesc, World.addDesc, getState, hi, hsize, ht, hchain, World.place, note,
            qtestMemwrite, emit, modifyVq, World.emit, World.note, World.setVq,
            VqState.placeEvents, VqState.placeMarks, VqState.advance, VqState.descSlot,
            VqState.descNext, VqState.ringSlot, VqState.descIdx] <;> rfl
  · simp [opVqAddDesc, World.addDesc, hi]
    rfl

private theorem within_opVqAddDesc {A : List Act} (hA : Act.place ∈ A) (d : VqAddDesc) :
    Within (Steps A) (opVqAddDesc d) := by
  intro w
  have h := within_addDescWith (A := A) hA descTarget d w
  rw [addDescWith_run] at h
  rw [opVqAddDesc_run]
  exact h

theorem handlers_sound : handlers.Sound where
  configRead := within_opConfigReadSized (by decide)
  guestMemWrite := within_opGuestMemWrite (by decide) (by decide) (by decide)
  vqAddDesc := within_opVqAddDesc (by decide)
  vqKick := within_opVqKick (by decide)
  vqWaitUsed := within_opVqWaitUsed (by decide)
  mmioCorrupt := within_opMmioCorrupt (by decide)

theorem confined : target.Confined some := by
  apply Target.confined_of_handlers handlers_sound _ rfl
  · intro op c hop
    cases hop
    rfl
  · intro op hop
    cases hop
  · exact fun w => ⟨id, congrArg Prod.snd (resetCommon_run w)⟩

end VirtioCrash.Blk
