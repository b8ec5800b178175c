import VirtioCrash.Harness.Confined

/-!
# Harnesses without state of their own

Apart from the ids it mints, such a harness keeps no state between its typed ops, and it handles the
common ops in the same way as the others of its kind.
-/

namespace VirtioCrash

open StateProgram

variable {n : Nat}

namespace Plain

def resetExt : Synth Unit where
  synthBufId := 0x80000000
  device := ()

/-- `synth_buf_id` as it is constructed: the struct gives it no initial value. -/
def constructedExt : Synth Unit where
  synthBufId := 0
  device := ()

def resetIterationState : Harness n (Synth Unit) Unit := do
  resetCommon
  modifyExt fun _ => resetExt

/-- The target of a descriptor is never of length 0. -/
def descTarget : TargetRule := fun bufs bufId len exoticRegion =>
  if exoticRegion ≠ 0 then some (exoticAddr bufId exoticRegion, max (min len 4) 1)
  else (bufs bufId).map fun buf =>
    let dlen := min len buf.len
    (buf.gpa, if dlen = 0 then 1 else dlen)

def opVqKick (vqIdx : UInt32) : Harness n (Synth Unit) Unit := mmioWritel rQueueNotify vqIdx

def opVqWaitUsed (_vqIdx : UInt32) : Harness n (Synth Unit) Unit := flushEvents

/-- Whatever size the message names, a word is written. -/
def opMmioCorrupt (offset value _size : UInt32) : Harness n (Synth Unit) Unit :=
  mmioWritel (offset &&& 0x1ff).toUInt64 value

def handlers : Handlers n (Synth Unit) where
  configRead := opConfigReadWord
  guestMemWrite := opGuestMemWrite
  vqAddDesc := addDescWith descTarget
  vqKick := opVqKick
  vqWaitUsed := opVqWaitUsed
  resetIterationState := resetIterationState
  mmioCorrupt := opMmioCorrupt

private theorem handlers_sound : (handlers (n := n)).Sound where
  configRead := within_opConfigReadWord (by decide)
  guestMemWrite := within_opGuestMemWrite (by decide) (by decide) (by decide)
  vqAddDesc := within_addDescWith (by decide) descTarget
  vqKick _ := within_mmioWritel (by decide) _ _
  vqWaitUsed _ := within_flushEvents (by decide)
  mmioCorrupt _ _ _ := within_mmioWritel (by decide) _ _

theorem resetIterationState_run (w : World n (Synth Unit)) :
    resetIterationState.run w = ((), w.afterReset.setExt fun _ => resetExt) := by
  rw [resetIterationState, StateT.run_bind, resetCommon_run]
  rfl

theorem confined {Op : Type} {t : Target n (Synth Unit) Op} {asCommon : Op → Option CommonOp}
    (hreset : t.resetIterationState = resetIterationState)
    (hcommon : ∀ op c, asCommon op = some c → t.dispatch op = dispatchCommon handlers c)
    (htyped : ∀ op, asCommon op = none → Within (Steps typedActs) (t.dispatch op)) :
    t.Confined asCommon := by
  apply Target.confined_of_handlers handlers_sound _ hreset.symm hcommon htyped
  intro w
  rw [hreset]
  exact ⟨fun _ => resetExt, congrArg Prod.snd (resetIterationState_run w)⟩

/-- What a submission does with its buffer: it is one descriptor, if the queue has room for it. -/
def submitBuf (vq : Fin n) (bytes : List UInt8) (len : UInt32) (deviceWritable : Bool) :
    Harness n (Synth Unit) Unit := do
  let s ← getState
  if (s.vqs vq).size = 0 then return
  if (s.vqs vq).nextDescIdx + 1 ≥ (s.vqs vq).size then return
  let id ← allocBuf bytes len
  if id = 0 then return
  let _ ← placeBuf vq id deviceWritable false
  notify vq

theorem within_submitBuf (vq : Fin n) (bytes : List UInt8) (len : UInt32)
    (deviceWritable : Bool) : Within (Steps typedActs) (submitBuf vq bytes len deviceWritable) := by
  apply within_ifSetUp
  intro s
  exact WithinFrom.ite (Within.pure _).from (submits_lone _ _ _ _)

theorem clampedLen_bounds (least size : UInt32) (hleast : least ≤ 4096) :
    let len := if size < least then least else size
    least.toNat ≤ (if len > 4096 then 4096 else len).toNat ∧
      (if len > 4096 then 4096 else len).toNat ≤ 4096 := by
  intro len
  have hlen : least.toNat ≤ len.toNat := by
    by_cases hsmall : size < least
    · simp [len, hsmall]
    · rw [show len = size from if_neg hsmall]
      rw [UInt32.lt_iff_toNat_lt] at hsmall
      exact Nat.le_of_not_lt hsmall
  by_cases hbig : len > 4096
  · rw [if_pos hbig]
    exact ⟨UInt32.le_iff_toNat_le.mp hleast, le_refl _⟩
  · rw [if_neg hbig]
    rw [gt_iff_lt, UInt32.lt_iff_toNat_lt] at hbig
    exact ⟨hlen, Nat.le_of_not_lt hbig⟩

end Plain

end VirtioCrash
