import VirtioCrash.Blk.Harness
import VirtioCrash.Harness.DeviceLatch

/-!
# The blk harness and the device

The sizes and addresses in `vqs` are those the device latched. A queue that is set up is also ready
in the device, until a `SetStatus` with no bits clears the status register behind the bookkeeping.
-/

namespace VirtioCrash.Blk

open StateProgram

/-- Whether the op is `MmioCorrupt`, which writes device registers at will. -/
def corrupts : VirtioOp → Bool
  | .mmioCorrupt _ _ _ => true
  | _ => false

/-- Whether the op places a descriptor that points outside RAM, where a device that follows it could
write its own registers. -/
def exotic : VirtioOp → Bool
  | .vqAddDesc d => decide (d.exoticRegion ≠ 0)
  | _ => false

/-- Whether the status register was cleared by `SetStatus` since queue `i` was last set up, given
whether it was before the op. -/
def clearedAfter (i : Fin kMaxQueues) (w : World kMaxQueues Unit) (cleared : Bool) :
    VirtioOp → Bool
  | .setStatus bits => cleared || decide (bits = 0)
  | .vqSetup vqIdx _ =>
      if vqIdx.toNat = i ∧ queueNumMax w vqIdx ≠ 0 then false else cleared
  | _ => cleared

/-- The same over a list of ops. -/
def statusCleared (i : Fin kMaxQueues) (w : World kMaxQueues Unit) (cleared : Bool) :
    List VirtioOp → Bool
  | [] => cleared
  | op :: ops =>
      statusCleared i ((dispatch op).run w).2 (clearedAfter i w cleared op) ops

/-- What the harness believes of queue `i` against what the device latched of it. -/
def Agrees (d : Latch) (i : Fin kMaxQueues) (cleared : Bool) (w : World kMaxQueues Unit) : Prop :=
  (w.st.vqs i).size ≠ 0 →
    ((d.after w.trace).queues (UInt32.ofNat i)).Matches (w.st.vqs i) ∧
      ((d.after w.trace).queues (UInt32.ofNat i)).ready = !cleared

variable {d : Latch} {i : Fin kMaxQueues} {cleared : Bool} {w w' : World kMaxQueues Unit}

private theorem Agrees.kept (h : Agrees d i cleared w) (hkept : QueuesKept w w') :
    Agrees d i cleared w' := by
  intro hsize
  rw [(hkept.1 i).2] at hsize
  rw [hkept.2 d, hkept.matches_iff]
  exact h hsize

private theorem queueIdx_eq {vqIdx : UInt32} (h : vqIdx.toNat = i) : UInt32.ofNat i = vqIdx := by
  rw [← h, UInt32.ofNat_toNat]

private theorem queueIdx_ne {vqIdx : UInt32} (h : vqIdx.toNat ≠ i) :
    UInt32.ofNat i ≠ vqIdx := by
  intro he
  apply h
  have hi : i.val < 4 := i.isLt
  have hval := congrArg UInt32.toNat he
  rw [UInt32.toNat_ofNat', Nat.mod_eq_of_lt (by omega)] at hval
  exact hval.symm

private theorem Agrees.vqSetup (h : Agrees d i cleared w) {vqIdx : UInt32} (size : UInt32)
    (hidx : vqIdx.toNat < kMaxQueues) :
    Agrees d i (clearedAfter i w cleared (.vqSetup vqIdx size))
      (w.vqSetup ⟨vqIdx.toNat, hidx⟩ vqIdx size) := by
  have hselect (max : UInt32) :
      d.after (selectEvents vqIdx max ++ w.trace) = { d.after w.trace with sel := vqIdx } := rfl
  rw [World.vqSetup]
  by_cases hmax : queueNumMax w vqIdx = 0
  · simp only [hmax, if_true, clearedAfter, ne_eq, not_true_eq_false, and_false, if_false]
    intro hsize
    rw [hselect]
    exact h hsize
  · simp only [hmax, if_false]
    generalize hq : { w.st.vqs ⟨vqIdx.toNat, hidx⟩ with
      size := vqSize size (queueNumMax w vqIdx) } = q
    obtain ⟨hmatch, hready, hother⟩ :=
      latch_program d (selectEvents vqIdx (queueNumMax w vqIdx) ++ w.trace) vqIdx q
        (by rw [hselect])
    by_cases hi : vqIdx.toNat = i
    · simp only [clearedAfter, hi, hmax, ne_eq, not_false_eq_true, and_true, if_true]
      intro _
      rw [queueIdx_eq hi]
      simp only [World.setVq, Function.update_self]
      exact ⟨hmatch, hready⟩
    · have hne : i ≠ ⟨vqIdx.toNat, hidx⟩ := fun he => hi (congrArg Fin.val he).symm
      simp only [clearedAfter, hi, false_and, if_false]
      intro hsize
      simp only [World.setVq, Function.update_of_ne hne] at hsize ⊢
      rw [hother _ (queueIdx_ne hi), hselect]
      exact h hsize

private theorem Agrees.clearStatus (h : Agrees d i cleared w) :
    Agrees d i true (w.emit (.mmioWrite 4 (kVirtioMmioBase + rStatus) 0)) := by
  intro hsize
  exact ⟨(h hsize).1, rfl⟩

private theorem Agrees.dispatch (h : Agrees d i cleared w) (op : VirtioOp)
    (hop : corrupts op = false) :
    Agrees d i (clearedAfter i w cleared op) ((dispatch op).run w).2 := by
  cases op with
  | getFeatures => exact h.kept (kept_opGetFeatures w)
  | setFeatures features => exact h.kept (kept_opSetFeatures features w)
  | configRead offset size => exact h.kept (kept_opConfigReadSized offset size w)
  | configWrite offset data => exact h.kept (kept_opConfigWrite offset data w)
  | vqSelect vqIdx => exact h.kept (kept_opVqSelect vqIdx w)
  | vqSetup vqIdx size =>
      change Agrees d i _ ((opVqSetup vqIdx size).run w).2
      by_cases hidx : vqIdx.toNat < kMaxQueues
      · rw [opVqSetup_run vqIdx size w hidx]
        exact h.vqSetup size hidx
      · have hi : vqIdx.toNat ≠ i := fun he => hidx (he ▸ i.isLt)
        rw [opVqSetup_run_ge vqIdx size w hidx]
        simpa [clearedAfter, hi] using h
  | setStatus bits =>
      change Agrees d i _ ((opSetStatus bits).run w).2
      by_cases hbits : bits = 0
      · subst hbits
        have hcleared : clearedAfter i w cleared (.setStatus 0) = true := by simp [clearedAfter]
        rw [hcleared]
        exact h.clearStatus
      · have hcleared : clearedAfter i w cleared (.setStatus bits) = cleared := by
          simp [clearedAfter, hbits]
        rw [hcleared]
        exact h.kept (kept_opSetStatus bits hbits w)
  | guestMemWrite bufId data => exact h.kept (kept_opGuestMemWrite bufId data w)
  | vqAddDesc desc =>
      change Agrees d i _ ((opVqAddDesc desc).run w).2
      rw [opVqAddDesc_run]
      exact h.kept (queuesKept_addDesc descTarget desc w)
  | vqKick vqIdx => exact h.kept (kept_opVqKick vqIdx w)
  | vqWaitUsed vqIdx => exact h.kept (kept_opVqWaitUsed vqIdx w)
  | reset => exact fun hsize => absurd rfl hsize
  | memWriteAbsolute gpa data => exact h.kept (kept_opMemwriteAbsolute gpa data w)
  | mmioCorrupt offset value size => exact absurd hop (by simp [corrupts])
  | opNotSet => exact h

private theorem Agrees.dispatchAll (ops : List VirtioOp) (hops : ∀ op ∈ ops, corrupts op = false)
    (h : Agrees d i cleared w) :
    Agrees d i (statusCleared i w cleared ops) (dispatchAll target ops w) := by
  induction ops generalizing w cleared with
  | nil => exact h
  | cons op ops ih =>
      have hfirst := h.dispatch op (hops op (by simp))
      exact ih (fun op' hop' => hops op' (by simp [hop'])) hfirst

/-- In every run of ops that neither corrupt registers nor point a descriptor at them, a queue that
is set up has the harness's size and addresses in the device, and is ready there unless `SetStatus`
cleared the status register since. -/
theorem queue_agrees_unless_cleared (d : Latch) (w : World kMaxQueues Unit) (ops : List VirtioOp)
    (hops : ∀ op ∈ ops, corrupts op = false ∧ exotic op = false) (i : Fin kMaxQueues)
    (hsize : ((runFromReset target ops w).st.vqs i).size ≠ 0) :
    let latched := (d.after (runFromReset target ops w).trace).queues (UInt32.ofNat i)
    latched.Matches ((runFromReset target ops w).st.vqs i) ∧
      (latched.ready = true ↔
        statusCleared i (resetIterationState.run w).2 false ops = false) := by
  have hstart : Agrees d i false (resetIterationState.run w).2 := fun h => absurd rfl h
  obtain ⟨hmatch, hready⟩ := hstart.dispatchAll ops (fun op hop => (hops op hop).1) hsize
  refine ⟨hmatch, ?_⟩
  change ((d.after (runFromReset target ops w).trace).queues (UInt32.ofNat i)).ready = _ at hready
  rw [hready]
  simp

/-- A machine that answers every read with 8, before any event. -/
def eightMachine : World kMaxQueues Unit :=
  ⟨fun _ _ => 8, [], ⟨fun _ => .default, 0, fun _ => none, ()⟩, []⟩

theorem queue_agrees_after_vqSetup :
    let w := runFromReset target [.vqSetup 1 8, .setStatus 4] eightMachine
    let latched := (Latch.after ⟨0, fun _ => ⟨0, 0, 0, 0, 0, 0, 0, false⟩⟩ w.trace).queues 1
    latched.Matches (w.st.vqs 1) ∧ (latched.ready = true ↔
      statusCleared 1 (resetIterationState.run eightMachine).2 false
        [.vqSetup 1 8, .setStatus 4] = false) :=
  queue_agrees_unless_cleared ⟨0, fun _ => ⟨0, 0, 0, 0, 0, 0, 0, false⟩⟩ eightMachine
    [.vqSetup 1 8, .setStatus 4] (by decide) 1 (by decide)

/-- `VqSetup` and then `SetStatus` without bits: the harness goes on with a queue that the device
has reset. -/
theorem queue_not_ready_after_setStatus_zero :
    ¬∀ (d : Latch) (w : World kMaxQueues Unit) (ops : List VirtioOp),
      (∀ op ∈ ops, corrupts op = false ∧ exotic op = false) → ∀ i : Fin kMaxQueues,
        ((runFromReset target ops w).st.vqs i).size ≠ 0 →
          let latched := (d.after (runFromReset target ops w).trace).queues (UInt32.ofNat i)
          latched.ready = true ∧ latched.Matches ((runFromReset target ops w).st.vqs i) := by
  intro h
  have hrun := h ⟨0, fun _ => ⟨0, 0, 0, 0, 0, 0, 0, false⟩⟩ eightMachine
    [.vqSetup 0 8, .setStatus 0] (by decide) 0 (by decide)
  exact absurd hrun.1 (by decide)

end VirtioCrash.Blk
