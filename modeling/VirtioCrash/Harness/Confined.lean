import VirtioCrash.Harness.Program

/-!
# Targets that stay within the steps

A target is confined when `Reset` is `reset_iteration_state`, its other common ops have the effects
of a common op and its typed ops those of a submission. The pool, the queue sizes and the queue
addresses of every confined target then stay as its reset made them.
-/

namespace VirtioCrash

open StateProgram BumpAllocator Relation

variable {n : Nat} {ξ η Op : Type}

/-- All kinds of effects. -/
def allActs : List Act :=
  [.event, .writeBuf, .writeClamped, .place, .setSize, .bump, .bindBuf, .setExt, .submit]

private theorem mem_allActs (a : Act) : a ∈ allActs := by
  cases a <;> decide

/-- The world after `reset_iteration_state`, but for the fields only one harness has. -/
def World.afterReset (w : World n ξ) : World n ξ :=
  ((w.emit (.mmioWrite 4 (kVirtioMmioBase + rStatus) 0)).emit
    (.mmioWrite 4 (kVirtioMmioBase + rStatus) (kStatusAck ||| kStatusDriver))).resetRings

theorem resetCommon_run (w : World n ξ) : (resetCommon.run w) = ((), w.afterReset) := by
  simp [resetCommon, mmioWritel, mmioWrite, emit, World.afterReset]
  rfl

/-- The kinds of effects of an operation other than `Reset`. -/
def CommonOp.acts : CommonOp → List Act
  | .vqSetup _ _ => [.event, .setSize]
  | .guestMemWrite _ _ => [.bump, .writeBuf, .bindBuf]
  | .vqAddDesc _ => [.place]
  | .memWriteAbsolute _ _ => [.writeClamped]
  | _ => [.event]

/-- Handlers with the effects the common operations are meant to have. -/
structure Handlers.Sound (h : Handlers n ξ) : Prop where
  configRead : ∀ offset size, Within (Steps [.event]) (h.configRead offset size)
  guestMemWrite : ∀ bufId data,
    Within (Steps [.bump, .writeBuf, .bindBuf]) (h.guestMemWrite bufId data)
  vqAddDesc : ∀ d, Within (Steps [.place]) (h.vqAddDesc d)
  vqKick : ∀ vqIdx, Within (Steps [.event]) (h.vqKick vqIdx)
  vqWaitUsed : ∀ vqIdx, Within (Steps [.event]) (h.vqWaitUsed vqIdx)
  mmioCorrupt : ∀ offset value size, Within (Steps [.event]) (h.mmioCorrupt offset value size)

theorem dispatchCommon_within {h : Handlers n ξ} (hs : h.Sound) (op : CommonOp)
    (hop : op ≠ .reset) : Within (Steps op.acts) (dispatchCommon h op) := by
  have hev : Act.event ∈ [Act.event] := List.mem_singleton_self _
  cases op with
  | getFeatures => exact within_opGetFeatures hev
  | setFeatures features => exact within_opSetFeatures hev features
  | configRead offset size => exact hs.configRead offset size
  | configWrite offset data => exact within_opConfigWrite hev offset data
  | vqSelect vqIdx => exact within_opVqSelect hev vqIdx
  | vqSetup vqIdx size =>
      exact within_opVqSetup (by simp [CommonOp.acts]) (by simp [CommonOp.acts]) vqIdx size
  | setStatus bits => exact within_opSetStatus hev bits
  | guestMemWrite bufId data => exact hs.guestMemWrite bufId data
  | vqAddDesc d => exact hs.vqAddDesc d
  | vqKick vqIdx => exact hs.vqKick vqIdx
  | vqWaitUsed vqIdx => exact hs.vqWaitUsed vqIdx
  | reset => exact absurd rfl hop
  | memWriteAbsolute gpa data => exact within_opMemwriteAbsolute (by simp [CommonOp.acts]) gpa data
  | mmioCorrupt offset value size => exact hs.mmioCorrupt offset value size
  | opNotSet => exact Within.pure ()

/-- The kinds of effects of the ops that only one harness has. -/
def typedActs : List Act := [.event, .writeBuf, .place, .bump, .bindBuf, .setExt, .submit]

theorem within_typedBuf (bytes : List UInt8) (len : UInt32) :
    Within (Steps typedActs) (allocBuf bytes len : Harness n (Synth η) UInt32) :=
  within_allocBuf (by decide) (by decide) (by decide) (by decide) bytes len

theorem submits_afterReq (i : Fin n) (resp : List UInt8) (respLen reqId : UInt32) :
    Submits typedActs i
      (if reqId = 0 then pure () else
        allocBuf resp respLen >>= fun respId => if respId = 0 then pure () else
          placeBuf i reqId false true >>= fun _ =>
            placeBuf i respId true false >>= fun _ => notify i : Harness n (Synth η) Unit) := by
  refine WithinFrom.ite (Within.pure _).from ?_
  apply Submits.bind (within_typedBuf _ _).from
  intro respId
  refine WithinFrom.ite (Within.pure _).from ?_
  apply Submits.bind (submits_placeBuf (by decide) _ _ _ _)
  intro _
  apply Submits.bind (submits_placeBuf (by decide) _ _ _ _)
  intro _
  exact (within_notify (by decide) _).from

theorem submits_reqResp (i : Fin n) (req resp : List UInt8) (reqLen respLen : UInt32) :
    Submits typedActs i
      (allocBuf req reqLen >>= fun reqId => if reqId = 0 then pure () else
        allocBuf resp respLen >>= fun respId => if respId = 0 then pure () else
          placeBuf i reqId false true >>= fun _ =>
            placeBuf i respId true false >>= fun _ => notify i : Harness n (Synth η) Unit) :=
  Submits.bind (within_typedBuf _ _).from (submits_afterReq i resp respLen)

theorem submits_lone (i : Fin n) (bytes : List UInt8) (len : UInt32) (deviceWritable : Bool) :
    Submits typedActs i
      (allocBuf bytes len >>= fun id => if id = 0 then pure () else
        placeBuf i id deviceWritable false >>= fun _ => notify i : Harness n (Synth η) Unit) := by
  apply Submits.bind (within_typedBuf _ _).from
  intro id
  refine WithinFrom.ite (Within.pure _).from ?_
  apply Submits.bind (submits_placeBuf (by decide) _ _ _ _)
  intro _
  exact (within_notify (by decide) _).from

/-- A target whose ops have the effects they are meant to have; `asCommon` picks the common ones. -/
structure Target.Confined (t : Target n ξ Op) (asCommon : Op → Option CommonOp) : Prop where
  reset : ∀ w, ∃ f, (t.resetIterationState.run w).2 = (w.afterReset).setExt f
  dispatch_reset : ∀ op, asCommon op = some .reset → t.dispatch op = t.resetIterationState
  dispatch_vqSetup : ∀ op vqIdx size, asCommon op = some (.vqSetup vqIdx size) →
    t.dispatch op = opVqSetup vqIdx size
  dispatch_common : ∀ op c, asCommon op = some c → c ≠ .reset →
    Within (Steps c.acts) (t.dispatch op)
  dispatch_typed : ∀ op, asCommon op = none → Within (Steps typedActs) (t.dispatch op)

/-- It is enough that the target hands its common ops to sound handlers. -/
theorem Target.confined_of_handlers {t : Target n ξ Op} {asCommon : Op → Option CommonOp}
    {h : Handlers n ξ} (hs : h.Sound)
    (hreset : ∀ w, ∃ f, (t.resetIterationState.run w).2 = (w.afterReset).setExt f)
    (hhandler : h.resetIterationState = t.resetIterationState)
    (hcommon : ∀ op c, asCommon op = some c → t.dispatch op = dispatchCommon h c)
    (htyped : ∀ op, asCommon op = none → Within (Steps typedActs) (t.dispatch op)) :
    t.Confined asCommon where
  reset := hreset
  dispatch_reset op hop := (hcommon op .reset hop).trans hhandler
  dispatch_vqSetup op vqIdx size hop := hcommon op (.vqSetup vqIdx size) hop
  dispatch_common op c hop hne := by
    rw [hcommon op c hop]
    exact dispatchCommon_within hs c hne
  dispatch_typed := htyped

private theorem poolBase_facts {n : Nat} (hn : n ≤ 16) :
    (kBufPoolBase n).toNat ≤ kBufPoolEndNat ∧ 16 ∣ (kBufPoolBase n).toNat := by
  rw [kBufPoolBase_toNat hn, kBufPoolEndNat]
  omega

theorem poolInv_afterReset (hn : n ≤ 16) (w : World n ξ) (f : ξ → ξ) :
    PoolInv (kBufPoolBase n).toNat (w.afterReset.setExt f) := by
  obtain ⟨hle, hdvd⟩ := poolBase_facts hn
  have hsince : sinceReset (w.afterReset.setExt f).hist = [] := sinceReset_reset w.hist
  constructor
  · rw [hsince]
    exact Packed.empty hle hdvd
  · intro id b hb
    cases hb

private theorem poolMid_facts {n : Nat} (hn : n ≤ 16) :
    (kBufPoolBase n).toNat ≤ (kBufPoolMid n).toNat ∧ (kBufPoolMid n).toNat ≤ kBufPoolEndNat ∧
      16 ∣ (kBufPoolMid n).toNat := by
  interval_cases n <;> decide

theorem poolInv_threadB (hn : n ≤ 16) (t : Target n ξ Op) (dev : Device) (trace : List Event) :
    PoolInv (kBufPoolBase n).toNat ⟨dev, trace, threadBState t, []⟩ := by
  obtain ⟨hbase, hle, hdvd⟩ := poolMid_facts hn
  constructor
  · exact Packed.unused hbase hle hdvd
  · intro id b hb
    cases hb

theorem sizesPow2_afterReset (w : World n ξ) (f : ξ → ξ) :
    SizesPow2 (w.afterReset.setExt f) :=
  fun _ => Or.inl rfl

theorem addressesReset_afterReset (w : World n ξ) (f : ξ → ξ) :
    AddressesReset (w.afterReset.setExt f) :=
  fun _ => rfl

namespace Target.Confined

variable {t : Target n ξ Op} {asCommon : Op → Option CommonOp}

theorem dispatch_step (ht : t.Confined asCommon) (op : Op) (hop : asCommon op ≠ some .reset) :
    Within (Steps allActs) (t.dispatch op) := by
  have hall {A : List Act} (w w' : World n ξ) (hs : Steps A w w') : Steps allActs w w' :=
    hs.mono fun a _ => mem_allActs a
  rcases hc : asCommon op with _ | c
  · exact (ht.dispatch_typed op hc).weaken hall
  · have hne : c ≠ .reset := fun he => hop (hc.trans (congrArg some he))
    exact (ht.dispatch_common op c hc hne).weaken hall

theorem reset_keeps (ht : t.Confined asCommon) {inv : World n ξ → Prop}
    (hreset : ∀ (w : World n ξ) f, inv (w.afterReset.setExt f)) (w : World n ξ) :
    inv (t.resetIterationState.run w).2 := by
  obtain ⟨f, hf⟩ := ht.reset w
  rw [hf]
  exact hreset w f

/-- An invariant of the steps that every reset establishes is kept by every op. -/
theorem dispatch_keeps (ht : t.Confined asCommon) {inv : World n ξ → Prop}
    (hreset : ∀ (w : World n ξ) f, inv (w.afterReset.setExt f))
    (hstep : ∀ a w w', Step a w w' → inv w → inv w') (op : Op) (w : World n ξ) (hw : inv w) :
    inv ((t.dispatch op).run w).2 := by
  by_cases hop : asCommon op = some .reset
  · rw [ht.dispatch_reset op hop]
    exact ht.reset_keeps hreset w
  · exact (ht.dispatch_step op hop w).invariant inv (fun a _ => hstep a) hw

private theorem run_invariant (ht : t.Confined asCommon) {inv : World n ξ → Prop}
    (hreset : ∀ (w : World n ξ) f, inv (w.afterReset.setExt f))
    (hstep : ∀ a w w', Step a w w' → inv w → inv w') (ops : List Op) (w : World n ξ) :
    inv (runFromReset t ops w) :=
  runFromReset_invariant (ht.reset_keeps hreset) (ht.dispatch_keeps hreset hstep) ops w

theorem poolInv (ht : t.Confined asCommon) (hn : n ≤ 16) (ops : List Op) (w : World n ξ) :
    PoolInv (kBufPoolBase n).toNat (runFromReset t ops w) :=
  ht.run_invariant (poolInv_afterReset hn) (fun _ _ _ hs hw => hw.step hs) ops w

/-- The pools of both threads, in every interleaving. -/
theorem poolInv_conc (ht : t.Confined asCommon) (hn : n ≤ 16) {prog : Program Op} {dev : Device}
    {st : State n ξ} {turns : List Turn} {c : Conc n ξ Op}
    (hrun : runConc t prog dev st turns = some c) :
    PoolInv (kBufPoolBase n).toNat c.worldA ∧ PoolInv (kBufPoolBase n).toNat c.worldB := by
  apply runConc_threads (PoolInv (kBufPoolBase n).toNat) _ _ _ (poolInv_threadB hn t) hrun
  · exact fun _ _ _ hw => ⟨hw.packed, hw.bufs⟩
  · exact ht.dispatch_keeps (poolInv_afterReset hn) fun _ _ _ hs hw => hw.step hs
  · exact ht.reset_keeps (poolInv_afterReset hn)

theorem sizesPow2 (ht : t.Confined asCommon) (ops : List Op) (w : World n ξ) :
    SizesPow2 (runFromReset t ops w) :=
  ht.run_invariant sizesPow2_afterReset (fun _ _ _ hs hw => hw.step hs) ops w

theorem addressesReset (ht : t.Confined asCommon) (ops : List Op) (w : World n ξ) :
    AddressesReset (runFromReset t ops w) :=
  ht.run_invariant addressesReset_afterReset
    (fun _ _ _ hs hw i => (hs.vqAddresses_eq i).trans (hw i)) ops w

end Target.Confined

end VirtioCrash
