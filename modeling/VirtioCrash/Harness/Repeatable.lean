import VirtioCrash.Harness.Confined
import VirtioCrash.Harness.Request
import VirtioCrash.Lib.TwoRuns

/-!
# Repeatable functions

Two worlds are twins when their harness states are equal and their machines, whatever happened to
them before, answer alike from now on. A harness function is repeatable when twins stay twins and it
returns the same in both: its effects depend on the state and on the answers, and on nothing that an
earlier iteration left elsewhere.
-/

namespace VirtioCrash

open StateProgram Bytes

variable {n : Nat} {ξ η α β : Type}

/-- The machines answer alike, each after the events of its own past. -/
structure SameAnswers (old old' : List Event) (w w' : World n ξ) : Prop where
  events : ∃ es, w.trace = es ++ old ∧ w'.trace = es ++ old'
  answers : ∀ es q, w.dev (es ++ old) q = w'.dev (es ++ old') q

structure Twin (old old' : List Event) (w w' : World n ξ) : Prop
    extends SameAnswers old old' w w' where
  st : w.st = w'.st

def Repeatable (m : Harness n ξ α) : Prop := ∀ old old', Coupled (Twin old old') m m

namespace Repeatable

theorem pure (a : α) : Repeatable (Pure.pure a : Harness n ξ α) :=
  fun _ _ => Coupled.pure a

theorem bind {m : Harness n ξ α} {f : α → Harness n ξ β} (hm : Repeatable m)
    (hf : ∀ a, Repeatable (f a)) : Repeatable (m >>= f) :=
  fun old old' => (hm old old').bind fun a => hf a old old'

theorem ite {c : Prop} [Decidable c] {m p : Harness n ξ α} (hm : Repeatable m)
    (hp : Repeatable p) : Repeatable (if c then m else p) :=
  fun old old' => (hm old old').ite (hp old old')

theorem dite {c : Prop} [Decidable c] {m : c → Harness n ξ α} {p : ¬c → Harness n ξ α}
    (hm : ∀ h, Repeatable (m h)) (hp : ∀ h, Repeatable (p h)) :
    Repeatable (if h : c then m h else p h) :=
  fun old old' => Coupled.dite (fun h => hm h old old') fun h => hp h old old'

private theorem forM {f : α → Harness n ξ PUnit} (xs : List α) (hf : ∀ a, Repeatable (f a)) :
    Repeatable (xs.forM f) :=
  fun old old' => Coupled.forM xs fun a => hf a old old'

theorem ask (q : Query) {f : UInt32 → Harness n ξ α} (hf : ∀ v, Repeatable (f v)) :
    Repeatable (get >>= fun w => f (w.dev w.trace q)) := by
  intro old old' w w' h
  obtain ⟨es, htrace, htrace'⟩ := h.events
  have hanswer : w.dev w.trace q = w'.dev w'.trace q := by
    rw [htrace, htrace']
    exact h.answers es q
  have hrest := hf (w.dev w.trace q) old old' w w' h
  change ((f (w.dev w.trace q)).run w).1 = ((f (w'.dev w'.trace q)).run w').1 ∧
    Twin old old' ((f (w.dev w.trace q)).run w).2 ((f (w'.dev w'.trace q)).run w').2
  rw [← hanswer]
  exact hrest

end Repeatable

theorem repeatable_getState : Repeatable (getState : Harness n ξ (State n ξ)) :=
  fun _ _ _ _ h => ⟨h.st, h⟩

theorem repeatable_emit (e : Event) : Repeatable (emit e : Harness n ξ Unit) := by
  intro old old'
  apply Coupled.modify
  intro w w' h
  obtain ⟨es, htrace, htrace'⟩ := h.events
  exact ⟨⟨⟨e :: es, congrArg (e :: ·) htrace, congrArg (e :: ·) htrace'⟩, h.answers⟩, h.st⟩

theorem repeatable_note (m : Mark) : Repeatable (note m : Harness n ξ Unit) :=
  fun _ _ => Coupled.modify fun _ _ h => ⟨⟨h.events, h.answers⟩, h.st⟩

private theorem repeatable_update {f : World n ξ → World n ξ} (g : State n ξ → State n ξ)
    (hf : ∀ w, (f w).dev = w.dev ∧ (f w).trace = w.trace ∧ (f w).st = g w.st) :
    Repeatable (modify f : Harness n ξ Unit) := by
  intro old old'
  apply Coupled.modify
  intro w w' h
  obtain ⟨hdev, htrace, hst⟩ := hf w
  obtain ⟨hdev', htrace', hst'⟩ := hf w'
  constructor
  · constructor
    · rw [htrace, htrace']
      exact h.events
    · rw [hdev, hdev']
      exact h.answers
  · rw [hst, hst', h.st]

private theorem repeatable_modifyVq (i : Fin n) (f : VqState → VqState) :
    Repeatable (modifyVq i f : Harness n ξ Unit) :=
  repeatable_update (fun s => { s with vqs := Function.update s.vqs i (f (s.vqs i)) })
    fun _ => ⟨rfl, rfl, rfl⟩

theorem repeatable_modifyExt (f : ξ → ξ) : Repeatable (modifyExt f : Harness n ξ Unit) :=
  repeatable_update (fun s => { s with ext := f s.ext }) fun _ => ⟨rfl, rfl, rfl⟩

private theorem repeatable_bump (len : UInt32) : Repeatable (bump len : Harness n ξ Unit) :=
  repeatable_update (fun s => { s with bufAlloc := bumpNext s.bufAlloc len })
    fun _ => ⟨rfl, rfl, rfl⟩

theorem repeatable_bindBuf (id : UInt32) (b : Buf) : Repeatable (bindBuf id b : Harness n ξ Unit) :=
  repeatable_update (fun s => { s with bufs := Function.update s.bufs id (some b) })
    fun _ => ⟨rfl, rfl, rfl⟩

private theorem repeatable_mmioRead (width : Nat) (off : UInt64) :
    Repeatable (mmioRead width off : Harness n ξ UInt32) :=
  Repeatable.ask (.mmio width (kVirtioMmioBase + off))
    (f := fun v => emit (.mmioRead width (kVirtioMmioBase + off) v) >>= fun _ => pure v)
    fun _ => (repeatable_emit _).bind fun _ => .pure _

private theorem repeatable_mmioReadl (off : UInt64) :
    Repeatable (mmioReadl off : Harness n ξ UInt32) :=
  repeatable_mmioRead 4 off

theorem repeatable_mmioWritel (off : UInt64) (v : UInt32) :
    Repeatable (mmioWritel off v : Harness n ξ Unit) :=
  repeatable_emit _

theorem repeatable_flushEvents : Repeatable (flushEvents : Harness n ξ Unit) :=
  repeatable_emit _

theorem repeatable_allocGpa (len : UInt32) : Repeatable (allocGpa len : Harness n ξ UInt64) := by
  apply repeatable_getState.bind
  intro s
  apply Repeatable.ite (.pure _)
  apply (repeatable_bump len).bind
  intro _
  exact .pure _

theorem repeatable_opGuestMemWrite (bufId : UInt32) (data : List UInt8) :
    Repeatable (opGuestMemWrite bufId data : Harness n ξ Unit) := by
  apply repeatable_getState.bind
  intro s
  apply Repeatable.ite (.pure _)
  apply (repeatable_bump _).bind
  intro _
  apply Repeatable.ite
  · exact (repeatable_emit _).bind fun _ => repeatable_bindBuf _ _
  · exact repeatable_bindBuf _ _

theorem repeatable_allocBuf (bytes : List UInt8) (len : UInt32) :
    Repeatable (allocBuf bytes len : Harness n (Synth η) UInt32) := by
  have hmint (id : UInt32) (b : Buf) : Repeatable (do
      modifyExt fun e => { e with synthBufId := e.synthBufId + 1 }
      bindBuf id b
      return id : Harness n (Synth η) UInt32) :=
    (repeatable_modifyExt _).bind fun _ => (repeatable_bindBuf _ _).bind fun _ => .pure _
  apply repeatable_getState.bind
  intro s
  apply Repeatable.ite (.pure _)
  apply (repeatable_bump len).bind
  intro _
  apply Repeatable.ite
  · exact (repeatable_emit _).bind fun _ => hmint _ _
  · exact hmint _ _

theorem repeatable_placeDesc (i : Fin n) (addr : UInt64) (len : UInt32)
    (deviceWritable chainNext : Bool) :
    Repeatable (placeDesc i addr len deviceWritable chainNext : Harness n ξ UInt32) := by
  intro old old' w w' h
  obtain ⟨es, htrace, htrace'⟩ := h.events
  rw [placeDesc_run, placeDesc_run, h.st]
  refine ⟨rfl, ⟨⟨(w'.st.vqs i).placeEvents addr len deviceWritable chainNext ++ es, ?_, ?_⟩,
    h.answers⟩, ?_⟩
  · rw [World.place, h.st, htrace, List.append_assoc]
  · rw [World.place, htrace', List.append_assoc]
  · rw [World.place, World.place, h.st]

theorem repeatable_placeBuf (i : Fin n) (id : UInt32) (deviceWritable chainNext : Bool) :
    Repeatable (placeBuf i id deviceWritable chainNext : Harness n ξ UInt32) :=
  repeatable_getState.bind fun _ => repeatable_placeDesc i _ _ _ _

theorem repeatable_notify (i : Fin n) : Repeatable (notify i : Harness n ξ Unit) :=
  (repeatable_mmioWritel _ _).bind fun _ => repeatable_flushEvents

theorem repeatable_addDescWith (target : TargetRule) (d : VqAddDesc) :
    Repeatable (addDescWith target d : Harness n ξ Unit) := by
  apply Repeatable.dite
  · intro hi
    apply repeatable_getState.bind
    intro s
    apply Repeatable.ite (.pure _)
    cases target s.bufs d.bufId d.len d.exoticRegion with
    | none => exact .pure _
    | some t => exact (repeatable_placeDesc _ _ _ _ _).bind fun _ => .pure _
  · intro _
    exact .pure _

private theorem repeatable_opVqSetup (vqIdx requestedSize : UInt32) :
    Repeatable (opVqSetup vqIdx requestedSize : Harness n ξ Unit) := by
  apply Repeatable.dite
  · intro hi
    apply (repeatable_mmioWritel _ _).bind
    intro _
    apply (repeatable_mmioReadl _).bind
    intro max
    apply Repeatable.ite (.pure _)
    apply (repeatable_modifyVq _ _).bind
    intro _
    apply repeatable_getState.bind
    intro s
    apply (repeatable_mmioWritel _ _).bind
    intro _
    apply (repeatable_mmioWritel _ _).bind
    intro _
    apply (repeatable_mmioWritel _ _).bind
    intro _
    apply (repeatable_mmioWritel _ _).bind
    intro _
    apply (repeatable_mmioWritel _ _).bind
    intro _
    apply (repeatable_mmioWritel _ _).bind
    intro _
    apply (repeatable_mmioWritel _ _).bind
    intro _
    exact repeatable_mmioWritel _ _
  · intro _
    exact .pure _

private theorem repeatable_opGetFeatures : Repeatable (opGetFeatures : Harness n ξ Unit) := by
  apply (repeatable_mmioWritel _ _).bind
  intro _
  apply (repeatable_mmioReadl _).bind
  intro _
  apply (repeatable_mmioWritel _ _).bind
  intro _
  exact (repeatable_mmioReadl _).bind fun _ => .pure _

private theorem repeatable_opSetFeatures (f : UInt64) :
    Repeatable (opSetFeatures f : Harness n ξ Unit) := by
  apply (repeatable_mmioWritel _ _).bind
  intro _
  apply (repeatable_mmioWritel _ _).bind
  intro _
  apply (repeatable_mmioWritel _ _).bind
  intro _
  apply (repeatable_mmioWritel _ _).bind
  intro _
  exact (repeatable_mmioReadl _).bind fun _ => repeatable_mmioWritel _ _

theorem repeatable_opConfigReadSized (offset size : UInt32) :
    Repeatable (opConfigReadSized offset size : Harness n ξ Unit) := by
  apply Repeatable.ite
  · exact (repeatable_mmioReadl _).bind fun _ => .pure _
  apply Repeatable.ite
  · exact (repeatable_mmioRead _ _).bind fun _ => .pure _
  · exact (repeatable_mmioRead _ _).bind fun _ => .pure _

theorem repeatable_opConfigReadWord (offset size : UInt32) :
    Repeatable (opConfigReadWord offset size : Harness n ξ Unit) :=
  (repeatable_mmioReadl _).bind fun _ => .pure _

private theorem repeatable_opConfigWrite (offset : UInt32) (data : List UInt8) :
    Repeatable (opConfigWrite offset data : Harness n ξ Unit) :=
  .forM _ fun _ => repeatable_mmioWritel _ _

private theorem repeatable_opSetStatus (bits : UInt32) :
    Repeatable (opSetStatus bits : Harness n ξ Unit) :=
  .ite (repeatable_mmioWritel _ _)
    ((repeatable_mmioReadl _).bind fun _ => repeatable_mmioWritel _ _)

theorem repeatable_opVqKick (vqIdx : UInt32) : Repeatable (opVqKick vqIdx : Harness n ξ Unit) :=
  (repeatable_mmioWritel _ _).bind fun _ => repeatable_flushEvents

theorem repeatable_ackInterrupt :
    Repeatable (mmioReadl rIntStatus >>= fun st =>
      if st ≠ 0 then mmioWritel rIntAck st else pure () : Harness n ξ Unit) :=
  (repeatable_mmioReadl _).bind fun _ => .ite (repeatable_mmioWritel _ _) (.pure _)

theorem repeatable_opVqWaitUsed (vqIdx : UInt32) :
    Repeatable (opVqWaitUsed vqIdx : Harness n ξ Unit) :=
  repeatable_flushEvents.bind fun _ => repeatable_ackInterrupt

theorem repeatable_opMmioCorrupt (offset value size : UInt32) :
    Repeatable (opMmioCorrupt offset value size : Harness n ξ Unit) :=
  .ite (repeatable_emit _) (.ite (repeatable_emit _) (repeatable_emit _))

private theorem repeatable_opMemwriteAbsolute (gpa : UInt64) (data : List UInt8) :
    Repeatable (opMemwriteAbsolute gpa data : Harness n ξ Unit) := by
  apply Repeatable.ite (.pure _)
  dsimp only
  cases clampGpa n gpa (UInt32.ofNat (min data.length 4096)) with
  | none => exact .pure _
  | some a => exact repeatable_emit _

/-- Handlers that are repeatable. -/
structure Handlers.Repeatable (h : Handlers n ξ) : Prop where
  configRead : ∀ offset size, VirtioCrash.Repeatable (h.configRead offset size)
  guestMemWrite : ∀ bufId data, VirtioCrash.Repeatable (h.guestMemWrite bufId data)
  vqAddDesc : ∀ d, VirtioCrash.Repeatable (h.vqAddDesc d)
  vqKick : ∀ vqIdx, VirtioCrash.Repeatable (h.vqKick vqIdx)
  vqWaitUsed : ∀ vqIdx, VirtioCrash.Repeatable (h.vqWaitUsed vqIdx)
  reset : VirtioCrash.Repeatable h.resetIterationState
  mmioCorrupt : ∀ offset value size, VirtioCrash.Repeatable (h.mmioCorrupt offset value size)

theorem repeatable_dispatchCommon {h : Handlers n ξ} (hh : h.Repeatable) (op : CommonOp) :
    Repeatable (dispatchCommon h op) := by
  cases op with
  | getFeatures => exact repeatable_opGetFeatures
  | setFeatures features => exact repeatable_opSetFeatures features
  | configRead offset size => exact hh.configRead offset size
  | configWrite offset data => exact repeatable_opConfigWrite offset data
  | vqSelect vqIdx => exact repeatable_mmioWritel _ _
  | vqSetup vqIdx size => exact repeatable_opVqSetup vqIdx size
  | setStatus bits => exact repeatable_opSetStatus bits
  | guestMemWrite bufId data => exact hh.guestMemWrite bufId data
  | vqAddDesc d => exact hh.vqAddDesc d
  | vqKick vqIdx => exact hh.vqKick vqIdx
  | vqWaitUsed vqIdx => exact hh.vqWaitUsed vqIdx
  | reset => exact hh.reset
  | memWriteAbsolute gpa data => exact repeatable_opMemwriteAbsolute gpa data
  | mmioCorrupt offset value size => exact hh.mmioCorrupt offset value size
  | opNotSet => exact .pure _

/-- `reset_iteration_state` makes twins of any two worlds whose machines answer alike. -/
theorem SameAnswers.afterReset {old old' : List Event} {w w' : World n ξ}
    (h : SameAnswers old old' w w') (x : ξ) :
    Twin old old' (w.afterReset.setExt fun _ => x) (w'.afterReset.setExt fun _ => x) := by
  obtain ⟨es, htrace, htrace'⟩ := h.events
  constructor
  · constructor
    · refine ⟨.mmioWrite 4 (kVirtioMmioBase + rStatus) (kStatusAck ||| kStatusDriver) ::
        .mmioWrite 4 (kVirtioMmioBase + rStatus) 0 :: es, ?_, ?_⟩
      · rw [List.cons_append, List.cons_append, ← htrace]
        rfl
      · rw [List.cons_append, List.cons_append, ← htrace']
        rfl
    · exact h.answers
  · rfl

theorem repeatable_reset {m : Harness n ξ Unit} {x : ξ}
    (hm : ∀ w, m.run w = ((), w.afterReset.setExt fun _ => x)) : Repeatable m := by
  intro old old' w w' h
  rw [hm, hm]
  exact ⟨rfl, h.toSameAnswers.afterReset x⟩

variable {Op : Type}

/-- An iteration in sequential mode. -/
def runSequential (t : Target n ξ Op) (prog : Program Op) (w : World n ξ) : World n ξ :=
  runFromReset t (prog.ops.take kMaxOps) w

theorem dispatchAll_twin {t : Target n ξ Op} (ht : ∀ op, Repeatable (t.dispatch op))
    {old old' : List Event} (ops : List Op) {w w' : World n ξ} (h : Twin old old' w w') :
    Twin old old' (dispatchAll t ops w) (dispatchAll t ops w') := by
  induction ops generalizing w w' with
  | nil => exact h
  | cons op ops ih => exact ih (ht op old old' w w' h).2

/-- What an iteration does, and the state it leaves, when its ops are repeatable and its reset puts
one value into every field. -/
theorem runSequential_eq {t : Target n ξ Op} {x : ξ} (ht : ∀ op, Repeatable (t.dispatch op))
    (hreset : ∀ w, t.resetIterationState.run w = ((), w.afterReset.setExt fun _ => x))
    (prog : Program Op) {w w' : World n ξ}
    (hsame : ∀ es q, w.dev (es ++ w.trace) q = w'.dev (es ++ w'.trace) q) :
    newest (runSequential t prog w).trace w.trace =
        newest (runSequential t prog w').trace w'.trace ∧
      (runSequential t prog w).st = (runSequential t prog w').st := by
  have hstart : SameAnswers w.trace w'.trace w w' := ⟨⟨[], rfl, rfl⟩, hsame⟩
  have hend : Twin w.trace w'.trace (runSequential t prog w) (runSequential t prog w') := by
    rw [runSequential, runSequential, runFromReset, runFromReset, hreset, hreset]
    exact dispatchAll_twin ht _ (hstart.afterReset x)
  obtain ⟨es, htrace, htrace'⟩ := hend.events
  rw [htrace, htrace', newest_append, newest_append]
  exact ⟨rfl, hend.st⟩

end VirtioCrash
