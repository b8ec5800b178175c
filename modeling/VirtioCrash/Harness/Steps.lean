import VirtioCrash.Harness.Common

/-!
# Steps of a harness

What a harness function can do to the world between two resets, as a relation with one label per
kind of effect. `Steps A` allows the kinds in `A` only; each function is shown once to stay within
the steps it needs, and every invariant is proved from the steps alone.
-/

namespace VirtioCrash

open StateProgram

variable {n : Nat} {ξ η : Type}

def Event.isMemWrite : Event → Bool
  | .memWrite _ _ => true
  | _ => false

/-- The history since the last reset, newest first. -/
def sinceReset (hist : List Mark) : List Mark := hist.takeWhile fun m => decide (m ≠ .reset)

@[simp] theorem sinceReset_reset (hist : List Mark) : sinceReset (.reset :: hist) = [] := by
  simp [sinceReset]

theorem sinceReset_cons {m : Mark} (hist : List Mark) (hm : m ≠ .reset) :
    sinceReset (m :: hist) = m :: sinceReset hist := by
  simp [sinceReset, hm]

theorem sinceReset_eq_self {hist : List Mark} (h : Mark.reset ∉ hist) : sinceReset hist = hist := by
  induction hist with
  | nil => rfl
  | cons m hist ih =>
      have hm : m ≠ .reset := fun he => h (by simp [he])
      rw [sinceReset_cons hist hm, ih fun hr => h (by simp [hr])]

/-- The kinds of effects. -/
inductive Act where
  | event
  | writeBuf
  | writeClamped
  | place
  | setSize
  | bump
  | bindBuf
  | setExt
  | submit
  deriving DecidableEq

/-- One effect of a harness function that is not a reset. -/
inductive Step : Act → World n ξ → World n ξ → Prop
  | event (e : Event) (w : World n ξ) (he : e.isMemWrite = false) : Step .event w (w.emit e)
  | writeBuf (gpa : UInt64) (len off : UInt32) (data : List UInt8) (w : World n ξ)
      (halloc : .alloc gpa len ∈ sinceReset w.hist) (hfit : off.toNat + data.length ≤ len.toNat) :
      Step .writeBuf w (w.emit (.memWrite (gpa + off.toUInt64) data))
  | writeClamped (gpa a : UInt64) (data : List UInt8) (w : World n ξ) (hlen : data.length ≤ 4096)
      (ha : clampGpa n gpa (UInt32.ofNat data.length) = some a) :
      Step .writeClamped w (w.emit (.memWrite a data))
  | place (i : Fin n) (addr : UInt64) (len : UInt32) (deviceWritable chainNext : Bool)
      (w : World n ξ) (hsize : (w.st.vqs i).size ≠ 0) :
      Step .place w (w.place i addr len deviceWritable chainNext)
  | setSize (i : Fin n) (requestedSize max : UInt32) (w : World n ξ) (hmax : max ≠ 0) :
      Step .setSize w (w.setVq i { w.st.vqs i with size := vqSize requestedSize max })
  | bump (len : UInt32) (w : World n ξ) (hfit : ¬PoolFull w.st.bufAlloc len) :
      Step .bump w (w.bump len)
  | bindBuf (id : UInt32) (b : Buf) (w : World n ξ)
      (halloc : .alloc b.gpa b.len ∈ sinceReset w.hist) : Step .bindBuf w (w.bindBuf id b)
  | setExt (f : ξ → ξ) (w : World n ξ) : Step .setExt w (w.setExt f)
  | submit (vqIdx : Nat) (req : List UInt8) (w : World n ξ) :
      Step .submit w (w.note (.submit vqIdx req))

/-- Any number of effects of the kinds in `A`. -/
def Steps (A : List Act) : World n ξ → World n ξ → Prop :=
  Relation.ReflTransGen fun w w' => ∃ a ∈ A, Step a w w'

instance (A : List Act) : IsPreorder (World n ξ) (Steps A) :=
  inferInstanceAs (IsPreorder _ (Relation.ReflTransGen _))

theorem Steps.single {A : List Act} {a : Act} {w w' : World n ξ} (ha : a ∈ A) (h : Step a w w') :
    Steps A w w' :=
  Relation.ReflTransGen.single ⟨a, ha, h⟩

theorem Steps.mono {A A' : List Act} (hA : ∀ a ∈ A, a ∈ A') {w w' : World n ξ}
    (h : Steps A w w') : Steps A' w w' := by
  induction h with
  | refl => exact Relation.ReflTransGen.refl
  | tail _ hlast ih =>
      obtain ⟨a, ha, hs⟩ := hlast
      exact ih.tail ⟨a, hA a ha, hs⟩

/-- What each allowed effect preserves, all of them together preserve. -/
theorem Steps.invariant {A : List Act} (inv : World n ξ → Prop)
    (hstep : ∀ a ∈ A, ∀ w w', Step a w w' → inv w → inv w') {w w' : World n ξ}
    (h : Steps A w w') (hw : inv w) : inv w' := by
  induction h with
  | refl => exact hw
  | tail _ hlast ih =>
      obtain ⟨a, ha, hs⟩ := hlast
      exact hstep a ha _ _ hs ih

theorem Step.hist_eq {a : Act} {w w' : World n ξ} (h : Step a w w') :
    ∃ ms : List Mark, w'.hist = ms ++ w.hist ∧ Mark.reset ∉ ms := by
  cases h with
  | event e w he => exact ⟨[], rfl, by simp⟩
  | writeBuf gpa len off data w halloc hfit => exact ⟨[], rfl, by simp⟩
  | writeClamped gpa a data w hlen ha => exact ⟨[], rfl, by simp⟩
  | place i addr len deviceWritable chainNext w hsize =>
      refine ⟨_, rfl, ?_⟩
      simp [VqState.placeMarks, hsize]
  | setSize i requestedSize max w hmax => exact ⟨[], rfl, by simp⟩
  | bump len w hfit => exact ⟨[.alloc w.st.bufAlloc len], rfl, by simp⟩
  | bindBuf id b w halloc => exact ⟨[], rfl, by simp⟩
  | setExt f w => exact ⟨[], rfl, by simp⟩
  | submit vqIdx req w => exact ⟨[.submit vqIdx req], rfl, by simp⟩

theorem sinceReset_append {ms : List Mark} (hms : Mark.reset ∉ ms) (hist : List Mark) :
    sinceReset (ms ++ hist) = ms ++ sinceReset hist := by
  induction ms with
  | nil => rfl
  | cons m ms ih =>
      have hm : m ≠ .reset := fun he => hms (by simp [he])
      have hms' : Mark.reset ∉ ms := fun h => hms (by simp [h])
      rw [List.cons_append, sinceReset_cons _ hm, ih hms', List.cons_append]

theorem Steps.mem_sinceReset {A : List Act} {w w' : World n ξ} (h : Steps A w w') {m : Mark}
    (hm : m ∈ sinceReset w.hist) : m ∈ sinceReset w'.hist := by
  refine h.invariant (fun w => m ∈ sinceReset w.hist) ?_ hm
  intro a _ w w' hs hw
  obtain ⟨ms, hms, hno⟩ := hs.hist_eq
  rw [hms, sinceReset_append hno]
  exact List.mem_append_right ms hw

theorem Steps.no_reset {A : List Act} {w w' : World n ξ} (h : Steps A w w')
    (hw : Mark.reset ∉ w.hist) : Mark.reset ∉ w'.hist := by
  apply h.invariant (fun v => Mark.reset ∉ v.hist)
  · intro a _ v v' hs hv
    obtain ⟨ms, hms, hno⟩ := hs.hist_eq
    rw [hms, List.mem_append]
    exact not_or.mpr ⟨hno, hv⟩
  · exact hw

/-- A queue is left alone, gets a descriptor, or is set up; only the last two kinds touch it. -/
theorem Step.vq_cases {a : Act} {w w' : World n ξ} (hs : Step a w w') (j : Fin n) :
    w'.st.vqs j = w.st.vqs j ∨
    (a = .place ∧ ∃ chainNext, w'.st.vqs j = (w.st.vqs j).advance chainNext) ∨
    (a = .setSize ∧ ∃ requestedSize max, max ≠ 0 ∧
      w'.st.vqs j = { w.st.vqs j with size := vqSize requestedSize max }) := by
  cases hs with
  | place i addr len deviceWritable chainNext w hsize =>
      by_cases hj : j = i
      · subst hj
        right
        left
        exact ⟨rfl, chainNext, by simp [World.place]⟩
      · left
        simp [World.place, hj]
  | setSize i requestedSize max w hmax =>
      by_cases hj : j = i
      · subst hj
        right
        right
        exact ⟨rfl, requestedSize, max, hmax, by simp [World.setVq]⟩
      · left
        simp [World.setVq, hj]
  | _ => exact Or.inl rfl

section Frames

variable {A : List Act} {w w' : World n ξ}

theorem Steps.ext_eq (hA : Act.setExt ∉ A) (hs : Steps A w w') : w'.st.ext = w.st.ext := by
  apply hs.invariant (fun v => v.st.ext = w.st.ext)
  · intro a ha v v' hstep hv
    cases hstep with
    | setExt f v => exact absurd ha hA
    | _ => exact hv
  · rfl

theorem Steps.vqs_eq (hplace : Act.place ∉ A) (hsize : Act.setSize ∉ A) (hs : Steps A w w') :
    w'.st.vqs = w.st.vqs := by
  apply hs.invariant (fun v => v.st.vqs = w.st.vqs)
  · intro a ha v v' hstep hv
    cases hstep with
    | place i addr len deviceWritable chainNext v _ => exact absurd ha hplace
    | setSize i requestedSize max v _ => exact absurd ha hsize
    | _ => exact hv
  · rfl

/-- The requests a history says were published, newest first. -/
def submissions (hist : List Mark) : List (Nat × List UInt8) :=
  hist.filterMap fun
    | .submit vqIdx req => some (vqIdx, req)
    | _ => none

theorem Steps.submissions_eq (hA : Act.submit ∉ A) (hs : Steps A w w') :
    submissions w'.hist = submissions w.hist := by
  apply hs.invariant (fun v => submissions v.hist = submissions w.hist)
  · intro a ha v v' hstep hv
    cases hstep with
    | submit vqIdx req v => exact absurd ha hA
    | place i addr len deviceWritable chainNext v hsize =>
        rw [← hv]
        simp [World.place, VqState.placeMarks, hsize, submissions]
    | _ => exact hv
  · rfl

end Frames

variable {A : List Act}

theorem within_emit (hA : Act.event ∈ A) (e : Event) (he : e.isMemWrite = false) :
    Within (Steps A) (emit e : Harness n ξ Unit) :=
  Within.modify fun w => Steps.single hA (Step.event e w he)

theorem within_getState : Within (Steps A) (getState : Harness n ξ (State n ξ)) :=
  Within.get.bind fun _ => Within.pure _

private theorem within_mmioRead (hA : Act.event ∈ A) (width : Nat) (off : UInt64) :
    Within (Steps A) (mmioRead width off : Harness n ξ UInt32) :=
  Within.get.bind fun _ => (within_emit hA _ rfl).bind fun _ => Within.pure _

theorem within_mmioReadl (hA : Act.event ∈ A) (off : UInt64) :
    Within (Steps A) (mmioReadl off : Harness n ξ UInt32) :=
  within_mmioRead hA 4 off

theorem within_mmioWrite (hA : Act.event ∈ A) (width : Nat) (off : UInt64) (v : UInt32) :
    Within (Steps A) (mmioWrite width off v : Harness n ξ Unit) :=
  within_emit hA _ rfl

theorem within_mmioWritel (hA : Act.event ∈ A) (off : UInt64) (v : UInt32) :
    Within (Steps A) (mmioWritel off v : Harness n ξ Unit) :=
  within_mmioWrite hA 4 off v

theorem within_flushEvents (hA : Act.event ∈ A) :
    Within (Steps A) (flushEvents : Harness n ξ Unit) :=
  within_emit hA _ rfl

theorem within_modifyExt (hA : Act.setExt ∈ A) (f : ξ → ξ) :
    Within (Steps A) (modifyExt f : Harness n ξ Unit) :=
  Within.modify fun w => Steps.single hA (Step.setExt f w)

theorem within_submitMark (hA : Act.submit ∈ A) (vqIdx : Nat) (req : List UInt8) :
    Within (Steps A) (note (.submit vqIdx req) : Harness n ξ Unit) :=
  Within.modify fun w => Steps.single hA (Step.submit vqIdx req w)

theorem within_opGetFeatures (hA : Act.event ∈ A) :
    Within (Steps A) (opGetFeatures : Harness n ξ Unit) := by
  refine (within_mmioWritel hA _ _).bind fun _ => ?_
  refine (within_mmioReadl hA _).bind fun _ => ?_
  refine (within_mmioWritel hA _ _).bind fun _ => ?_
  exact (within_mmioReadl hA _).bind fun _ => Within.pure _

theorem within_opSetFeatures (hA : Act.event ∈ A) (f : UInt64) :
    Within (Steps A) (opSetFeatures f : Harness n ξ Unit) := by
  refine (within_mmioWritel hA _ _).bind fun _ => ?_
  refine (within_mmioWritel hA _ _).bind fun _ => ?_
  refine (within_mmioWritel hA _ _).bind fun _ => ?_
  refine (within_mmioWritel hA _ _).bind fun _ => ?_
  refine (within_mmioReadl hA _).bind fun _ => ?_
  exact within_mmioWritel hA _ _

theorem within_opConfigReadSized (hA : Act.event ∈ A) (offset size : UInt32) :
    Within (Steps A) (opConfigReadSized offset size : Harness n ξ Unit) := by
  refine Within.ite ?_ (Within.ite ?_ ?_)
  · exact (within_mmioReadl hA _).bind fun _ => Within.pure _
  · exact (within_mmioRead hA _ _).bind fun _ => Within.pure _
  · exact (within_mmioRead hA _ _).bind fun _ => Within.pure _

theorem within_opConfigReadWord (hA : Act.event ∈ A) (offset size : UInt32) :
    Within (Steps A) (opConfigReadWord offset size : Harness n ξ Unit) :=
  (within_mmioReadl hA _).bind fun _ => Within.pure _

theorem within_opConfigWrite (hA : Act.event ∈ A) (offset : UInt32) (data : List UInt8) :
    Within (Steps A) (opConfigWrite offset data : Harness n ξ Unit) :=
  Within.forM _ fun _ _ => within_mmioWritel hA _ _

theorem within_opVqSelect (hA : Act.event ∈ A) (vqIdx : UInt32) :
    Within (Steps A) (opVqSelect vqIdx : Harness n ξ Unit) :=
  within_mmioWritel hA _ _

theorem within_opSetStatus (hA : Act.event ∈ A) (bits : UInt32) :
    Within (Steps A) (opSetStatus bits : Harness n ξ Unit) := by
  refine Within.ite (within_mmioWritel hA _ _) ?_
  exact (within_mmioReadl hA _).bind fun _ => within_mmioWritel hA _ _

theorem within_opVqKick (hA : Act.event ∈ A) (vqIdx : UInt32) :
    Within (Steps A) (opVqKick vqIdx : Harness n ξ Unit) :=
  (within_mmioWritel hA _ _).bind fun _ => within_flushEvents hA

theorem within_opVqWaitUsed (hA : Act.event ∈ A) (vqIdx : UInt32) :
    Within (Steps A) (opVqWaitUsed vqIdx : Harness n ξ Unit) := by
  refine (within_flushEvents hA).bind fun _ => ?_
  refine (within_mmioReadl hA _).bind fun _ => ?_
  exact Within.ite (within_mmioWritel hA _ _) (Within.pure _)

theorem within_opMmioCorrupt (hA : Act.event ∈ A) (offset value size : UInt32) :
    Within (Steps A) (opMmioCorrupt offset value size : Harness n ξ Unit) := by
  refine Within.ite ?_ (Within.ite ?_ ?_)
  · exact within_mmioWrite hA _ _ _
  · exact within_mmioWrite hA _ _ _
  · exact within_mmioWrite hA _ _ _

theorem within_opVqSetup (hA : Act.event ∈ A) (hset : Act.setSize ∈ A)
    (vqIdx requestedSize : UInt32) :
    Within (Steps A) (opVqSetup vqIdx requestedSize : Harness n ξ Unit) := by
  refine Within.dite (fun hi => ?_) fun _ => Within.pure _
  refine (within_mmioWritel hA _ _).bind fun _ => ?_
  refine (within_mmioReadl hA _).bind fun max => ?_
  by_cases hmax : max = 0
  · rw [if_pos hmax]
    exact Within.pure _
  · rw [if_neg hmax]
    refine Within.bind ?_ fun _ => ?_
    · exact Within.modify fun w => Steps.single hset (Step.setSize _ requestedSize max w hmax)
    · refine within_getState.bind fun s => ?_
      refine (within_mmioWritel hA _ _).bind fun _ => ?_
      refine (within_mmioWritel hA _ _).bind fun _ => ?_
      refine (within_mmioWritel hA _ _).bind fun _ => ?_
      refine (within_mmioWritel hA _ _).bind fun _ => ?_
      refine (within_mmioWritel hA _ _).bind fun _ => ?_
      refine (within_mmioWritel hA _ _).bind fun _ => ?_
      refine (within_mmioWritel hA _ _).bind fun _ => ?_
      exact within_mmioWritel hA _ _

theorem within_opMemwriteAbsolute (hA : Act.writeClamped ∈ A) (gpa : UInt64)
    (data : List UInt8) : Within (Steps A) (opMemwriteAbsolute gpa data : Harness n ξ Unit) := by
  refine Within.ite (Within.pure _) ?_
  have hlen : (UInt32.ofNat (min data.length 4096)).toNat = min data.length 4096 := by
    rw [UInt32.toNat_ofNat']
    omega
  rcases ha : clampGpa n gpa (UInt32.ofNat (min data.length 4096)) with _ | a
  · simp only [ha]
    exact Within.pure _
  · simp only [ha]
    refine Within.modify fun w => Steps.single hA (Step.writeClamped gpa a _ w ?_ ?_)
    · rw [List.length_take, hlen]
      omega
    · rw [List.length_take, hlen, Nat.min_eq_left (by omega)]
      exact ha

theorem within_addDescWith (hA : Act.place ∈ A) (target : TargetRule) (d : VqAddDesc) :
    Within (Steps A) (addDescWith target d : Harness n ξ Unit) := by
  intro w
  rw [addDescWith_run, World.addDesc]
  split
  · split
    · exact Relation.ReflTransGen.refl
    · rename_i hsize
      split
      · exact Relation.ReflTransGen.refl
      · exact Steps.single hA (Step.place _ _ _ _ _ w hsize)
  · exact Relation.ReflTransGen.refl

/-- Queue `i` is set up; no effect undoes that. -/
def SetUp (i : Fin n) (w : World n ξ) : Prop := (w.st.vqs i).size ≠ 0

theorem vqSize_ne_zero (requestedSize max : UInt32) : vqSize requestedSize max ≠ 0 := by
  simp only [vqSize]
  generalize clearLowBits 32 _ = size
  split
  · decide
  · assumption

theorem Steps.setUp {i : Fin n} {w w' : World n ξ} (hs : Steps A w w') (h : SetUp i w) :
    SetUp i w' := by
  apply hs.invariant (SetUp i)
  · intro a _ v v' hstep hv
    rw [SetUp]
    rcases hstep.vq_cases i with hq | ⟨-, chainNext, hq⟩ | ⟨-, requestedSize, max, -, hq⟩
    · rw [hq]
      exact hv
    · rw [hq]
      exact hv
    · rw [hq]
      exact vqSize_ne_zero requestedSize max
  · exact h

/-- `m` stays within the steps when queue `i` is set up. -/
abbrev Submits (A : List Act) (i : Fin n) {α : Type} (m : Harness n ξ α) : Prop :=
  WithinFrom (SetUp i) (Steps A) m

theorem kept_setUp (i : Fin n) : Kept (Steps A) (SetUp i : World n ξ → Prop) :=
  fun _ _ hw hs => hs.setUp hw

theorem Submits.bind {α β : Type} {i : Fin n} {m : Harness n ξ α} {f : α → Harness n ξ β}
    (hm : Submits A i m) (hf : ∀ a, Submits A i (f a)) : Submits A i (m >>= f) :=
  WithinFrom.bind (kept_setUp i) hm hf

theorem submits_placeDesc (hA : Act.place ∈ A) (i : Fin n) (addr : UInt64) (len : UInt32)
    (deviceWritable chainNext : Bool) :
    Submits A i (placeDesc i addr len deviceWritable chainNext : Harness n ξ UInt32) := by
  intro w hw
  rw [placeDesc_run]
  exact Steps.single hA (Step.place i addr len deviceWritable chainNext w hw)

theorem submits_placeBuf (hA : Act.place ∈ A) (i : Fin n) (id : UInt32)
    (deviceWritable chainNext : Bool) :
    Submits A i (placeBuf i id deviceWritable chainNext : Harness n ξ UInt32) :=
  Submits.bind within_getState.from fun _ => submits_placeDesc hA _ _ _ _ _

theorem within_notify (hA : Act.event ∈ A) (i : Fin n) :
    Within (Steps A) (notify i : Harness n ξ Unit) :=
  (within_mmioWritel hA _ _).bind fun _ => within_flushEvents hA

theorem within_ifSetUp {α : Type} (i : Fin n) {a : α} {k : State n ξ → Harness n ξ α}
    (hk : ∀ s, Submits A i (k s)) :
    Within (Steps A)
      (getState >>= fun s => if (s.vqs i).size = 0 then pure a else k s) := by
  intro w
  change Steps A w ((if (w.st.vqs i).size = 0 then pure a else k w.st : Harness n ξ α).run w).2
  by_cases hsize : (w.st.vqs i).size = 0
  · rw [if_pos hsize]
    exact Relation.ReflTransGen.refl
  · rw [if_neg hsize]
    exact hk w.st w hsize

end VirtioCrash
