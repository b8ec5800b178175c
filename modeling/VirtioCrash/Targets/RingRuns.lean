import VirtioCrash.Harness.AbsoluteWrite
import VirtioCrash.Harness.RingContents
import VirtioCrash.Targets.QueueLayout

/-!
# The rings of a run

In a run whose queues keep the size they were filled with, the descriptor table and the avail ring
of every queue are those of the placements since the reset. Another thread may run beside it as long
as that one never resets: it then has no addresses of its own, and what it stores elsewhere is in
the buffer pool.
-/

namespace VirtioCrash

open StateProgram SplitRing BumpAllocator

variable {n : Nat} {ξ Op : Type}

private theorem Step.ring_cases {a : Act} {w w' : World n ξ} (hs : Step a w w') (ha : a ≠ .setSize)
    (hn : n ≤ 16) (hpool : PoolInv (kBufPoolBase n).toNat w) :
    (∃ i addr len deviceWritable chainNext, (w.st.vqs i).size ≠ 0 ∧
      w' = w.place i addr len deviceWritable chainNext) ∨
    (w'.st.vqs = w.st.vqs ∧ (∀ i, queueLog i w'.hist = queueLog i w.hist) ∧
      ∃ es, w'.trace = es ++ w.trace ∧
        ∀ e ∈ es, ∀ lo hi, hi ≤ (kBufPoolBase n).toNat → e.Avoids lo hi) := by
  cases hs with
  | place i addr len deviceWritable chainNext w hsize =>
      exact Or.inl ⟨i, addr, len, deviceWritable, chainNext, hsize, rfl⟩
  | setSize i requestedSize max w hmax => exact absurd rfl ha
  | event e w he =>
      refine Or.inr ⟨rfl, fun _ => rfl, [e], rfl, ?_⟩
      intro e' he' lo hi _
      rw [List.mem_singleton.mp he']
      exact e.avoids_of_silent he lo hi
  | writeBuf gpa len off data w halloc hfit =>
      refine Or.inr ⟨rfl, fun _ => rfl, [_], rfl, ?_⟩
      obtain ⟨hge, hend⟩ := hpool.alloc_inside halloc hfit
      intro e' he' lo hi hhi
      rw [List.mem_singleton.mp he', Event.Avoids]
      rw [kBufPoolEndNat] at hend
      omega
  | writeClamped gpa a data w hlen hclamp =>
      refine Or.inr ⟨rfl, fun _ => rfl, [_], rfl, ?_⟩
      have hsmall : (UInt32.ofNat data.length).toNat = data.length := by
        rw [UInt32.toNat_ofNat']
        omega
      obtain ⟨a', ha', haddr⟩ := clampGpa_eq hn gpa (by rw [hsmall]; exact hlen)
      cases ha'.symm.trans hclamp
      have hroom : (kBufPoolBase n).toNat + data.length < kBufPoolEndNat := by
        rw [kBufPoolBase_toNat hn, kBufPoolEndNat]
        omega
      have hinside := clampedGpa_inside gpa.toNat hroom
      intro e' he' lo hi hhi
      rw [List.mem_singleton.mp he', Event.Avoids, haddr, hsmall]
      rw [kBufPoolEndNat] at hinside
      omega
  | bump len w hfit =>
      have hlog (i : Nat) : queueLog i (w.bump len).hist = queueLog i w.hist := by
        have h := queueLog_append (show placements [.alloc w.st.bufAlloc len] = [] from rfl)
          (by simp) i w.hist
        exact h
      exact Or.inr ⟨rfl, fun i => hlog i, [], rfl, by simp⟩
  | bindBuf id b w halloc => exact Or.inr ⟨rfl, fun _ => rfl, [], rfl, by simp⟩
  | setExt f w => exact Or.inr ⟨rfl, fun _ => rfl, [], rfl, by simp⟩
  | submit vqIdx req w =>
      have hlog (i : Nat) : queueLog i (w.note (.submit vqIdx req)).hist = queueLog i w.hist := by
        have h := queueLog_append (show placements [.submit vqIdx req] = [] from rfl)
          (by simp) i w.hist
        exact h
      exact Or.inr ⟨rfl, fun i => hlog i, [], rfl, by simp⟩

/-- The queues of a thread and guest memory agree. -/
structure RingsShown (m : ByteMemory) (w : World n ξ) : Prop where
  addresses : AddressesReset w
  pow2 : SizesPow2 w
  sizes : ∀ i, (w.st.vqs i).size.toNat ≤ 256
  pool : PoolInv (kBufPoolBase n).toNat w
  tracked : CountersTrack w
  queues : ∀ i, QueueShown m i w

theorem ringsShown_afterReset (hn : n ≤ 16) (m : ByteMemory) (w : World n ξ) (f : ξ → ξ) :
    RingsShown m (w.afterReset.setExt f) where
  addresses := addressesReset_afterReset w f
  pow2 := sizesPow2_afterReset w f
  sizes _ := Nat.zero_le _
  pool := poolInv_afterReset hn w f
  tracked := countersTrack_afterReset w f
  queues i := by
    have hlog : queueLog i (w.afterReset.setExt f).hist = [] := queueLog_reset i w.hist
    constructor
    · rw [hlog]
      rfl
    · exact fun _ => hlog
    · exact fun hpos => absurd rfl hpos

section RingsShown

variable {m : ByteMemory} {w w' : World n ξ}

theorem RingsShown.inAreas (h : RingsShown m w) (i : Fin n) : InAreas i (w.st.vqs i) := by
  have hi := h.addresses i
  simp only [vqAddresses, Prod.mk.injEq] at hi
  exact ⟨hi.1, hi.2.1, h.sizes i⟩

private theorem RingsShown.place_avoids (h : RingsShown m w) (hn : n ≤ 16) {i j : Fin n}
    (hij : j ≠ i) (addr : UInt64) (len : UInt32) (deviceWritable chainNext : Bool)
    (hpos : (w.st.vqs i).size ≠ 0) :
    ∀ e ∈ (w.st.vqs i).placeEvents addr len deviceWritable chainNext,
      e.Avoids (0x47000000 + j * 0x3000) (0x47000000 + (j + 1) * 0x3000) := by
  obtain ⟨hdesc, havail, -⟩ := h.addresses.toNat hn i
  have hsize := h.sizes i
  have hi := lt_of_lt_of_le i.isLt hn
  have hne : (j : Nat) ≠ i := fun he => hij (Fin.ext he)
  apply placeEvents_avoid addr len deviceWritable chainNext hpos
  · omega
  · omega
  · omega
  · omega

private theorem RingsShown.step {a : Act} (hs : Step a w w') (ha : a ≠ .setSize) (hn : n ≤ 16)
    (h : RingsShown m w) : RingsShown m w' where
  addresses i := (hs.vqAddresses_eq i).trans (h.addresses i)
  pow2 := h.pow2.step hs
  sizes i := by
    rcases hs.vq_cases i with hq | ⟨-, chainNext, hq⟩ | ⟨hset, -⟩
    · rw [hq]
      exact h.sizes i
    · rw [hq]
      exact h.sizes i
    · exact absurd hset ha
  pool := h.pool.step hs
  tracked := h.tracked.step hs
  queues j := by
    have hareas := h.inAreas j
    rcases hs.ring_cases ha hn h.pool with ⟨i, addr, len, deviceWritable, chainNext, hpos, rfl⟩ |
      ⟨hvqs, hlog, es, htrace, havoid⟩
    · by_cases hj : j = i
      · subst hj
        exact (h.queues j).place hareas h.tracked ((h.pow2 j).resolve_left hpos) hpos addr len
          deviceWritable chainNext
      · apply (h.queues j).frame hareas hn
        · simp [World.place, hj]
        · rw [queueLog_place i j addr len deviceWritable chainNext hpos, if_neg hj]
        · exact ⟨_, rfl, h.place_avoids hn hj addr len deviceWritable chainNext hpos⟩
    · apply (h.queues j).frame hareas hn
      · rw [hvqs]
      · exact hlog j
      · refine ⟨es, htrace, fun e he => havoid e he _ _ ?_⟩
        rw [kBufPoolBase_toNat hn]
        have hjn := j.isLt
        omega

theorem RingsShown.steps {A : List Act} (hA : Act.setSize ∉ A) (hs : Steps A w w') (hn : n ≤ 16)
    (h : RingsShown m w) : RingsShown m w' :=
  hs.invariant (RingsShown m) (fun _ ha _ _ hstep hv => hv.step hstep (fun he => hA (he ▸ ha)) hn) h

private theorem RingsShown.machine (h : RingsShown m w) (hn : n ≤ 16) (dev : Device)
    {es : List Event} (hes : ∀ e ∈ es, e.Avoids 0x47000000 (kBufPoolBase n).toNat) :
    RingsShown m ⟨dev, es ++ w.trace, w.st, w.hist⟩ where
  addresses := h.addresses
  pow2 := h.pow2
  sizes := h.sizes
  pool := ⟨h.pool.packed, h.pool.bufs⟩
  tracked := h.tracked
  queues i := by
    refine (h.queues i).frame (h.inAreas i) hn ?_ ?_ ⟨es, ?_, fun e he => ?_⟩
    · rfl
    · rfl
    · rfl
    have hwide := hes e he
    have hi := i.isLt
    rw [kBufPoolBase_toNat hn] at hwide
    cases e with
    | memWrite gpa data =>
        obtain ⟨hend, hout⟩ := hwide
        rw [Event.Avoids]
        omega
    | _ => trivial

end RingsShown

/-- A `VqSetup` asks for a size the areas hold, on a queue without descriptors or for the size it
has. -/
def SetupKeeps (asCommon : Op → Option CommonOp) (w : World n ξ) (op : Op) : Prop :=
  match asCommon op with
  | some (.vqSetup vqIdx size) => ∀ hi : vqIdx.toNat < n, queueNumMax w vqIdx ≠ 0 →
      cappedSize size (queueNumMax w vqIdx) < 512 ∧
        (queueLog vqIdx.toNat w.hist = [] ∨
          vqSize size (queueNumMax w vqIdx) = (w.st.vqs ⟨vqIdx.toNat, hi⟩).size)
  | _ => True

instance (asCommon : Op → Option CommonOp) (w : World n ξ) (op : Op) :
    Decidable (SetupKeeps asCommon w op) := by
  delta SetupKeeps
  generalize asCommon op = c
  rcases c with _ | c
  · exact instDecidableTrue
  · induction c using CommonOp.casesOn <;> infer_instance

section VqSetup

variable {m : ByteMemory} {w : World n ξ}

private theorem RingsShown.setSize (h : RingsShown m w) (hn : n ≤ 16) (i : Fin n)
    {size max : UInt32} (hmax : max ≠ 0) (hsize : cappedSize size max < 512)
    (hsame : queueLog i w.hist = [] ∨ vqSize size max = (w.st.vqs i).size) :
    RingsShown m (w.setVq i { w.st.vqs i with size := vqSize size max }) := by
  have hstep := Step.setSize i size max w hmax
  have hpos := vqSize_ne_zero size max
  have hsmall := (vqSize_le_iff size _ hmax).mpr hsize
  refine ⟨?_, h.pow2.step hstep, ?_, h.pool.step hstep, h.tracked.step hstep, ?_⟩
  · exact fun j => (hstep.vqAddresses_eq j).trans (h.addresses j)
  · intro j
    by_cases hj : j = i
    · subst hj
      simpa [World.setVq] using hsmall
    · simpa [World.setVq, hj] using h.sizes j
  · intro j
    by_cases hj : j = i
    · subst hj
      rcases hsame with hempty | hsame
      · constructor
        · have havail := (h.queues j).avail
          simp only [hempty] at havail
          simp only [World.setVq, Function.update_self, hempty]
          exact havail
        · exact fun _ => hempty
        · intro _
          have hlog :
              queueLog j (w.setVq j { w.st.vqs j with size := vqSize size max }).hist = [] :=
            hempty
          rw [hlog]
          exact Shown.empty _ _ _ _
      · rw [hsame, World.setVq, Function.update_eq_self]
        exact h.queues j
    · refine (h.queues j).frame (h.inAreas j) hn ?_ ?_ ⟨[], ?_, ?_⟩
      · simp [World.setVq, hj]
      · rfl
      · rfl
      · simp

private theorem programEvents_silent (q : VqState) :
    ∀ e ∈ q.programEvents, e.isMemWrite = false := by
  simp [VqState.programEvents, Event.isMemWrite]

private theorem RingsShown.vqSetup (h : RingsShown m w) (hn : n ≤ 16) (i : Fin n)
    (vqIdx size : UInt32)
    (hkeep : queueNumMax w vqIdx ≠ 0 → cappedSize size (queueNumMax w vqIdx) < 512 ∧
      (queueLog i w.hist = [] ∨ vqSize size (queueNumMax w vqIdx) = (w.st.vqs i).size)) :
    RingsShown m (w.vqSetup i vqIdx size) := by
  have hselect : ∀ e ∈ selectEvents vqIdx (queueNumMax w vqIdx), e.isMemWrite = false := by
    simp [selectEvents, Event.isMemWrite]
  rw [World.vqSetup]
  split
  · exact h.machine hn w.dev fun e he => e.avoids_of_silent (hselect e he) _ _
  · rename_i hmax
    obtain ⟨hsize, hsame⟩ := hkeep hmax
    have hset := h.setSize hn i hmax hsize hsame
    have hsilent : ∀ e ∈ VqState.programEvents
          { w.st.vqs i with size := vqSize size (queueNumMax w vqIdx) } ++
        selectEvents vqIdx (queueNumMax w vqIdx), e.isMemWrite = false := by
      intro e he
      rcases List.mem_append.mp he with he | he
      · exact programEvents_silent _ e he
      · exact hselect e he
    have hall := hset.machine hn w.dev fun e he => e.avoids_of_silent (hsilent e he) _ _
    rw [List.append_assoc] at hall
    exact hall

end VqSetup

namespace Target.Confined

variable {t : Target n ξ Op} {asCommon : Op → Option CommonOp}

theorem ringsShown_dispatch (ht : t.Confined asCommon) (hn : n ≤ 16) (m : ByteMemory) (op : Op)
    (w : World n ξ) (hkeep : SetupKeeps asCommon w op) (h : RingsShown m w) :
    RingsShown m ((t.dispatch op).run w).2 := by
  rcases ht.dispatch_cases op w with ⟨-, f, hrun⟩ | ⟨vqIdx, size, hi, hop, hrun⟩ | ⟨-, A, hA, hsteps⟩
  · rw [hrun]
    exact ringsShown_afterReset hn m w f
  · rw [SetupKeeps, hop] at hkeep
    rw [hrun]
    exact h.vqSetup hn _ vqIdx size (hkeep hi)
  · exact h.steps hA hsteps hn

theorem ringsShown_run (ht : t.Confined asCommon) (hn : n ≤ 16) (m : ByteMemory) (ops : List Op)
    {w : World n ξ} (hops : EveryOp t (SetupKeeps asCommon) ops w) (h : RingsShown m w) :
    RingsShown m (dispatchAll t ops w) := by
  induction ops generalizing w with
  | nil => exact h
  | cons op ops ih => exact ih hops.2 (ht.ringsShown_dispatch hn m op w hops.1 h)

end Target.Confined

/-- The queues of a thread without addresses of its own, with sizes that keep it below the areas of
the others. -/
structure Bare (w : World n ξ) : Prop where
  addresses : ∀ i, vqAddresses w i = (0, 0, 0)
  sizes : ∀ i, (w.st.vqs i).size.toNat ≤ 2 ^ 26
  pool : PoolInv (kBufPoolBase n).toNat w

private theorem bare_threadB (hn : n ≤ 16) (t : Target n ξ Op) (dev : Device) (trace : List Event) :
    Bare ⟨dev, trace, threadBState t, []⟩ where
  addresses _ := rfl
  sizes _ := Nat.zero_le _
  pool := poolInv_threadB hn t dev trace

/-- The thread stays as it is, and what it stored on the way is outside the areas of all queues. -/
def BareStep (w w' : World n ξ) : Prop :=
  Bare w' ∧ ∃ es, w'.trace = es ++ w.trace ∧
    ∀ e ∈ es, e.Avoids 0x47000000 (kBufPoolBase n).toNat

private theorem BareStep.trans {w v u : World n ξ} (h : BareStep w v) (h' : BareStep v u) :
    BareStep w u := by
  obtain ⟨-, es, hes, havoid⟩ := h
  obtain ⟨hbare, es', hes', havoid'⟩ := h'
  refine ⟨hbare, es' ++ es, by rw [hes', hes, List.append_assoc], ?_⟩
  intro e he
  rcases List.mem_append.mp he with he | he
  · exact havoid' e he
  · exact havoid e he

section Bare

variable {w w' : World n ξ}

private theorem Bare.place_avoids (h : Bare w) (i : Fin n) (addr : UInt64) (len : UInt32)
    (deviceWritable chainNext : Bool) (hpos : (w.st.vqs i).size ≠ 0) (hi : Nat) :
    ∀ e ∈ (w.st.vqs i).placeEvents addr len deviceWritable chainNext,
      e.Avoids 0x47000000 hi := by
  have haddr := h.addresses i
  simp only [vqAddresses, Prod.mk.injEq] at haddr
  have hsize := h.sizes i
  apply placeEvents_avoid addr len deviceWritable chainNext hpos
  · rw [haddr.1, UInt64.toNat_zero]
    omega
  · rw [haddr.2.1, UInt64.toNat_zero]
    omega
  · rw [haddr.1, UInt64.toNat_zero]
    omega
  · rw [haddr.2.1, UInt64.toNat_zero]
    omega

private theorem Bare.step {a : Act} (hs : Step a w w') (ha : a ≠ .setSize) (hn : n ≤ 16)
    (h : Bare w) : BareStep w w' := by
  have hbare : Bare w' := by
    refine ⟨fun i => (hs.vqAddresses_eq i).trans (h.addresses i), ?_, h.pool.step hs⟩
    intro i
    rcases hs.vq_cases i with hq | ⟨-, chainNext, hq⟩ | ⟨hset, -⟩
    · rw [hq]
      exact h.sizes i
    · rw [hq]
      exact h.sizes i
    · exact absurd hset ha
  rcases hs.ring_cases ha hn h.pool with ⟨i, addr, len, deviceWritable, chainNext, hpos, rfl⟩ |
    ⟨-, -, es, htrace, havoid⟩
  · exact ⟨hbare, _, rfl, h.place_avoids i addr len deviceWritable chainNext hpos _⟩
  · exact ⟨hbare, es, htrace, fun e he => havoid e he _ _ le_rfl⟩

private theorem Bare.steps {A : List Act} (hA : Act.setSize ∉ A) (hs : Steps A w w') (hn : n ≤ 16)
    (h : Bare w) : BareStep w w' := by
  apply hs.invariant (BareStep w)
  · intro a ha v v' hstep hv
    exact hv.trans (hv.1.step hstep (fun he => hA (he ▸ ha)) hn)
  · exact ⟨h, [], rfl, by simp⟩

private theorem Bare.vqSetup (h : Bare w) (i : Fin n) (vqIdx size : UInt32)
    (hsize : queueNumMax w vqIdx ≠ 0 → cappedSize size (queueNumMax w vqIdx) < 2 ^ 27) :
    BareStep w (w.vqSetup i vqIdx size) := by
  have hselect : ∀ e ∈ selectEvents vqIdx (queueNumMax w vqIdx), e.isMemWrite = false := by
    simp [selectEvents, Event.isMemWrite]
  rw [World.vqSetup]
  split
  · refine ⟨⟨h.addresses, h.sizes, ⟨h.pool.packed, h.pool.bufs⟩⟩, _, rfl, ?_⟩
    exact fun e he => e.avoids_of_silent (hselect e he) _ _
  · rename_i hmax
    have hstep := Step.setSize i size _ w hmax
    have hbound : (vqSize size (queueNumMax w vqIdx)).toNat ≤ 2 ^ 26 := by
      rw [vqSize_toNat _ _ hmax, Nat.pow_le_pow_iff_right (by omega)]
      exact Nat.lt_succ_iff.mp ((Nat.log2_lt (cappedSize_ne_zero size hmax)).mpr (hsize hmax))
    refine ⟨⟨fun j => (hstep.vqAddresses_eq j).trans (h.addresses j), ?_, ?_⟩, _,
      (List.append_assoc _ _ _).symm, ?_⟩
    · intro j
      by_cases hj : j = i
      · subst hj
        simpa [World.setVq] using hbound
      · simpa [World.setVq, hj] using h.sizes j
    · have hpool := h.pool.step hstep
      exact ⟨hpool.packed, hpool.bufs⟩
    · intro e he
      apply e.avoids_of_silent
      rcases List.mem_append.mp he with he | he
      · exact programEvents_silent _ e he
      · exact hselect e he

end Bare

/-- An op that neither resets nor sets up a queue of more than `2^26` descriptors. -/
def LeavesRings (asCommon : Op → Option CommonOp) (w : World n ξ) (op : Op) : Prop :=
  match asCommon op with
  | some .reset => False
  | some (.vqSetup vqIdx size) => vqIdx.toNat < n → queueNumMax w vqIdx ≠ 0 →
      cappedSize size (queueNumMax w vqIdx) < 2 ^ 27
  | _ => True

namespace Target.Confined

variable {t : Target n ξ Op} {asCommon : Op → Option CommonOp}

private theorem bare_dispatch (ht : t.Confined asCommon) (hn : n ≤ 16) (op : Op) (w : World n ξ)
    (hleaves : LeavesRings asCommon w op) (h : Bare w) : BareStep w ((t.dispatch op).run w).2 := by
  rcases ht.dispatch_cases op w with ⟨hop, -⟩ | ⟨vqIdx, size, hi, hop, hrun⟩ | ⟨-, A, hA, hsteps⟩
  · rw [LeavesRings, hop] at hleaves
    exact hleaves.elim
  · rw [LeavesRings, hop] at hleaves
    rw [hrun]
    exact h.vqSetup _ vqIdx size (hleaves hi)
  · exact h.steps hA hsteps hn

/-- Thread A's rings, beside a thread B that leaves them alone. -/
theorem ringsShown_conc (ht : t.Confined asCommon) (hn : n ≤ 16) (m : ByteMemory)
    {prog : Program Op} {dev : Device} {st : State n ξ} {turns : List Turn} {c : Conc n ξ Op}
    (hcond : AlwaysConc t prog dev st
      (fun c turn => OnA (SetupKeeps asCommon) c turn ∧ OnB (LeavesRings asCommon) c turn) turns)
    (hrun : runConc t prog dev st turns = some c) : RingsShown m c.worldA ∧ Bare c.worldB := by
  apply runConc_invariant (SetupKeeps asCommon) (LeavesRings asCommon)
    (fun c => RingsShown m c.worldA ∧ Bare c.worldB) _ _ _ _ hcond hrun
  · rintro c c' htrace ha hb - ⟨hA, hB⟩
    have hworldA : c'.worldA = ⟨c'.dev, [] ++ c.worldA.trace, c.worldA.st, c.worldA.hist⟩ := by
      rw [Conc.worldA, ha, htrace]
      rfl
    rw [hworldA]
    refine ⟨hA.machine hn c'.dev (by simp), ?_⟩
    rw [Conc.worldB, hb]
    exact ⟨hB.addresses, hB.sizes, ⟨hB.pool.packed, hB.pool.bufs⟩⟩
  · rintro c op rest - hop ⟨hA, hB⟩
    refine ⟨ht.ringsShown_dispatch hn m op c.worldA hop hA, ?_⟩
    exact ⟨hB.addresses, hB.sizes, ⟨hB.pool.packed, hB.pool.bufs⟩⟩
  · rintro c op rest - hop ⟨hA, hB⟩
    obtain ⟨hbare, es, htrace, havoid⟩ := ht.bare_dispatch hn op c.worldB hop hB
    refine ⟨?_, hbare⟩
    have hafter := hA.machine hn ((t.dispatch op).run c.worldB).2.dev havoid
    change RingsShown m ⟨_, ((t.dispatch op).run c.worldB).2.trace, _, _⟩
    rw [htrace]
    exact hafter
  · constructor
    · exact ht.reset_keeps (ringsShown_afterReset hn m) _
    · exact bare_threadB hn t _ _

end Target.Confined

end VirtioCrash
