import VirtioCrash.Harness.Request
import VirtioCrash.Harness.Chain

/-!
# How a submission ends

A typed submission stages its buffers first and then places them as one chain. It ends in one of two
ways: it was dropped, and all it did was to stage some buffers, or it was published, and it placed
a whole chain and rang the doorbell of its queue once.
-/

namespace VirtioCrash

open StateProgram Relation

variable {n : Nat} {ξ η : Type}

/-- What staging a buffer does. -/
def stagingActs : List Act := [.bump, .writeBuf, .setExt, .bindBuf]

/-- The doorbell of queue `i`. -/
def notifyEvent (i : Fin n) : Event :=
  .mmioWrite 4 (kVirtioMmioBase + rQueueNotify) (UInt32.ofNat i)

/-- Whether an event writes the doorbell register. -/
def Event.isNotify : Event → Bool
  | .mmioWrite _ addr _ => decide (addr = kVirtioMmioBase + rQueueNotify)
  | _ => false

/-- How a submission on queue `i` ends that went from `w` to `w'`. -/
inductive Outcome (i : Fin n) (chain : List Piece → Prop) (w w' : World n ξ) : Prop
  | dropped (hs : Steps stagingActs w w')
  | published (v : World n ξ) (ps : List Piece) (after : List Event) (hs : Steps stagingActs w v)
      (hps : chain ps) (hst : w'.st = (v.placeChain i ps).st)
      (htrace : w'.trace = after ++ notifyEvent i :: (v.placeChain i ps).trace)
      (hafter : ∀ e ∈ after, e.isMemWrite = false ∧ e.isNotify = false)
      (hplaced : placements w'.hist = placements (v.placeChain i ps).hist)

/-- Since `w₀` the buffers `bs` were staged under consecutive ids. -/
structure Minted (w₀ : World n (Synth η)) (bs : List Buf) (w : World n (Synth η)) : Prop where
  steps : Steps stagingActs w₀ w
  next : w.st.ext.synthBufId = w₀.st.ext.synthBufId + UInt32.ofNat bs.length
  bound : ∀ j b, bs[j]? = some b →
    w.st.bufs (w₀.st.ext.synthBufId + UInt32.ofNat j) = some b
  others : ∀ id, (∀ j < bs.length, id ≠ w₀.st.ext.synthBufId + UInt32.ofNat j) →
    w.st.bufs id = w₀.st.bufs id

/-- The id of the `j`-th buffer that is staged from `w₀` on. -/
def mintedId (w₀ : World n (Synth η)) (j : Nat) : UInt32 :=
  w₀.st.ext.synthBufId + UInt32.ofNat j

theorem Minted.start (w₀ : World n (Synth η)) : Minted w₀ [] w₀ where
  steps := ReflTransGen.refl
  next := by simp
  bound := by simp
  others := by simp

section Minted

variable {w₀ w : World n (Synth η)} {bs : List Buf}

theorem Minted.stage (h : Minted w₀ bs w) (hfew : bs.length < 16) (bytes : List UInt8)
    {len : UInt32} (hfit : ¬PoolFull w.st.bufAlloc len) :
    ((allocBuf bytes len).run w).1 = mintedId w₀ bs.length ∧
      Minted w₀ (bs ++ [⟨w.st.bufAlloc, len⟩]) ((allocBuf bytes len).run w).2 := by
  have hsteps := h.steps.trans (within_allocBuf (A := stagingActs) (by decide) (by decide)
    (by decide) (by decide) bytes len w)
  rw [allocBuf_fits bytes len w hfit] at hsteps ⊢
  refine ⟨h.next, hsteps, ?_, ?_, ?_⟩
  · simp only [World.bindBuf, World.setExt, World.stage_st, World.bump, h.next]
    rw [List.length_append, UInt32.ofNat_add, ← UInt32.add_assoc]
    rfl
  · intro j b hj
    have hlt : j < bs.length + 1 := by
      have := (List.getElem?_eq_some_iff.mp hj).1
      simpa using this
    simp only [World.bindBuf, World.setExt, World.stage_st, World.bump, h.next]
    rcases Nat.lt_or_ge j bs.length with hold | hnew
    · have hne : w₀.st.ext.synthBufId + UInt32.ofNat j ≠
          w₀.st.ext.synthBufId + UInt32.ofNat bs.length := by
        intro he
        have hnat := congrArg UInt32.toNat ((UInt32.add_right_inj _).mp he)
        rw [UInt32.toNat_ofNat', UInt32.toNat_ofNat'] at hnat
        omega
      rw [Function.update_of_ne hne]
      apply h.bound j b
      rwa [List.getElem?_append_left hold] at hj
    · have hlast : j = bs.length := by omega
      subst hlast
      have hb : b = ⟨w.st.bufAlloc, len⟩ := by simpa using hj.symm
      rw [Function.update_self, hb]
  · intro id hid
    rw [List.length_append, List.length_singleton] at hid
    simp only [World.bindBuf, World.setExt, World.stage_st, World.bump, h.next]
    rw [Function.update_of_ne (hid bs.length (by omega))]
    exact h.others id fun j hj => hid j (by omega)

/-- `id` names the buffer of a piece. -/
def Names {ξ : Type} (w : World n ξ) (id : UInt32) (p : Piece) : Prop :=
  w.st.bufs id = some ⟨p.addr, p.len⟩

theorem Minted.names (h : Minted w₀ bs w) (as : List Buf) (b : Buf) (cs : List Buf)
    (hbs : bs = as ++ [b] ++ cs) (deviceWritable : Bool) :
    Names w (mintedId w₀ as.length) ⟨b.gpa, b.len, deviceWritable⟩ := by
  apply h.bound
  simp [hbs]

end Minted

private theorem placeBuf_run (i : Fin n) {id : UInt32} {b : Buf} {w : World n ξ}
    (hb : w.st.bufs id = some b) (deviceWritable chainNext : Bool) :
    (placeBuf i id deviceWritable chainNext).run w =
      ((w.st.vqs i).nextDescIdx, w.place i b.gpa b.len deviceWritable chainNext) := by
  rw [placeBuf, run_bind, getState_run, hb]
  exact placeDesc_run i b.gpa b.len deviceWritable chainNext w

/-- Pieces placed with more to follow. -/
def World.placeOpen (i : Fin n) (ps : List Piece) (w : World n ξ) : World n ξ :=
  ps.foldl (fun w p => w.place i p.addr p.len p.deviceWritable true) w

private theorem placeOpen_append (i : Fin n) (ps qs : List Piece) (w : World n ξ) :
    w.placeOpen i (ps ++ qs) = (w.placeOpen i ps).placeOpen i qs :=
  List.foldl_append

private theorem placeOpen_bufs (i : Fin n) (ps : List Piece) (w : World n ξ) :
    (w.placeOpen i ps).st.bufs = w.st.bufs := by
  induction ps generalizing w with
  | nil => rfl
  | cons p ps ih => exact ih _

private theorem placeChain_concat (i : Fin n) (ps : List Piece) (p : Piece) (w : World n ξ) :
    w.placeChain i (ps ++ [p]) =
      (w.placeOpen i ps).place i p.addr p.len p.deviceWritable false := by
  induction ps generalizing w with
  | nil => rfl
  | cons q ps ih =>
      have hmore : (ps ++ [p]).isEmpty = false := by simp
      rw [List.cons_append, World.placeChain, hmore]
      exact ih _

section Placing

variable {i : Fin n} {chain : List Piece → Prop} {w₀ w : World n ξ} {ps : List Piece} {p : Piece}
  {id : UInt32}

private theorem placeBuf_open (hp : Names w id p) (chainNext : Bool) :
    (placeBuf i id p.deviceWritable chainNext).run (w.placeOpen i ps) =
      (((w.placeOpen i ps).st.vqs i).nextDescIdx,
        (w.placeOpen i ps).place i p.addr p.len p.deviceWritable chainNext) := by
  have hb : (w.placeOpen i ps).st.bufs id = some ⟨p.addr, p.len⟩ := by
    rw [placeOpen_bufs]
    exact hp
  exact placeBuf_run i hb p.deviceWritable chainNext

theorem Post.placeNext {α : Type} {f : UInt32 → Harness n ξ α} {Q : α → World n ξ → Prop}
    (hp : Names w id p) (hf : ∀ r, Post (f r) Q (w.placeOpen i (ps ++ [p]))) :
    Post (placeBuf i id p.deviceWritable true >>= f) Q (w.placeOpen i ps) := by
  rw [post_bind, Post, placeBuf_open hp]
  have hf' := hf ((w.placeOpen i ps).st.vqs i).nextDescIdx
  rw [placeOpen_append] at hf'
  exact hf'

theorem Post.placeNextIf {α : Type} {f : UInt32 → Harness n ξ α} {Q : α → World n ξ → Prop}
    {c : Prop} [Decidable c] (hp : c → Names w id p)
    (hf : ∀ r, Post (f r) Q (w.placeOpen i (ps ++ if c then [p] else []))) :
    Post ((if c then placeBuf i id p.deviceWritable true else pure 0) >>= f) Q
      (w.placeOpen i ps) := by
  by_cases hc : c
  · simp only [if_pos hc] at hf ⊢
    exact Post.placeNext (hp hc) hf
  · simp only [if_neg hc, List.append_nil] at hf ⊢
    exact hf 0

theorem Post.placeLast {Q : Unit → World n ξ → Prop} (hp : Names w id p)
    (hQ : Post (VirtioCrash.notify i) Q (w.placeChain i (ps ++ [p]))) :
    Post (placeBuf i id p.deviceWritable false >>= fun _ => VirtioCrash.notify i) Q
      (w.placeOpen i ps) := by
  rw [placeChain_concat] at hQ
  rw [post_bind, Post, placeBuf_open hp]
  exact hQ

theorem Post.placeTail {Q : Unit → World n ξ → Prop} {q : Piece} {id' : UInt32} {c : Prop}
    [Decidable c] (hp : Names w id p) (hq : c → Names w id' q)
    (hQ : Post (VirtioCrash.notify i) Q
      (w.placeChain i (ps ++ [p] ++ if c then [q] else []))) :
    Post (placeBuf i id p.deviceWritable (decide c) >>= fun _ =>
        (if c then placeBuf i id' q.deviceWritable false else pure 0) >>= fun _ =>
          VirtioCrash.notify i) Q (w.placeOpen i ps) := by
  by_cases hc : c
  · simp only [hc, decide_true, if_true] at hQ ⊢
    exact Post.placeNext hp fun _ => Post.placeLast (hq hc) hQ
  · simp only [hc, decide_false, if_false, List.append_nil] at hQ ⊢
    exact Post.placeLast hp hQ

theorem Outcome.notify (hs : Steps stagingActs w₀ w) (hchain : chain ps) :
    Post (VirtioCrash.notify i) (fun _ => Outcome i chain w₀) (w.placeChain i ps) :=
  .published w ps [.flushEvents] hs hchain rfl rfl (by simp [Event.isMemWrite, Event.isNotify]) rfl

end Placing

/-- The descriptors of a chain, in order. -/
def chainPlacements (i : Nat) : List Piece → List Placement
  | [] => []
  | p :: ps => ⟨i, p.addr, p.len, p.deviceWritable, !ps.isEmpty⟩ :: chainPlacements i ps

theorem chainPlacements_map (i : Nat) (ps : List Piece) :
    (chainPlacements i ps).map (fun q => (q.len, q.deviceWritable)) =
      ps.map fun p => (p.len, p.deviceWritable) := by
  induction ps with
  | nil => rfl
  | cons p ps ih => simp [chainPlacements, ih]

theorem placements_place (i : Fin n) (addr : UInt64) (len : UInt32)
    (deviceWritable chainNext : Bool) (w : World n ξ) :
    placements (w.place i addr len deviceWritable chainNext).hist =
      ⟨i, addr, len, deviceWritable, chainNext⟩ :: placements w.hist := by
  simp only [World.place, VqState.placeMarks]
  split
  · rfl
  · rfl

theorem placements_placeChain (i : Fin n) (ps : List Piece) (w : World n ξ) :
    placements (w.placeChain i ps).hist =
      (chainPlacements i ps).reverse ++ placements w.hist := by
  induction ps generalizing w with
  | nil => rfl
  | cons p ps ih =>
      rw [World.placeChain, ih, placements_place, chainPlacements, List.reverse_cons,
        List.append_assoc]
      rfl

/-- Placing a chain stores to the rings and rings no doorbell. -/
theorem placeChain_trace (i : Fin n) (ps : List Piece) (w : World n ξ) :
    ∃ cs, (w.placeChain i ps).trace = cs ++ w.trace ∧ ∀ e ∈ cs, e.isNotify = false := by
  induction ps generalizing w with
  | nil => exact ⟨[], rfl, by simp⟩
  | cons p ps ih =>
      obtain ⟨cs, htrace, hcs⟩ := ih (w.place i p.addr p.len p.deviceWritable (!ps.isEmpty))
      refine ⟨cs ++ (w.st.vqs i).placeEvents p.addr p.len p.deviceWritable (!ps.isEmpty), ?_, ?_⟩
      · rw [World.placeChain, htrace, List.append_assoc]
        rfl
      · intro e he
        rcases List.mem_append.mp he with hold | hnew
        · exact hcs e hold
        · rw [VqState.placeEvents] at hnew
          split at hnew
          · simp only [List.nil_append, List.mem_singleton] at hnew
            rw [hnew]
            rfl
          · simp only [List.cons_append, List.nil_append, List.mem_cons, List.not_mem_nil,
              or_false] at hnew
            rcases hnew with rfl | rfl | rfl
            · rfl
            · rfl
            · rfl

end VirtioCrash
