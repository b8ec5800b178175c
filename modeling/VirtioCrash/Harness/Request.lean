import VirtioCrash.Harness.Confined

/-!
# The request of a submission

What a harness function puts into its first descriptor, read off what it did: the address of the
first descriptor it placed, and the bytes it first stored there. The submissions that mint buffer
ids stage their request before everything else.
-/

namespace VirtioCrash

open StateProgram Relation

variable {n : Nat} {ξ η α : Type}

structure Placement where
  vqIdx : Nat
  addr : UInt64
  len : UInt32
  deviceWritable : Bool
  chainNext : Bool
  deriving DecidableEq

/-- The descriptors a history says were placed, newest first. -/
def placements (hist : List Mark) : List Placement :=
  hist.filterMap fun
    | .place vqIdx addr len deviceWritable chainNext =>
        some ⟨vqIdx, addr, len, deviceWritable, chainNext⟩
    | _ => none

/-- What was put in front of `old` to get `new`. -/
def newest {β : Type} (new old : List β) : List β := new.take (new.length - old.length)

theorem newest_append {β : Type} (bs old : List β) : newest (bs ++ old) old = bs := by
  rw [newest, List.length_append, Nat.add_sub_cancel, List.take_left]

/-- The bytes stored at an address, by the oldest of the events that store there. -/
def firstStored (addr : UInt64) (es : List Event) : Option (List UInt8) :=
  (es.filterMap fun
    | .memWrite gpa data => if gpa = addr then some data else none
    | _ => none).getLast?

/-- The bytes a run first stored where the first descriptor it placed points. -/
def firstBuffer (m : Harness n ξ α) (w : World n ξ) : Option (List UInt8) :=
  let w' := (m.run w).2
  match (newest (placements w'.hist) (placements w.hist)).getLast? with
  | none => none
  | some p => firstStored p.addr (newest w'.trace w.trace)

theorem firstBuffer_of_placements_eq {m : Harness n ξ α} {w : World n ξ}
    (h : placements (m.run w).2.hist = placements w.hist) : firstBuffer m w = none := by
  have hnew := newest_append [] (placements w.hist)
  rw [List.nil_append] at hnew
  simp [firstBuffer, h, hnew]

theorem firstBuffer_of_unchanged {m : Harness n ξ α} {w : World n ξ} (h : (m.run w).2 = w) :
    firstBuffer m w = none := by
  apply firstBuffer_of_placements_eq
  rw [h]

theorem firstBuffer_of_stored {m : Harness n ξ α} {w : World n ξ} {qs : List Placement}
    {p : Placement} {es : List Event} (pre : List Event) {bytes : List UInt8}
    (hplaced : placements (m.run w).2.hist = qs ++ p :: placements w.hist)
    (htrace : (m.run w).2.trace = es ++ .memWrite p.addr bytes :: (pre ++ w.trace))
    (hpre : firstStored p.addr pre = none) : firstBuffer m w = some bytes := by
  have hnew : newest (placements (m.run w).2.hist) (placements w.hist) = qs ++ [p] := by
    rw [hplaced, List.append_cons, newest_append]
  have hstored : newest (m.run w).2.trace w.trace = es ++ .memWrite p.addr bytes :: pre := by
    have hassoc : (m.run w).2.trace = (es ++ .memWrite p.addr bytes :: pre) ++ w.trace := by
      rw [htrace, List.append_assoc, List.cons_append]
    rw [hassoc, newest_append]
  rw [firstStored, List.getLast?_eq_none_iff] at hpre
  simp only [firstBuffer, hnew, hstored, List.getLast?_append, List.getLast?_singleton,
    Option.some_or, firstStored, List.filterMap_append, List.filterMap_cons, if_pos, hpre]

private theorem firstBuffer_congr {m p : Harness n ξ α} {w : World n ξ} (h : m.run w = p.run w) :
    firstBuffer m w = firstBuffer p w := by
  rw [firstBuffer, firstBuffer, h]

section Growth

variable {A : List Act} {w w' : World n ξ}

theorem Steps.placements_eq (hA : Act.place ∉ A) (hs : Steps A w w') :
    placements w'.hist = placements w.hist := by
  apply hs.invariant (fun v => placements v.hist = placements w.hist)
  · intro a ha v v' hstep hv
    cases hstep with
    | place i addr len deviceWritable chainNext v hsize => exact absurd ha hA
    | _ => exact hv
  · rfl

private theorem Steps.placements_grow (hs : Steps A w w') :
    ∃ ps, placements w'.hist = ps ++ placements w.hist := by
  apply hs.invariant (fun v => ∃ ps, placements v.hist = ps ++ placements w.hist)
  · rintro a ha v v' hstep ⟨ps, hps⟩
    obtain ⟨ms, hms, -⟩ := hstep.hist_eq
    refine ⟨placements ms ++ ps, ?_⟩
    rw [hms, List.append_assoc, ← hps]
    exact List.filterMap_append
  · exact ⟨[], rfl⟩

private theorem Step.trace_grow {a : Act} {v v' : World n ξ} (hs : Step a v v') :
    ∃ es, v'.trace = es ++ v.trace := by
  cases hs with
  | event e v he => exact ⟨[e], rfl⟩
  | writeBuf gpa len off data v halloc hfit => exact ⟨[_], rfl⟩
  | writeClamped gpa b data v hlen hb => exact ⟨[_], rfl⟩
  | place i addr len deviceWritable chainNext v hsize => exact ⟨_, rfl⟩
  | _ => exact ⟨[], rfl⟩

theorem Steps.trace_grow (hs : Steps A w w') : ∃ es, w'.trace = es ++ w.trace := by
  apply hs.invariant (fun v => ∃ es, v.trace = es ++ w.trace)
  · rintro a ha v v' hstep ⟨es, hes⟩
    obtain ⟨es', hes'⟩ := hstep.trace_grow
    exact ⟨es' ++ es, by rw [hes', hes, List.append_assoc]⟩
  · exact ⟨[], rfl⟩

end Growth

/-- The first descriptor placed on top of `ps` points to `addr`, if one was placed. -/
def PlacedFirst (ps : List Placement) (addr : UInt64) (w : World n ξ) : Prop :=
  placements w.hist = ps ∨ ∃ qs p, placements w.hist = qs ++ p :: ps ∧ p.addr = addr

private theorem PlacedFirst.steps {ps : List Placement} {addr : UInt64} {A : List Act}
    {w w' : World n ξ} {p : Placement} (hp : placements w.hist = p :: ps) (haddr : p.addr = addr)
    (hs : Steps A w w') : PlacedFirst ps addr w' := by
  obtain ⟨qs, hqs⟩ := hs.placements_grow
  exact Or.inr ⟨qs, p, by rw [hqs, hp], haddr⟩

private theorem firstBuffer_eq {m : Harness n ξ α} {w : World n ξ} (gpa : UInt64)
    {bytes : List UInt8}
    (htrace : ∃ es, ((m.run w).2).trace = es ++ .memWrite gpa bytes :: w.trace)
    (hplaced : PlacedFirst (placements w.hist) gpa (m.run w).2) {buf : List UInt8}
    (hbuf : firstBuffer m w = some buf) : buf = bytes := by
  obtain ⟨es, hes⟩ := htrace
  rcases hplaced with hnone | ⟨qs, p, hps, rfl⟩
  · rw [firstBuffer_of_placements_eq hnone] at hbuf
    cases hbuf
  · rw [firstBuffer_of_stored [] hps hes rfl] at hbuf
    exact (Option.some.inj hbuf).symm

/-- Between the staging of the request and its placement: at most `k` more ids were minted. -/
structure Staged (ps : List Placement) (id : UInt32) (b : Buf) (i : Fin n) (k : Nat)
    (w : World n (Synth η)) : Prop where
  setUp : SetUp i w
  placed : placements w.hist = ps
  bound : w.st.bufs id = some b
  minted : ∃ j, j ≤ k ∧ w.st.ext.synthBufId.toNat = (id.toNat + j + 1) % 4294967296

theorem World.stage_st (gpa : UInt64) (bytes : List UInt8) (len : UInt32) (w : World n ξ) :
    (w.stage gpa bytes len).st = w.st := by
  rw [World.stage]
  split
  · rfl
  · rfl

section Staged

variable {ps : List Placement} {id : UInt32} {b : Buf} {i : Fin n} {k : Nat}
  {w : World n (Synth η)}

private theorem Staged.weaken (h : Staged ps id b i k w) : Staged ps id b i (k + 1) w := by
  obtain ⟨j, hj, hid⟩ := h.minted
  exact ⟨h.setUp, h.placed, h.bound, j, by omega, hid⟩

theorem Staged.allocBuf (bytes : List UInt8) (len : UInt32) (h : Staged ps id b i k w)
    (hk : k + 1 < 4294967296) :
    Post (allocBuf bytes len) (fun _ => Staged ps id b i (k + 1)) w := by
  have hsteps := within_allocBuf (A := [.bump, .writeBuf, .setExt, .bindBuf]) (by decide)
    (by decide) (by decide) (by decide) bytes len w
  by_cases hfull : PoolFull w.st.bufAlloc len
  · rw [Post, allocBuf_full bytes len w hfull]
    exact h.weaken
  · have hset := hsteps.setUp h.setUp
    have hplaced := (hsteps.placements_eq (by decide)).trans h.placed
    rw [allocBuf_fits bytes len w hfull] at hset hplaced
    rw [Post, allocBuf_fits bytes len w hfull]
    obtain ⟨j, hj, hid⟩ := h.minted
    have hlt := id.toNat_lt
    have hne : id ≠ w.st.ext.synthBufId := by
      intro he
      have := congrArg UInt32.toNat he
      omega
    refine ⟨hset, hplaced, ?_, j + 1, by omega, ?_⟩
    · simp only [World.bindBuf, World.setExt, World.stage_st, World.bump, Function.update_of_ne hne]
      exact h.bound
    · simp only [World.bindBuf, World.setExt, World.stage_st, World.bump, UInt32.toNat_add, hid]
      simp only [UInt32.reduceToNat]
      omega

theorem Staged.allocIf {c : Prop} [Decidable c] (bytes : List UInt8) (len : UInt32)
    (h : Staged ps id b i k w) (hk : k + 1 < 4294967296) :
    Post (if c then VirtioCrash.allocBuf bytes len else pure 0)
      (fun _ => Staged ps id b i (k + 1)) w := by
  apply Post.ite
  · intro _
    exact h.allocBuf bytes len hk
  · intro _
    exact h.weaken

theorem Staged.placedFirst (h : Staged ps id b i k w) : PlacedFirst ps b.gpa w :=
  Or.inl h.placed

theorem Staged.place {f : UInt32 → Harness n (Synth η) Unit} (h : Staged ps id b i k w)
    (deviceWritable chainNext : Bool) {A : List Act} (hf : ∀ r, Submits A i (f r)) :
    Post (placeBuf i id deviceWritable chainNext >>= f) (fun _ => PlacedFirst ps b.gpa) w := by
  have hrun : (placeBuf i id deviceWritable chainNext).run w =
      ((w.st.vqs i).nextDescIdx, w.place i b.gpa b.len deviceWritable chainNext) := by
    rw [placeBuf, run_bind, getState_run, h.bound]
    exact placeDesc_run i b.gpa b.len deviceWritable chainNext w
  have hsize := h.setUp
  have hset : SetUp i (w.place i b.gpa b.len deviceWritable chainNext) :=
    (Steps.single (A := [.place]) (by decide) (Step.place i _ _ _ _ w hsize)).setUp hsize
  have hplaced : placements (w.place i b.gpa b.len deviceWritable chainNext).hist =
      ⟨i, b.gpa, b.len, deviceWritable, chainNext⟩ :: ps := by
    rw [← h.placed]
    simp [World.place, VqState.placeMarks, placements, show (w.st.vqs i).size ≠ 0 from hsize]
  rw [post_bind, Post, hrun]
  exact PlacedFirst.steps hplaced rfl (hf _ _ hset)

private theorem allocBuf_staged (bytes : List UInt8) {len : UInt32} (hset : SetUp i w)
    (hfit : ¬PoolFull w.st.bufAlloc len) :
    Staged (placements w.hist) w.st.ext.synthBufId ⟨w.st.bufAlloc, len⟩ i 0
      ((allocBuf bytes len).run w).2 := by
  have hsteps := within_allocBuf (A := [.bump, .writeBuf, .setExt, .bindBuf]) (by decide)
    (by decide) (by decide) (by decide) bytes len w
  have hset' := hsteps.setUp hset
  have hplaced := hsteps.placements_eq (by decide)
  rw [allocBuf_fits bytes len w hfit] at hset' hplaced ⊢
  refine ⟨hset', hplaced, ?_, 0, le_refl 0, ?_⟩
  · simp [World.bindBuf]
  · simp only [World.bindBuf, World.setExt, World.stage_st, World.bump, UInt32.toNat_add]
    rfl

end Staged

/-- What a submission that stages `bytes` first puts into its first descriptor. -/
theorem firstBuffer_request (i : Fin n) (ring : State n (Synth η) → Prop) [DecidablePred ring]
    (bytes : List UInt8) (len : UInt32) (rest : UInt32 → Harness n (Synth η) Unit)
    (hlen : bytes.length = len.toNat) (hne : len ≠ 0) (hnone : ∀ w, (rest 0).run w = ((), w))
    (hsub : ∀ id, Submits typedActs i (rest id))
    (hrest : ∀ {ps : List Placement} {id : UInt32} {b : Buf} {w : World n (Synth η)},
      Staged ps id b i 0 w → Post (rest id) (fun _ => PlacedFirst ps b.gpa) w)
    (w : World n (Synth η)) {buf : List UInt8}
    (hbuf : firstBuffer (getState >>= fun s => if (s.vqs i).size = 0 then pure () else
      if ring s then pure () else allocBuf bytes len >>= rest) w = some buf) : buf = bytes := by
  by_cases hsize : (w.st.vqs i).size = 0
  · rw [firstBuffer_of_unchanged (by rw [run_bind, getState_run, if_pos hsize]; rfl)] at hbuf
    cases hbuf
  by_cases hring : ring w.st
  · rw [firstBuffer_of_unchanged
      (by rw [run_bind, getState_run, if_neg hsize, if_pos hring]; rfl)] at hbuf
    cases hbuf
  rw [firstBuffer_congr (p := allocBuf bytes len >>= rest)
    (by rw [run_bind, getState_run, if_neg hsize, if_neg hring])] at hbuf
  by_cases hfull : PoolFull w.st.bufAlloc len
  · rw [firstBuffer_of_unchanged (by rw [run_bind, allocBuf_full _ _ _ hfull, hnone])] at hbuf
    cases hbuf
  · have hstaged := allocBuf_staged bytes (i := i) hsize hfull
    have hrun : (allocBuf bytes len >>= rest).run w =
        (rest w.st.ext.synthBufId).run ((allocBuf bytes len).run w).2 := by
      rw [run_bind, allocBuf_fits bytes len w hfull]
    have htrace : ((allocBuf bytes len).run w).2.trace =
        .memWrite w.st.bufAlloc bytes :: w.trace := by
      have htake : bytes.take len.toNat = bytes := List.take_of_length_le hlen.le
      rw [allocBuf_fits bytes len w hfull, World.stage, if_pos hne, htake]
      rfl
    obtain ⟨es, hes⟩ := (hsub w.st.ext.synthBufId _ hstaged.setUp).trace_grow
    apply firstBuffer_eq w.st.bufAlloc _ _ hbuf
    · exact ⟨es, by rw [hrun, hes, htrace]⟩
    · rw [hrun]
      exact hrest hstaged

end VirtioCrash
