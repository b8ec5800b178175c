import VirtioCrash.Harness.Ids

/-!
# The failure value of `alloc_buf`

`alloc_buf` returns 0 when the pool is full, and it returns `synth_buf_id` otherwise. A caller takes
every 0 for a failure.
-/

namespace VirtioCrash

open StateProgram

variable {n : Nat} {η : Type}

/-- Neither the pool nor the map nor guest memory changed. -/
structure AllocatedNothing (w w' : World n (Synth η)) : Prop where
  bufAlloc : w'.st.bufAlloc = w.st.bufAlloc
  bufs : w'.st.bufs = w.st.bufs
  memory : w'.trace = w.trace

/-- A buffer to stage. -/
structure Staging where
  bytes : List UInt8
  len : UInt32
  deriving DecidableEq

/-- An `alloc_buf` call: the state before it, the id it returned and the state after it. -/
structure AllocCall (n : Nat) (η : Type) where
  before : World n (Synth η)
  id : UInt32
  after : World n (Synth η)

/-- The call returned 0 exactly if it allocated nothing. -/
def AllocCall.Faithful (c : AllocCall n η) : Prop := c.id = 0 ↔ AllocatedNothing c.before c.after

def allocCall (b : Staging) (w : World n (Synth η)) : AllocCall n η :=
  ⟨w, ((allocBuf b.bytes b.len).run w).1, ((allocBuf b.bytes b.len).run w).2⟩

/-- The calls that stage the buffers one after another; a 0 ends them. -/
def allocCalls : List Staging → World n (Synth η) → List (AllocCall n η)
  | [], _ => []
  | b :: bs, w =>
      let c := allocCall b w
      c :: if c.id = 0 then [] else allocCalls bs c.after

/-- A submission that stages its buffers and goes on with their ids. -/
def stageThen :
    List Staging → (List UInt32 → Harness n (Synth η) Unit) → Harness n (Synth η) Unit
  | [], k => k []
  | b :: bs, k => do
      let id ← allocBuf b.bytes b.len
      if id = 0 then return
      stageThen bs fun ids => k (id :: ids)

theorem stageThen_abandoned {bs : List Staging} {k : List UInt32 → Harness n (Synth η) Unit}
    {w : World n (Synth η)} {c : AllocCall n η} (hc : c ∈ allocCalls bs w) (hzero : c.id = 0) :
    ((stageThen bs k).run w).2 = c.after := by
  induction bs generalizing k w with
  | nil => cases hc
  | cons b bs ih =>
      rw [stageThen, run_bind]
      rcases List.mem_cons.mp hc with rfl | hlater
      · change ((allocBuf b.bytes b.len).run w).1 = 0 at hzero
        rw [if_pos hzero]
        rfl
      · split at hlater
        · cases hlater
        · rename_i hne
          change ¬((allocBuf b.bytes b.len).run w).1 = 0 at hne
          rw [if_neg hne]
          exact ih hlater

/-- A submission that stages these buffers first. -/
def Stages (bs : List Staging) (m : Harness n (Synth η) Unit) : Prop := ∃ k, m = stageThen bs k

theorem Stages.done (m : Harness n (Synth η) Unit) : Stages [] m :=
  ⟨fun _ => m, rfl⟩

theorem Stages.alloc {bs : List Staging} {f : UInt32 → Harness n (Synth η) Unit}
    (hf : ∀ id, Stages bs (f id)) (b : Staging) :
    Stages (b :: bs)
      (allocBuf b.bytes b.len >>= fun id => if id = 0 then pure () else f id) := by
  choose k hk using hf
  refine ⟨fun ids => k (ids.headD 0) ids.tail, ?_⟩
  simp only [stageThen, List.headD_cons, List.tail_cons, ← hk]

theorem Stages.allocIf {c : Prop} [Decidable c] {bs : List Staging}
    {f : UInt32 → Harness n (Synth η) Unit} (hf : ∀ id, Stages bs (f id)) (b : Staging) :
    Stages ((if c then [b] else []) ++ bs)
      ((if c then allocBuf b.bytes b.len else pure 0) >>= fun id =>
        if c ∧ id = 0 then pure () else f id) := by
  by_cases hc : c
  · simp only [hc, true_and, if_true]
    exact Stages.alloc hf b
  · simp only [hc, false_and, if_false]
    exact hf 0

section

variable {w : World n (Synth η)} {b : Staging} {bs : List Staging}

private theorem allocCall_full (hfull : PoolFull w.st.bufAlloc b.len) :
    (allocCall b w).Faithful := by
  rw [AllocCall.Faithful, allocCall, allocBuf_full b.bytes b.len w hfull]
  exact iff_of_true rfl ⟨rfl, rfl, rfl⟩

private theorem allocCall_fits (hroom : w.st.bufAlloc ≤ kBufPoolEnd)
    (hfit : ¬PoolFull w.st.bufAlloc b.len) :
    (allocCall b w).id = w.st.ext.synthBufId ∧
      (allocCall b w).after.st.ext.synthBufId = w.st.ext.synthBufId + 1 ∧
      (allocCall b w).after.st.bufAlloc ≤ kBufPoolEnd ∧
      ¬AllocatedNothing w (allocCall b w).after := by
  have hblock := bumpNext_block b.len hroom
  rw [allocCall, allocBuf_fits b.bytes b.len w hfit]
  refine ⟨rfl, ?_, ?_, ?_⟩
  · simp only [World.bindBuf, World.setExt, World.stage_st, World.bump]
  · simp only [World.bindBuf, World.setExt, World.stage_st, World.bump]
    exact bumpNext_le_end hroom hfit
  · rintro ⟨hsame, -, -⟩
    simp only [World.bindBuf, World.setExt, World.stage_st, World.bump] at hsame
    rw [hsame] at hblock
    omega

theorem allocCall_faithful_iff (hroom : w.st.bufAlloc ≤ kBufPoolEnd) :
    (allocCall b w).Faithful ↔ PoolFull w.st.bufAlloc b.len ∨ w.st.ext.synthBufId ≠ 0 := by
  by_cases hfull : PoolFull w.st.bufAlloc b.len
  · exact iff_of_true (allocCall_full hfull) (Or.inl hfull)
  · obtain ⟨hid, -, -, hsome⟩ := allocCall_fits hroom hfull
    have hbefore : (allocCall b w).before = w := rfl
    rw [AllocCall.Faithful, hid, hbefore, iff_false_right hsome, or_iff_right hfull]

private theorem allocCalls_faithful (hroom : w.st.bufAlloc ≤ kBufPoolEnd)
    (hids : NoZero w bs.length) : ∀ c ∈ allocCalls bs w, c.Faithful := by
  induction bs generalizing w with
  | nil => simp [allocCalls]
  | cons b bs ih =>
      have hid : w.st.ext.synthBufId ≠ 0 := by
        have hfirst := hids 0 (by simp)
        change w.st.ext.synthBufId + 0 ≠ 0 at hfirst
        rwa [UInt32.add_zero] at hfirst
      intro c hc
      rcases List.mem_cons.mp hc with rfl | hlater
      · exact (allocCall_faithful_iff hroom).mpr (Or.inr hid)
      · split at hlater
        · cases hlater
        · rename_i hne
          have hfit : ¬PoolFull w.st.bufAlloc b.len := by
            intro hfull
            apply hne
            rw [allocCall, allocBuf_full b.bytes b.len w hfull]
          obtain ⟨-, hnext, hroom', -⟩ := allocCall_fits hroom hfit
          apply ih hroom' _ c hlater
          intro j hj
          have hmore := hids (j + 1) (by simpa using hj)
          rw [mintedId, hnext, UInt32.add_assoc]
          rwa [mintedId, Nat.add_comm, UInt32.ofNat_add] at hmore

/-- The calls of a submission are faithful exactly when the first one is. -/
theorem allocCalls_faithful_iff {base : Nat} (h : IdsFrom base w) (hbase : base ≤ 2 ^ 31)
    (hfew : (b :: bs).length ≤ 0x47F0000) :
    (∀ c ∈ allocCalls (b :: bs) w, c.Faithful) ↔
      PoolFull w.st.bufAlloc b.len ∨ w.st.ext.synthBufId ≠ 0 := by
  constructor
  · intro hall
    exact (allocCall_faithful_iff h.room).mp (hall _ List.mem_cons_self)
  · rintro (hfull | hid)
    · have hzero : (allocCall b w).id = 0 := by
        rw [allocCall, allocBuf_full b.bytes b.len w hfull]
      intro c hc
      rw [allocCalls] at hc
      simp only [hzero, if_true, List.mem_singleton] at hc
      rw [hc]
      exact allocCall_full hfull
    · exact allocCalls_faithful h.room (h.noZero hbase hid hfew)

end

end VirtioCrash
