import VirtioCrash.Harness.Steps

/-!
# The buffer-pool invariant

Everything the bump allocator handed out since the last reset is packed between the start of the
pool and `buf_alloc`, and every staged buffer is one of the ranges handed out. The allocating
functions stay within the steps; the steps keep the invariant.
-/

namespace VirtioCrash

open StateProgram BumpAllocator Relation

variable {n : Nat} {ξ η : Type}

def kBufPoolEndNat : Nat := 0x47F00000

theorem kBufPoolEnd_toNat : kBufPoolEnd.toNat = kBufPoolEndNat := rfl

/-- The ranges of the allocations in a history. -/
def allocRanges (hist : List Mark) : List Range :=
  hist.filterMap fun
    | .alloc gpa len => some ⟨gpa.toNat, len.toNat⟩
    | _ => none

theorem mem_allocRanges {hist : List Mark} {r : Range} :
    r ∈ allocRanges hist ↔ ∃ gpa len, .alloc gpa len ∈ hist ∧ r = ⟨gpa.toNat, len.toNat⟩ := by
  rw [allocRanges, List.mem_filterMap]
  constructor
  · rintro ⟨m, hm, hr⟩
    cases m with
    | alloc gpa len => exact ⟨gpa, len, hm, (Option.some.inj hr).symm⟩
    | reset => cases hr
    | place _ _ _ _ _ => cases hr
    | submit _ _ => cases hr
    | divByZero => cases hr
  · rintro ⟨gpa, len, hm, rfl⟩
    exact ⟨_, hm, rfl⟩

/-- The allocator of a pool that starts at `lo`. -/
structure PoolInv (lo : Nat) (w : World n ξ) : Prop where
  packed : Packed 16 lo kBufPoolEndNat w.st.bufAlloc.toNat (allocRanges (sinceReset w.hist))
  bufs : ∀ id b, w.st.bufs id = some b → .alloc b.gpa b.len ∈ sinceReset w.hist

section PoolInv

variable {lo : Nat} {w : World n ξ}

theorem PoolInv.le_end (h : PoolInv lo w) : w.st.bufAlloc ≤ kBufPoolEnd :=
  UInt64.le_iff_toNat_le.mpr h.packed.next_le

private theorem PoolInv.of_eq {w' : World n ξ} (h : PoolInv lo w)
    (hnext : w'.st.bufAlloc = w.st.bufAlloc) (hbufs : w'.st.bufs = w.st.bufs) (ms : List Mark)
    (hhist : w'.hist = ms ++ w.hist) (hno : Mark.reset ∉ ms) (halloc : allocRanges ms = []) :
    PoolInv lo w' := by
  have hsince : sinceReset w'.hist = ms ++ sinceReset w.hist := by
    rw [hhist, sinceReset_append hno]
  have hranges : allocRanges (sinceReset w'.hist) = allocRanges (sinceReset w.hist) := by
    rw [hsince, allocRanges, List.filterMap_append]
    change allocRanges ms ++ _ = _
    rw [halloc]
    rfl
  constructor
  · rw [hnext, hranges]
    exact h.packed
  · intro id b hb
    rw [hbufs] at hb
    rw [hsince]
    exact List.mem_append_right ms (h.bufs id b hb)

private theorem PoolInv.bump {len : UInt32} (h : PoolInv lo w)
    (hfit : ¬PoolFull w.st.bufAlloc len) : PoolInv lo (w.bump len) := by
  have hle := h.le_end
  have hroom := (not_poolFull_iff _ _ hle).mp hfit
  have hnext := bumpNext_toNat w.st.bufAlloc len hle
  have hsince : sinceReset (w.bump len).hist =
      .alloc w.st.bufAlloc len :: sinceReset w.hist := sinceReset_cons w.hist (by simp)
  have haligned := h.packed.next_aligned
  constructor
  · rw [hsince]
    change Packed 16 lo kBufPoolEndNat (bumpNext w.st.bufAlloc len).toNat
      (⟨w.st.bufAlloc.toNat, len.toNat⟩ :: allocRanges (sinceReset w.hist))
    rw [hnext]
    refine h.packed.bump ?_ ?_ (Nat.dvd_mul_left 16 _)
    · omega
    · simp only [kBufPoolEndNat]
      omega
  · intro id b hb
    rw [hsince]
    exact List.mem_cons_of_mem _ (h.bufs id b hb)

private theorem PoolInv.bindBuf {id : UInt32} {b : Buf} (h : PoolInv lo w)
    (halloc : .alloc b.gpa b.len ∈ sinceReset w.hist) : PoolInv lo (w.bindBuf id b) := by
  constructor
  · exact h.packed
  · intro id' b' hb'
    by_cases hid : id' = id
    · have hbb : b' = b := by
        have : some b = some b' := by
          simpa [World.bindBuf, hid] using hb'
        exact (Option.some.inj this).symm
      rw [hbb]
      exact halloc
    · have hold : w.st.bufs id' = some b' := by
        simpa [World.bindBuf, hid] using hb'
      exact h.bufs id' b' hold

theorem PoolInv.step {a : Act} {w' : World n ξ} (hs : Step a w w') (h : PoolInv lo w) :
    PoolInv lo w' := by
  cases hs with
  | event e w he => exact h.of_eq rfl rfl [] rfl (by simp) rfl
  | writeBuf gpa len off data w halloc hfit => exact h.of_eq rfl rfl [] rfl (by simp) rfl
  | writeClamped gpa a data w hlen ha => exact h.of_eq rfl rfl [] rfl (by simp) rfl
  | place i addr len deviceWritable chainNext w hsize =>
      refine h.of_eq rfl rfl _ rfl ?_ ?_
      · simp [VqState.placeMarks, hsize]
      · simp [VqState.placeMarks, hsize, allocRanges]
  | setSize i requestedSize max w hmax => exact h.of_eq rfl rfl [] rfl (by simp) rfl
  | bump len w hfit => exact h.bump hfit
  | bindBuf id b w halloc => exact h.bindBuf halloc
  | setExt f w => exact h.of_eq rfl rfl [] rfl (by simp) rfl
  | submit vqIdx req w =>
      exact h.of_eq rfl rfl [.submit vqIdx req] rfl (by simp) rfl

theorem PoolInv.steps {A : List Act} {w' : World n ξ} (hs : Steps A w w') (h : PoolInv lo w) :
    PoolInv lo w' :=
  hs.invariant (PoolInv lo) (fun _ _ _ _ hstep hw => hw.step hstep) h

end PoolInv

theorem PoolInv.alloc_inside {lo : Nat} {w : World n ξ} (h : PoolInv lo w) {gpa : UInt64}
    {len off : UInt32} {k : Nat} (halloc : .alloc gpa len ∈ sinceReset w.hist)
    (hfit : off.toNat + k ≤ len.toNat) :
    lo ≤ (gpa + off.toUInt64).toNat ∧ (gpa + off.toUInt64).toNat + k ≤ kBufPoolEndNat := by
  have hmem : (⟨gpa.toNat, len.toNat⟩ : Range) ∈ allocRanges (sinceReset w.hist) :=
    mem_allocRanges.mpr ⟨gpa, len, halloc, rfl⟩
  obtain ⟨hge, hstop⟩ := h.packed.inside _ hmem
  have hend := h.packed.next_le
  simp only [Range.stop] at hstop
  have hsum : (gpa + off.toUInt64).toNat = gpa.toNat + off.toNat := by
    rw [UInt64.toNat_add, UInt32.toNat_toUInt64, Nat.mod_eq_of_lt]
    rw [kBufPoolEndNat] at hend
    omega
  rw [hsum]
  change lo ≤ gpa.toNat at hge
  omega

theorem Step.alloc_eq {a : Act} (ha : a ≠ .bump) {w w' : World n ξ} (hs : Step a w w') :
    allocRanges w'.hist = allocRanges w.hist ∧ w'.st.bufAlloc = w.st.bufAlloc := by
  cases hs with
  | bump len w hfit => exact absurd rfl ha
  | place i addr len deviceWritable chainNext w hsize =>
      refine ⟨?_, rfl⟩
      simp [World.place, VqState.placeMarks, hsize, allocRanges]
  | event e w he => exact ⟨rfl, rfl⟩
  | writeBuf gpa len off data w halloc hfit => exact ⟨rfl, rfl⟩
  | writeClamped gpa a data w hlen ha => exact ⟨rfl, rfl⟩
  | setSize i requestedSize max w hmax => exact ⟨rfl, rfl⟩
  | bindBuf id b w halloc => exact ⟨rfl, rfl⟩
  | setExt f w => exact ⟨rfl, rfl⟩
  | submit vqIdx req w => exact ⟨rfl, rfl⟩

theorem Steps.alloc_eq {A : List Act} (hA : Act.bump ∉ A) {w w' : World n ξ}
    (hs : Steps A w w') :
    allocRanges w'.hist = allocRanges w.hist ∧ w'.st.bufAlloc = w.st.bufAlloc := by
  refine hs.invariant (fun v => allocRanges v.hist = allocRanges w.hist ∧
    v.st.bufAlloc = w.st.bufAlloc) ?_ ⟨rfl, rfl⟩
  intro a ha v v' hstep hv
  have hne : a ≠ .bump := fun he => hA (he ▸ ha)
  obtain ⟨hranges, hnext⟩ := hstep.alloc_eq hne
  exact ⟨hranges.trans hv.1, hnext.trans hv.2⟩

/-- The bytes of a buffer are stored, unless there are none. -/
def World.stage (gpa : UInt64) (bytes : List UInt8) (len : UInt32) (w : World n ξ) : World n ξ :=
  if len ≠ 0 then w.emit (.memWrite gpa (bytes.take len.toNat)) else w

theorem allocGpa_fits (len : UInt32) (w : World n ξ) (h : ¬PoolFull w.st.bufAlloc len) :
    (allocGpa len).run w = (w.st.bufAlloc, w.bump len) := by
  simp [allocGpa, getState, h, bump]
  rfl

theorem opGuestMemWrite_fits (bufId : UInt32) (data : List UInt8) (w : World n ξ) {len : UInt32}
    (hlen : len = UInt32.ofNat (min data.length 4096)) (h : ¬PoolFull w.st.bufAlloc len) :
    (opGuestMemWrite bufId data).run w =
      ((), ((w.bump len).stage w.st.bufAlloc data len).bindBuf bufId ⟨w.st.bufAlloc, len⟩) := by
  rcases eq_or_ne len 0 with rfl | hne
  · simp [opGuestMemWrite, getState, h, bump, bindBuf, World.stage, ← hlen]
    rfl
  · simp [opGuestMemWrite, getState, h, bump, bindBuf, World.stage, ← hlen, hne, qtestMemwrite,
      emit]
    rfl

theorem allocBuf_fits (bytes : List UInt8) (len : UInt32) (w : World n (Synth η))
    (h : ¬PoolFull w.st.bufAlloc len) :
    (allocBuf bytes len).run w =
      (w.st.ext.synthBufId,
        (((w.bump len).stage w.st.bufAlloc bytes len).setExt fun e =>
          { e with synthBufId := e.synthBufId + 1 }).bindBuf w.st.ext.synthBufId
            ⟨w.st.bufAlloc, len⟩) := by
  rcases eq_or_ne len 0 with rfl | hne
  · simp [allocBuf, getState, h, bump, bindBuf, modifyExt, World.stage]
    rfl
  · simp [allocBuf, getState, h, bump, bindBuf, modifyExt, World.stage, hne, qtestMemwrite, emit]
    rfl

variable {A : List Act}

theorem mem_sinceReset_bump (len : UInt32) (w : World n ξ) :
    .alloc w.st.bufAlloc len ∈ sinceReset (w.bump len).hist := by
  change _ ∈ sinceReset (.alloc w.st.bufAlloc len :: w.hist)
  rw [sinceReset_cons _ (by simp)]
  exact List.mem_cons_self

private theorem steps_stage (hA : Act.writeBuf ∈ A) (gpa : UInt64) (bytes : List UInt8)
    (len : UInt32) (w : World n ξ) (halloc : .alloc gpa len ∈ sinceReset w.hist) :
    Steps A w (w.stage gpa bytes len) := by
  rw [World.stage]
  split
  · have hfit : (0 : UInt32).toNat + (bytes.take len.toNat).length ≤ len.toNat := by
      simp
    have hs := Step.writeBuf gpa len 0 (bytes.take len.toNat) w halloc hfit
    rw [show (0 : UInt32).toUInt64 = 0 from rfl, UInt64.add_zero] at hs
    exact Steps.single hA hs
  · exact ReflTransGen.refl

theorem within_allocGpa (hA : Act.bump ∈ A) (len : UInt32) :
    Within (Steps A) (allocGpa len : Harness n ξ UInt64) := by
  intro w
  by_cases h : PoolFull w.st.bufAlloc len
  · rw [allocGpa_full len w h]
    exact ReflTransGen.refl
  · rw [allocGpa_fits len w h]
    exact Steps.single hA (Step.bump len w h)

/-- What `alloc_gpa` returns is 0 or a range it just handed out. -/
theorem allocGpa_post (len : UInt32) (w : World n ξ) :
    ((allocGpa len).run w).1 = 0 ∨
      .alloc ((allocGpa len).run w).1 len ∈ sinceReset ((allocGpa len).run w).2.hist := by
  by_cases h : PoolFull w.st.bufAlloc len
  · left
    rw [allocGpa_full len w h]
  · right
    rw [allocGpa_fits len w h]
    exact mem_sinceReset_bump len w

theorem within_opGuestMemWrite (hb : Act.bump ∈ A) (hw : Act.writeBuf ∈ A) (hi : Act.bindBuf ∈ A)
    (bufId : UInt32) (data : List UInt8) :
    Within (Steps A) (opGuestMemWrite bufId data : Harness n ξ Unit) := by
  intro w
  by_cases h : PoolFull w.st.bufAlloc (UInt32.ofNat (min data.length 4096))
  · rw [opGuestMemWrite_full bufId data w h]
    exact ReflTransGen.refl
  · rw [opGuestMemWrite_fits bufId data w rfl h]
    have halloc := mem_sinceReset_bump (UInt32.ofNat (min data.length 4096)) w
    have hbump := Steps.single hb (Step.bump _ w h)
    have hstage := steps_stage hw w.st.bufAlloc data _ _ halloc
    have hbind := Steps.single hi (Step.bindBuf bufId ⟨w.st.bufAlloc, _⟩ _
      (hstage.mem_sinceReset halloc))
    exact (hbump.trans hstage).trans hbind

theorem within_allocBuf (hb : Act.bump ∈ A) (hw : Act.writeBuf ∈ A) (hx : Act.setExt ∈ A)
    (hi : Act.bindBuf ∈ A) (bytes : List UInt8) (len : UInt32) :
    Within (Steps A) (allocBuf bytes len : Harness n (Synth η) UInt32) := by
  intro w
  by_cases h : PoolFull w.st.bufAlloc len
  · rw [allocBuf_full bytes len w h]
    exact ReflTransGen.refl
  · rw [allocBuf_fits bytes len w h]
    have halloc := mem_sinceReset_bump len w
    have hbump := Steps.single hb (Step.bump _ w h)
    have hstage := steps_stage hw w.st.bufAlloc bytes _ _ halloc
    have hext := Steps.single hx (Step.setExt (fun e : Synth η =>
      { e with synthBufId := e.synthBufId + 1 }) ((w.bump len).stage w.st.bufAlloc bytes len))
    have hbind := Steps.single hi (Step.bindBuf w.st.ext.synthBufId ⟨w.st.bufAlloc, len⟩ _
      (hext.mem_sinceReset (hstage.mem_sinceReset halloc)))
    exact ((hbump.trans hstage).trans hext).trans hbind

end VirtioCrash
