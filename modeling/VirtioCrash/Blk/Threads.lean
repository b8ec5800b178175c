import VirtioCrash.Blk.Harness

/-!
# The two threads of the blk harness

Thread A allocates at most 4112 bytes with each of its 256 ops, so it stays in the lower half of the
buffer pool; thread B starts in the upper half and stays there until it dispatches a `Reset`.
-/

namespace VirtioCrash.Blk

open StateProgram BumpAllocator Relation

private theorem dispatch_alloc (op : VirtioOp) (w : World kMaxQueues Unit) :
    let w' := ((dispatch op).run w).2
    (∃ bufId data, ∃ len : UInt32, op = .guestMemWrite bufId data ∧ len.toNat ≤ 4096 ∧
      ¬PoolFull w.st.bufAlloc len ∧ w'.st.bufAlloc = bumpNext w.st.bufAlloc len ∧
      allocRanges w'.hist = ⟨w.st.bufAlloc.toNat, len.toNat⟩ :: allocRanges w.hist) ∨
    (allocRanges w'.hist = allocRanges w.hist ∧
      (w'.st.bufAlloc = w.st.bufAlloc ∨ w'.st.bufAlloc = kBufPoolBase kMaxQueues)) := by
  intro w'
  by_cases hreset : op = .reset
  · subst hreset
    exact Or.inr ⟨rfl, Or.inr rfl⟩
  · by_cases hwrite : ∃ bufId data, op = .guestMemWrite bufId data
    · obtain ⟨bufId, data, rfl⟩ := hwrite
      have hrun : w' = ((opGuestMemWrite bufId data).run w).2 := rfl
      by_cases hfull : PoolFull w.st.bufAlloc (UInt32.ofNat (min data.length 4096))
      · rw [opGuestMemWrite_full bufId data w hfull] at hrun
        exact Or.inr (by rw [hrun]; exact ⟨rfl, Or.inl rfl⟩)
      · have hlen : (UInt32.ofNat (min data.length 4096)).toNat ≤ 4096 := by
          rw [UInt32.toNat_ofNat']
          omega
        rw [opGuestMemWrite_fits bufId data w rfl hfull, World.stage] at hrun
        refine Or.inl ⟨bufId, data, _, rfl, hlen, hfull, ?_, ?_⟩
        · rw [hrun]
          split <;> rfl
        · rw [hrun]
          split <;> rfl
    · have hacts : Act.bump ∉ op.acts := by
        cases op with
        | guestMemWrite bufId data => exact absurd ⟨bufId, data, rfl⟩ hwrite
        | _ => simp [CommonOp.acts]
      have hsteps := dispatchCommon_within handlers_sound op hreset w
      obtain ⟨hranges, hnext⟩ := hsteps.alloc_eq hacts
      exact Or.inr ⟨hranges, Or.inl hnext⟩

/-- Where thread A can have come with `left` of its ops left. -/
def allocLimit (left : Nat) : Nat := (kBufPoolBase kMaxQueues).toNat + 4112 * (kMaxOps - left)

private theorem allocLimit_le_mid (left : Nat) :
    allocLimit left ≤ (kBufPoolMid kMaxQueues).toNat := by
  have hbase : (kBufPoolBase kMaxQueues).toNat = 0x4700c000 := by decide
  have hmid : (kBufPoolMid kMaxQueues).toNat = 0x47786000 := by decide
  rw [allocLimit, hbase, hmid, kMaxOps]
  omega

/-- Thread A is in the lower half and thread B in the upper half of the pool. -/
structure PoolsApart (c : Conc kMaxQueues Unit VirtioOp) : Prop where
  ops : c.opsA.length ≤ kMaxOps
  nextA : c.a.st.bufAlloc.toNat ≤ allocLimit c.opsA.length
  rangesA : ∀ r ∈ allocRanges c.a.hist, r.stop ≤ allocLimit c.opsA.length
  rangesB : ∀ r ∈ allocRanges c.b.hist, (kBufPoolMid kMaxQueues).toNat ≤ r.start

/-- `GuestMemWrite` runs with the bump pointer in the upper half. -/
def AllocatesAbove (w : World kMaxQueues Unit) : VirtioOp → Prop
  | .guestMemWrite _ _ => kBufPoolMid kMaxQueues ≤ w.st.bufAlloc
  | _ => True

instance (w : World kMaxQueues Unit) (op : VirtioOp) : Decidable (AllocatesAbove w op) := by
  unfold AllocatesAbove
  split
  · exact inferInstanceAs (Decidable (_ ≤ _))
  · exact isTrue trivial

private theorem PoolsApart.afterA {c : Conc kMaxQueues Unit VirtioOp} {op : VirtioOp}
    {rest : List VirtioOp} (h : PoolsApart c) (hops : c.opsA = op :: rest) :
    PoolsApart (c.afterA ((dispatch op).run c.worldA).2 rest) := by
  have hlen : c.opsA.length = rest.length + 1 := by rw [hops, List.length_cons]
  have hlimit : allocLimit rest.length = allocLimit c.opsA.length + 4112 := by
    have := h.ops
    simp only [allocLimit]
    omega
  have hbase : (kBufPoolBase kMaxQueues).toNat ≤ allocLimit rest.length := Nat.le_add_right _ _
  have hnext := h.nextA
  have hops' := h.ops
  rcases dispatch_alloc op c.worldA with
    ⟨bufId, data, len, -, hsmall, hfull, hbump, hranges⟩ | ⟨hranges, hkept⟩
  · have hle : c.a.st.bufAlloc ≤ kBufPoolEnd := by
      rw [UInt64.le_iff_toNat_le, kBufPoolEnd_toNat]
      have hmid := allocLimit_le_mid c.opsA.length
      have hend : (kBufPoolMid kMaxQueues).toNat ≤ kBufPoolEndNat := by decide
      omega
    have hnew := bumpNext_toNat c.a.st.bufAlloc len hle
    constructor
    · change rest.length ≤ kMaxOps
      omega
    · change ((dispatch op).run c.worldA).2.st.bufAlloc.toNat ≤ allocLimit rest.length
      rw [hbump]
      change (bumpNext c.a.st.bufAlloc len).toNat ≤ _
      omega
    · change ∀ r ∈ allocRanges ((dispatch op).run c.worldA).2.hist, r.stop ≤ allocLimit rest.length
      rw [hranges]
      intro r hr
      rcases List.mem_cons.mp hr with rfl | hr
      · simp only [Range.stop]
        change c.a.st.bufAlloc.toNat + len.toNat ≤ _
        omega
      · have hold := h.rangesA r hr
        omega
    · exact h.rangesB
  · constructor
    · change rest.length ≤ kMaxOps
      omega
    · change ((dispatch op).run c.worldA).2.st.bufAlloc.toNat ≤ allocLimit rest.length
      rcases hkept with hkept | hkept
      · rw [hkept]
        change c.a.st.bufAlloc.toNat ≤ _
        omega
      · rw [hkept]
        exact hbase
    · change ∀ r ∈ allocRanges ((dispatch op).run c.worldA).2.hist, r.stop ≤ allocLimit rest.length
      rw [hranges]
      intro r hr
      have hold := h.rangesA r hr
      omega
    · exact h.rangesB

private theorem PoolsApart.afterB {c : Conc kMaxQueues Unit VirtioOp} {op : VirtioOp}
    {rest : List VirtioOp} (h : PoolsApart c) (hop : AllocatesAbove c.worldB op) :
    PoolsApart (c.afterB ((dispatch op).run c.worldB).2 rest) := by
  refine ⟨h.ops, h.nextA, h.rangesA, ?_⟩
  change ∀ r ∈ allocRanges ((dispatch op).run c.worldB).2.hist, _ ≤ r.start
  rcases dispatch_alloc op c.worldB with
    ⟨bufId, data, len, rfl, -, -, -, hranges⟩ | ⟨hranges, -⟩
  · rw [hranges]
    intro r hr
    rcases List.mem_cons.mp hr with rfl | hr
    · exact UInt64.le_iff_toNat_le.mp hop
    · exact h.rangesB r hr
  · rw [hranges]
    exact h.rangesB

private theorem poolsApart_start (prog : Program VirtioOp) (dev : Device)
    (st : State kMaxQueues Unit) : PoolsApart (startConc target prog dev st) := by
  constructor
  · simp only [startConc, List.length_take]
    omega
  · exact Nat.le_add_right _ _
  · simp [startConc, target, resetIterationState, resetCommon_run, World.afterReset,
      World.resetRings, World.emit, allocRanges]
  · simp [startConc, allocRanges]

/-- While thread B allocates with its bump pointer in the upper half, no range it hands out meets
one of thread A. -/
theorem guestMemWrite_ranges_disjoint (prog : Program VirtioOp) (dev : Device)
    (st : State kMaxQueues Unit) (turns : List Turn) (c : Conc kMaxQueues Unit VirtioOp)
    (hcond : AlwaysConc target prog dev st (OnB AllocatesAbove) turns)
    (hrun : runConc target prog dev st turns = some c) :
    ∀ r ∈ allocRanges c.a.hist, ∀ s ∈ allocRanges c.b.hist, r.Disjoint s := by
  have happart : PoolsApart c := by
    refine runConc_invariant (fun _ _ => True) AllocatesAbove PoolsApart
      ?_ ?_ ?_ (poolsApart_start prog dev st) ?_ hrun
    · intro c c' _ ha hb hops hc
      exact ⟨hops ▸ hc.ops, by rw [ha, hops]; exact hc.nextA, by rw [ha, hops]; exact hc.rangesA,
        by rw [hb]; exact hc.rangesB⟩
    · intro c op rest hops _ hc
      exact hc.afterA hops
    · intro c op rest _ hop hc
      exact hc.afterB hop
    · exact Run.Always.mono (fun c turn h => ⟨fun _ _ _ => trivial, h⟩) hcond
  intro r hr s hs
  have hlow := happart.rangesA r hr
  have hmid := allocLimit_le_mid c.opsA.length
  exact Range.disjoint_of_le (hlow.trans hmid) (happart.rangesB s hs)

theorem guestMemWrite_ranges_disjoint_one_each :
    ∃ c, runConc target ⟨[.guestMemWrite 1 [7]], [.guestMemWrite 1 [8], .reset], 1⟩ (fun _ _ => 8)
        constructed [.a, .test false, .b] = some c ∧
      ∀ r ∈ allocRanges c.a.hist, ∀ s ∈ allocRanges c.b.hist, r.Disjoint s :=
  ⟨_, rfl, guestMemWrite_ranges_disjoint
    ⟨[.guestMemWrite 1 [7]], [.guestMemWrite 1 [8], .reset], 1⟩ (fun _ _ => 8) constructed
    [.a, .test false, .b] _ (by decide) rfl⟩

/-- A `Reset` in thread B puts its bump pointer where thread A's is. -/
theorem guestMemWrite_ranges_overlap_after_reset :
    ¬∀ (prog : Program VirtioOp) (dev : Device) (st : State kMaxQueues Unit) (turns : List Turn)
      (c : Conc kMaxQueues Unit VirtioOp), runConc target prog dev st turns = some c →
        ∀ r ∈ allocRanges c.a.hist, ∀ s ∈ allocRanges c.b.hist, r.Disjoint s := by
  intro h
  have hover := h ⟨[.guestMemWrite 1 [7]], [.reset, .guestMemWrite 1 [8]], 1⟩ (fun _ _ => 8)
    constructed [.a, .test false, .b, .b] _ rfl ⟨0x4700c000, 1⟩ (by decide) ⟨0x4700c000, 1⟩
    (by decide)
  exact absurd hover (by unfold Range.Disjoint Range.stop; decide)

end VirtioCrash.Blk
