import VirtioCrash.Blk.Harness
import VirtioCrash.Harness.Containment

/-!
# Guest-memory containment of the blk harness

Thread A places at most 256 descriptors from a reset on, so its ring writes stay in the first pages
of its queues. Thread B's queues have address 0 until it dispatches a `Reset`, and nothing bounds
how many descriptors it places.
-/

namespace VirtioCrash.Blk

open StateProgram Relation BumpAllocator

/-- A placement finds queue addresses that a reset assigned, and indices that fit the region. -/
def PlacementSafe (w : World kMaxQueues Unit) : VirtioOp → Prop
  | .vqAddDesc d => ∀ h : d.vqIdx.toNat < kMaxQueues,
      (w.st.vqs ⟨d.vqIdx.toNat, h⟩).size ≠ 0 →
      (descTarget w.st.bufs d.bufId d.len d.exoticRegion).isSome = true →
      Mark.reset ∈ w.hist ∧
        IndicesFit d.vqIdx.toNat (w.st.vqs ⟨d.vqIdx.toNat, h⟩) d.chainNext
  | _ => True

instance (w : World kMaxQueues Unit) (op : VirtioOp) : Decidable (PlacementSafe w op) := by
  unfold PlacementSafe
  split
  · exact inferInstanceAs (Decidable (∀ _ : _ < _, _ → _ → _ ∧ _))
  · exact isTrue trivial

private theorem dispatch_contained (op : VirtioOp) (w : World kMaxQueues Unit)
    (hpool : PoolInv (kBufPoolBase kMaxQueues).toNat w) (h : Contained w.trace)
    (hplace : ∀ d, op = .vqAddDesc d → ∀ hi : d.vqIdx.toNat < kMaxQueues,
      (w.st.vqs ⟨d.vqIdx.toNat, hi⟩).size ≠ 0 →
      (descTarget w.st.bufs d.bufId d.len d.exoticRegion).isSome = true →
      AddressesReset w ∧ IndicesFit d.vqIdx.toNat (w.st.vqs ⟨d.vqIdx.toNat, hi⟩) d.chainNext) :
    Contained ((dispatch op).run w).2.trace := by
  have hlo : kPoolBase.toNat ≤ (kBufPoolBase kMaxQueues).toNat := by decide
  by_cases hreset : op = .reset
  · subst hreset
    exact (h.cons_of_not_write rfl).cons_of_not_write rfl
  · by_cases hdesc : ∃ d, op = .vqAddDesc d
    · obtain ⟨d, rfl⟩ := hdesc
      change Contained ((opVqAddDesc d).run w).2.trace
      rw [opVqAddDesc_run, World.addDesc]
      split
      · rename_i hi
        split
        · exact h
        · rename_i hsize
          split
          · exact h
          · rename_i gpa dlen htarget
            obtain ⟨haddr, hfit⟩ := hplace d rfl hi hsize (by rw [htarget]; rfl)
            exact contained_place (by decide) haddr hfit h
      · exact h
    · have hacts : Act.place ∉ op.acts := by
        cases op with
        | vqAddDesc d => exact absurd ⟨d, rfl⟩ hdesc
        | _ => simp [CommonOp.acts]
      exact (dispatchCommon_within handlers_sound op hreset w).contained hacts (by decide) hlo
        hpool h

private theorem dispatch_counters (op : VirtioOp) (w : World kMaxQueues Unit) {k : Nat}
    (h : ∀ i, (vqCounters w i).1.toNat ≤ k ∧ (vqCounters w i).2.toNat ≤ k) (i : Fin kMaxQueues) :
    (vqCounters ((dispatch op).run w).2 i).1.toNat ≤ k + 1 ∧
      (vqCounters ((dispatch op).run w).2 i).2.toNat ≤ k + 1 := by
  have hkept : (vqCounters w i).1.toNat ≤ k + 1 ∧ (vqCounters w i).2.toNat ≤ k + 1 :=
    ⟨Nat.le_succ_of_le (h i).1, Nat.le_succ_of_le (h i).2⟩
  by_cases hreset : op = .reset
  · subst hreset
    exact ⟨Nat.zero_le _, Nat.zero_le _⟩
  · by_cases hdesc : ∃ d, op = .vqAddDesc d
    · obtain ⟨d, rfl⟩ := hdesc
      change (vqCounters ((opVqAddDesc d).run w).2 i).1.toNat ≤ k + 1 ∧
        (vqCounters ((opVqAddDesc d).run w).2 i).2.toNat ≤ k + 1
      rw [opVqAddDesc_run, World.addDesc]
      split
      · rename_i hd
        split
        · exact hkept
        · split
          · exact hkept
          · by_cases hi : i = ⟨d.vqIdx.toNat, hd⟩
            · subst hi
              obtain ⟨hfirst, hsecond⟩ := h ⟨d.vqIdx.toNat, hd⟩
              simp only [vqCounters] at hfirst hsecond
              simp only [vqCounters, World.place, Function.update_self, VqState.advance]
              constructor
              · rw [UInt32.toNat_add, UInt32.toNat_one]
                omega
              · split
                · omega
                · rw [UInt32.toNat_add, UInt32.toNat_one]
                  omega
            · simpa only [vqCounters, World.place, Function.update_of_ne hi] using hkept
      · exact hkept
    · have hacts : Act.place ∉ op.acts := by
        cases op with
        | vqAddDesc d => exact absurd ⟨d, rfl⟩ hdesc
        | _ => simp [CommonOp.acts]
      have hsteps := dispatchCommon_within handlers_sound op hreset w
      have heq := hsteps.vqCounters_eq hacts i
      change (vqCounters ((dispatchCommon handlers op).run w).2 i).1.toNat ≤ k + 1 ∧
        (vqCounters ((dispatchCommon handlers op).run w).2 i).2.toNat ≤ k + 1
      rw [heq]
      exact hkept

private theorem dispatch_addresses (op : VirtioOp) (w : World kMaxQueues Unit)
    (h : Mark.reset ∈ w.hist → AddressesReset w) :
    Mark.reset ∈ ((dispatch op).run w).2.hist → AddressesReset ((dispatch op).run w).2 := by
  by_cases hreset : op = .reset
  · subst hreset
    exact fun _ => addressesReset_afterReset w id
  · refine (confined.dispatch_step op (fun h => hreset (Option.some.inj h)) w).invariant
      (fun v => Mark.reset ∈ v.hist → AddressesReset v) ?_ h
    intro a _ v v' hs hv hmem
    obtain ⟨ms, hms, hno⟩ := hs.hist_eq
    rw [hms, List.mem_append] at hmem
    have hold := hv (hmem.resolve_left hno)
    exact fun i => (hs.vqAddresses_eq i).trans (hold i)

structure MemoryContained (c : Conc kMaxQueues Unit VirtioOp) : Prop where
  trace : Contained c.trace
  ops : c.opsA.length ≤ kMaxOps
  poolA : PoolInv (kBufPoolBase kMaxQueues).toNat c.worldA
  addressesA : AddressesReset c.worldA
  countersA : ∀ i, (vqCounters c.worldA i).1.toNat ≤ kMaxOps - c.opsA.length ∧
    (vqCounters c.worldA i).2.toNat ≤ kMaxOps - c.opsA.length
  poolB : PoolInv (kBufPoolBase kMaxQueues).toNat c.worldB
  addressesB : Mark.reset ∈ c.b.hist → AddressesReset c.worldB

private theorem indicesFit_of_lt {q : VqState} {i : Nat} (hi : i < kMaxQueues) (chainNext : Bool)
    (hdesc : q.nextDescIdx.toNat < 256) (havail : q.nextAvailIdx.toNat < 256) :
    IndicesFit i q chainNext := by
  have hi' : i < 4 := hi
  have hd : (q.nextDescIdx % q.size).toNat ≤ q.nextDescIdx.toNat := by
    rw [UInt32.toNat_mod]
    exact Nat.mod_le _ _
  have ha : (q.nextAvailIdx % q.size).toNat ≤ q.nextAvailIdx.toNat := by
    rw [UInt32.toNat_mod]
    exact Nat.mod_le _ _
  constructor
  · rw [VqState.descIdx]
    omega
  · intro _
    omega

private theorem MemoryContained.afterA {c : Conc kMaxQueues Unit VirtioOp} {op : VirtioOp}
    {rest : List VirtioOp} (h : MemoryContained c) (hops : c.opsA = op :: rest) :
    MemoryContained (c.afterA ((dispatch op).run c.worldA).2 rest) := by
  have hlen : c.opsA.length = rest.length + 1 := by rw [hops, List.length_cons]
  have hmax := h.ops
  have hleft : kMaxOps - rest.length = kMaxOps - c.opsA.length + 1 := by omega
  constructor
  · refine dispatch_contained op c.worldA h.poolA h.trace ?_
    intro d _ hi _ _
    obtain ⟨hdesc, havail⟩ := h.countersA ⟨d.vqIdx.toNat, hi⟩
    have hlt : kMaxOps - c.opsA.length < 256 := by
      rw [kMaxOps]
      omega
    exact ⟨h.addressesA, indicesFit_of_lt hi _ (by simp only [vqCounters] at hdesc; omega)
      (by simp only [vqCounters] at havail; omega)⟩
  · change rest.length ≤ kMaxOps
    omega
  · exact confined.dispatch_keeps (poolInv_afterReset (by decide))
      (fun _ _ _ hs hw => hw.step hs) op c.worldA h.poolA
  · exact confined.dispatch_keeps addressesReset_afterReset
      (fun _ _ _ hs hw i => (hs.vqAddresses_eq i).trans (hw i)) op c.worldA h.addressesA
  · intro i
    change (vqCounters ((dispatch op).run c.worldA).2 i).1.toNat ≤ kMaxOps - rest.length ∧
      (vqCounters ((dispatch op).run c.worldA).2 i).2.toNat ≤ kMaxOps - rest.length
    rw [hleft]
    exact dispatch_counters op c.worldA h.countersA i
  · exact ⟨h.poolB.packed, h.poolB.bufs⟩
  · exact h.addressesB

private theorem MemoryContained.afterB {c : Conc kMaxQueues Unit VirtioOp} {op : VirtioOp}
    {rest : List VirtioOp} (h : MemoryContained c) (hop : PlacementSafe c.worldB op) :
    MemoryContained (c.afterB ((dispatch op).run c.worldB).2 rest) := by
  constructor
  · refine dispatch_contained op c.worldB h.poolB h.trace ?_
    rintro d rfl hi hsize htarget
    obtain ⟨hreset, hfit⟩ := hop hi hsize htarget
    exact ⟨h.addressesB hreset, hfit⟩
  · exact h.ops
  · exact ⟨h.poolA.packed, h.poolA.bufs⟩
  · exact h.addressesA
  · exact h.countersA
  · exact confined.dispatch_keeps (poolInv_afterReset (by decide))
      (fun _ _ _ hs hw => hw.step hs) op c.worldB h.poolB
  · exact dispatch_addresses op c.worldB h.addressesB

private theorem memoryContained_start (prog : Program VirtioOp) (dev : Device)
    (st : State kMaxQueues Unit) : MemoryContained (startConc target prog dev st) := by
  constructor
  · exact (contained_nil.cons_of_not_write rfl).cons_of_not_write rfl
  · simp only [startConc, List.length_take]
    omega
  · have hpool := poolInv_afterReset (n := kMaxQueues) (by decide) ⟨dev, [], st, []⟩ id
    exact ⟨hpool.packed, hpool.bufs⟩
  · exact addressesReset_afterReset ⟨dev, [], st, []⟩ id
  · exact fun _ => ⟨Nat.zero_le _, Nat.zero_le _⟩
  · exact poolInv_threadB (by decide) target _ _
  · intro hmem
    cases hmem

/-- While every placement of thread B is safe, all memory writes of both threads stay inside the
reserved DRAM region. -/
theorem memory_writes_contained (prog : Program VirtioOp) (dev : Device)
    (st : State kMaxQueues Unit) (turns : List Turn) (c : Conc kMaxQueues Unit VirtioOp)
    (hcond : AlwaysConc target prog dev st (OnB PlacementSafe) turns)
    (hrun : runConc target prog dev st turns = some c) : Contained c.trace := by
  have hinv : MemoryContained c := by
    refine runConc_invariant (fun _ _ => True) PlacementSafe MemoryContained
      ?_ ?_ ?_ (memoryContained_start prog dev st) ?_ hrun
    · intro c c' htrace ha hb hops hc
      constructor
      · rw [htrace]
        exact hc.trace
      · rw [hops]
        exact hc.ops
      · exact ⟨by simpa [Conc.worldA, ha] using hc.poolA.packed,
          by simpa [Conc.worldA, ha] using hc.poolA.bufs⟩
      · simpa [AddressesReset, vqAddresses, Conc.worldA, ha] using hc.addressesA
      · simpa [vqCounters, Conc.worldA, ha, hops] using hc.countersA
      · exact ⟨by simpa [Conc.worldB, hb] using hc.poolB.packed,
          by simpa [Conc.worldB, hb] using hc.poolB.bufs⟩
      · simpa [AddressesReset, vqAddresses, Conc.worldB, hb] using hc.addressesB
    · intro c op rest hops _ hc
      exact hc.afterA hops
    · intro c op rest _ hop hc
      exact hc.afterB hop
    · exact Run.Always.mono (fun c turn h => ⟨fun _ _ _ => trivial, h⟩) hcond
  exact hinv.trace

theorem memory_writes_contained_after_reset :
    ∃ c, runConc target
        ⟨[.vqSetup 0 8, .vqAddDesc ⟨0, 0, 4, true, false, 1⟩],
          [.reset, .vqSetup 1 8, .vqAddDesc ⟨1, 0, 4, true, false, 2⟩], 2⟩
        (fun _ _ => 8) constructed [.a, .test false, .b, .b, .b, .a] = some c ∧
      Contained c.trace :=
  ⟨_, rfl, memory_writes_contained
    ⟨[.vqSetup 0 8, .vqAddDesc ⟨0, 0, 4, true, false, 1⟩],
      [.reset, .vqSetup 1 8, .vqAddDesc ⟨1, 0, 4, true, false, 2⟩], 2⟩
    (fun _ _ => 8) constructed [.a, .test false, .b, .b, .b, .a] _ (by decide) rfl⟩

/-- Without a `Reset`, thread B sets a queue up and places a descriptor at address 0. -/
theorem memory_write_at_zero :
    ¬∀ (prog : Program VirtioOp) (dev : Device) (st : State kMaxQueues Unit) (turns : List Turn)
      (c : Conc kMaxQueues Unit VirtioOp), runConc target prog dev st turns = some c →
        Contained c.trace := by
  intro h
  have hin := h ⟨[], [.vqSetup 0 8, .vqAddDesc ⟨0, 0, 4, true, false, 1⟩], 1⟩ (fun _ _ => 8)
    constructed [.test false, .b, .b] _ rfl 0 (descBytes 0x09000000 4 kDescWrite 1) (by decide)
  exact absurd hin (by decide)

end VirtioCrash.Blk
