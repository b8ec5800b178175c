import VirtioCrash.Harness.Chain
import VirtioCrash.Targets.QueueLayout

/-!
# The chains the targets publish

Every target publishes chains by `op_vq_add_desc` messages, all but blk also by `place_desc` from
their submissions. The ring entry is the counter of the last placement, so a device can walk chains
of one descriptor only, and these while the counter is its own table index.
-/

namespace VirtioCrash

open StateProgram Bytes SplitRing

variable {n : Nat} {ξ Op : Type}

/-- A chain that a queue can hold. -/
structure ChainFits (q : VqState) (ps : List Piece) : Prop where
  pow2 : ∃ e, q.size.toNat = 2 ^ e
  nonempty : ps ≠ []
  room : ps.length ≤ q.size.toNat

private theorem ChainFits.size_ne_zero {q : VqState} {ps : List Piece} (h : ChainFits q ps) :
    q.size ≠ 0 := by
  obtain ⟨e, he⟩ := h.pow2
  intro hz
  rw [hz, UInt32.toNat_zero] at he
  exact absurd he.symm (Nat.two_pow_pos e).ne'

private theorem Target.Confined.chainFits {t : Target n ξ Op} {asCommon : Op → Option CommonOp}
    (ht : t.Confined asCommon) (ops : List Op) (w : World n ξ) (i : Fin n) {ps : List Piece}
    (hsize : ((runFromReset t ops w).st.vqs i).size ≠ 0) (hne : ps ≠ [])
    (hroom : ps.length ≤ ((runFromReset t ops w).st.vqs i).size.toNat) :
    ChainFits ((runFromReset t ops w).st.vqs i) ps where
  pow2 := (ht.sizesPow2 ops w i).resolve_left hsize
  nonempty := hne
  room := hroom

/-- A chain of one descriptor whose counter is its own table index and whose publication leaves it
as it was placed. -/
def OneHarmless (q : VqState) (ps : List Piece) : Prop :=
  ∃ p, ps = [p] ∧ q.nextDescIdx.toNat % 2 ^ 16 = q.nextDescIdx.toNat % q.size.toNat ∧
    q.PublishHarmless p

private theorem publishHarmless_of_areas {q : VqState} (hareas : q.availGpa = q.descGpa + 0x1000)
    (hpos : q.size ≠ 0) (hsize : q.size.toNat ≤ 256) (p : Piece) : q.PublishHarmless p := by
  have hsizePos : 0 < q.size.toNat := by
    rcases Nat.eq_zero_or_pos q.size.toNat with hz | h
    · exact absurd (UInt32.toNat_inj.mp hz) hpos
    · exact h
  have hslot : (q.descIdx * 16).toUInt64.toNat ≤ 255 * 16 := by
    have hidx : q.nextDescIdx.toNat % q.size.toNat < 256 := (Nat.mod_lt _ hsizePos).trans_le hsize
    rw [UInt32.toNat_toUInt64, UInt32.toNat_mul, VqState.descIdx, UInt32.toNat_mod]
    simp only [UInt32.reduceToNat]
    omega
  have hentry : (q.nextAvailIdx % q.size * 2).toUInt64.toNat ≤ 255 * 2 := by
    have hidx : q.nextAvailIdx.toNat % q.size.toNat < 256 := (Nat.mod_lt _ hsizePos).trans_le hsize
    rw [UInt32.toNat_toUInt64, UInt32.toNat_mul, UInt32.toNat_mod]
    simp only [UInt32.reduceToNat]
    omega
  -- the descriptor ends before the ring's page, so both offsets wrap around
  have hnone : ∀ j ≤ 12, q.availByte (q.descSlot + UInt64.ofNat j) = none := by
    intro j hj
    have hindex : 2 ≤ (q.descSlot + UInt64.ofNat j - (q.availGpa + 2)).toNat := by
      have hsub (d s k : UInt64) : d + s + k - (d + 0x1000 + 2) = s + k - 0x1002 := by grind
      rw [hareas, VqState.descSlot, hsub, UInt64.toNat_sub, UInt64.toNat_add, UInt64.toNat_ofNat']
      simp only [UInt64.reduceToNat]
      omega
    have hring : 2 ≤ (q.descSlot + UInt64.ofNat j - q.ringSlot).toNat := by
      have hsub (d s k r : UInt64) : d + s + k - (d + 0x1000 + 4 + r) = s + k - (0x1004 + r) := by
        grind
      rw [VqState.ringSlot, hareas, VqState.descSlot, hsub, UInt64.toNat_sub, UInt64.toNat_add,
        UInt64.toNat_add, UInt64.toNat_ofNat']
      simp only [UInt64.reduceToNat]
      omega
    rw [VqState.availByte, List.getElem?_eq_none (by simpa using hindex),
      List.getElem?_eq_none (by simpa using hring)]
    rfl
  constructor
  · intro j hj b hb
    rw [hnone j (by omega)] at hb
    cases hb
  · intro b hb
    have h12 := hnone 12 le_rfl
    change q.availByte (q.descSlot + 12) = none at h12
    rw [h12] at hb
    cases hb

/-- From guest memory `m` on, a chain that `place_desc` publishes on any queue is walkable exactly
when it is single and harmless. -/
def PlaceChains (m : ByteMemory) (ps : List Piece) (n : Nat) (ξ : Type) : Prop :=
  ∀ (i : Fin n) (w : World n ξ), ChainFits (w.st.vqs i) ps →
    (Walkable (memoryAfter m ((placeChain i ps).run w).2.trace) (w.st.vqs i) ps ↔
      OneHarmless (w.st.vqs i) ps)

private theorem placeChains (m : ByteMemory) (ps : List Piece) (n : Nat) (ξ : Type) :
    PlaceChains m ps n ξ := by
  intro i w h
  rw [placeChain_run]
  exact walkable_iff m i ps w h.pow2 h.nonempty h.room

/-- From guest memory `m` on, a chain that a target's `VqAddDesc` messages publish on any queue is
walkable exactly when it is single and harmless. -/
def AddDescChains (m : ByteMemory) (ds : List VqAddDesc) (ps : List Piece) (t : Target n ξ Op)
    (vqAddDesc : VqAddDesc → Op) (target : TargetRule) : Prop :=
  ∀ (i : Fin n) (w : World n ξ), ChainFits (w.st.vqs i) ps → ChainOps target w.st.bufs i ds ps →
    (Walkable (memoryAfter m (dispatchAll t (ds.map vqAddDesc) w).trace) (w.st.vqs i) ps ↔
      OneHarmless (w.st.vqs i) ps)

private theorem addDescChains (m : ByteMemory) (ds : List VqAddDesc) (ps : List Piece)
    {t : Target n ξ Op} {vqAddDesc : VqAddDesc → Op} {target : TargetRule}
    (hop : ∀ d w, ((t.dispatch (vqAddDesc d)).run w).2 = w.addDesc target d) :
    AddDescChains m ds ps t vqAddDesc target := by
  intro i w h hops
  have hrun : dispatchAll t (ds.map vqAddDesc) w = w.placeChain i ps := by
    rw [dispatchAll, List.foldl_map]
    simp only [hop]
    exact addDesc_chain target i ds ps w h.size_ne_zero hops
  rw [hrun]
  exact walkable_iff m i ps w h.pow2 h.nonempty h.room

/-- A published chain can be walked from its ring entry exactly when it has one descriptor, whose
counter is its own table index and whose publication leaves it as it was placed. -/
theorem published_chain_walkable_iff (m : ByteMemory) (ds : List VqAddDesc) (ps : List Piece) :
    AddDescChains m ds ps Blk.target .vqAddDesc descTarget ∧
    AddDescChains m ds ps Net.target (fun d => .common (.vqAddDesc d)) descTarget ∧
    AddDescChains m ds ps Gpu.target (fun d => .common (.vqAddDesc d)) descTarget ∧
    AddDescChains m ds ps Scsi.target (fun d => .common (.vqAddDesc d)) Scsi.descTarget ∧
    ∀ n ξ, PlaceChains m ps n ξ := by
  refine ⟨?_, ?_, ?_, ?_, placeChains m ps⟩
  · apply addDescChains
    intro d w
    exact congrArg Prod.snd (Blk.opVqAddDesc_run d w)
  · apply addDescChains
    intro d w
    exact congrArg Prod.snd (addDescWith_run descTarget d w)
  · apply addDescChains
    intro d w
    exact congrArg Prod.snd (addDescWith_run descTarget d w)
  · apply addDescChains
    intro d w
    exact congrArg Prod.snd (addDescWith_run Scsi.descTarget d w)

/-- A run of blk that sets up queue 0 and stages a buffer. -/
def chainStart : World Blk.kMaxQueues Unit :=
  runFromReset Blk.target [.vqSetup 0 8, .guestMemWrite 1 [1, 2, 3, 4]]
    ⟨largeDevice, [], Blk.constructed, []⟩

theorem published_chain_walkable_one :
    Walkable
      (memoryAfter (fun _ => 0)
        (dispatchAll Blk.target ([⟨0, 1, 4, false, false, 0⟩].map .vqAddDesc) chainStart).trace)
      (chainStart.st.vqs 0) [⟨kBufPoolBase Blk.kMaxQueues, 4, false⟩] := by
  have hfits : ChainFits (chainStart.st.vqs 0) [⟨kBufPoolBase Blk.kMaxQueues, 4, false⟩] :=
    Blk.confined.chainFits _ _ 0 (by decide) (by simp) (by decide)
  have hops : ChainOps descTarget chainStart.st.bufs (0 : Fin Blk.kMaxQueues)
      [⟨0, 1, 4, false, false, 0⟩] [⟨kBufPoolBase Blk.kMaxQueues, 4, false⟩] :=
    ⟨rfl, by decide, rfl, rfl, trivial⟩
  apply ((published_chain_walkable_iff _ _ _).1 0 chainStart hfits hops).mpr
  refine ⟨_, rfl, by decide, ?_⟩
  exact publishHarmless_of_areas (by decide) (by decide) (by decide) _

/-- The ring entry of a chain of two is the second descriptor's. -/
theorem published_chain_of_two_misses_head :
    ¬Walkable
      (memoryAfter (fun _ => 0)
        (dispatchAll Blk.target
          ([⟨0, 1, 4, false, true, 0⟩, ⟨0, 1, 4, true, false, 0⟩].map .vqAddDesc)
          chainStart).trace)
      (chainStart.st.vqs 0)
      [⟨kBufPoolBase Blk.kMaxQueues, 4, false⟩, ⟨kBufPoolBase Blk.kMaxQueues, 4, true⟩] := by
  intro h
  exact absurd h.1 (by decide)

end VirtioCrash
