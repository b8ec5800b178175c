import VirtioCrash.Harness.Buffers

/-!
# The ids of staged buffers

How many ids a submission mints: one for each of its buffers that fits. The counter moves with the
bump pointer, by one where that moves by 16 bytes at least, so it never wraps around.
-/

namespace VirtioCrash

open StateProgram Relation

variable {n : Nat} {ξ η : Type}

/-- From `w` to `w'` the next `k` ids were minted and no other id was bound. -/
structure Mints (k : Nat) (w w' : World n (Synth η)) : Prop where
  next : w'.st.ext.synthBufId = w.st.ext.synthBufId + UInt32.ofNat k
  others : ∀ id, (∀ j < k, id ≠ mintedId w j) → w'.st.bufs id = w.st.bufs id
  room : w.st.bufAlloc ≤ kBufPoolEnd → w'.st.bufAlloc ≤ kBufPoolEnd ∧
    w.st.bufAlloc.toNat / 16 + k ≤ w'.st.bufAlloc.toNat / 16

theorem Mints.none {w w' : World n (Synth η)}
    (hnext : w'.st.ext.synthBufId = w.st.ext.synthBufId) (hbufs : w'.st.bufs = w.st.bufs)
    (halloc : w'.st.bufAlloc = w.st.bufAlloc) : Mints 0 w w' where
  next := by
    rw [hnext]
    exact (UInt32.add_zero _).symm
  others id _ := congrFun hbufs id
  room h := by
    rw [halloc]
    exact ⟨h, Nat.le_refl _⟩

private theorem Mints.refl (w : World n (Synth η)) : Mints 0 w w :=
  .none rfl rfl rfl

theorem Mints.trans {j k : Nat} {w v w' : World n (Synth η)} (h : Mints j w v)
    (h' : Mints k v w') : Mints (j + k) w w' where
  next := by
    rw [h'.next, h.next, UInt32.ofNat_add, UInt32.add_assoc]
  others id hid := by
    rw [h'.others, h.others]
    · exact fun a ha => hid a (by omega)
    · intro a ha
      have hlater := hid (j + a) (by omega)
      rwa [mintedId, UInt32.ofNat_add, ← UInt32.add_assoc, ← h.next] at hlater
  room hw := by
    obtain ⟨hv, hle⟩ := h.room hw
    obtain ⟨hw', hle'⟩ := h'.room hv
    exact ⟨hw', by omega⟩

theorem Mints.after {k : Nat} {w v w' : World n (Synth η)} (h : Mints 0 w v) (h' : Mints k v w') :
    Mints k w w' := by
  have hboth := h.trans h'
  rwa [Nat.zero_add] at hboth

theorem Loaded.mints {w w' : World n (Synth η)} {cs : List Cargo} (h : Loaded w cs w') :
    Mints cs.length w w' where
  next := by
    have hnext := h.minted.next
    rwa [List.length_map] at hnext
  others := by
    have hothers := h.minted.others
    rwa [List.length_map] at hothers
  room hw := by
    obtain ⟨hle, hblock, -⟩ := h.apart hw
    exact ⟨hle, hblock⟩

private theorem placeChain_st (i : Fin n) (ps : List Piece) (w : World n ξ) :
    ∃ vqs, (w.placeChain i ps).st = { w.st with vqs := vqs } := by
  induction ps generalizing w with
  | nil => exact ⟨w.st.vqs, rfl⟩
  | cons p ps ih =>
      obtain ⟨vqs, hvqs⟩ := ih (w.place i p.addr p.len p.deviceWritable (!ps.isEmpty))
      exact ⟨vqs, hvqs⟩

theorem mints_placeChain (i : Fin n) (ps : List Piece) (w : World n (Synth η)) :
    Mints 0 w ((VirtioCrash.notify i).run (w.placeChain i ps)).2 := by
  obtain ⟨vqs, hvqs⟩ := placeChain_st i ps w
  have hst : ((VirtioCrash.notify i).run (w.placeChain i ps)).2.st = { w.st with vqs := vqs } :=
    hvqs
  apply Mints.none
  · rw [hst]
  · rw [hst]
  · rw [hst]

private theorem mem_chainPlacements {i : Nat} {ps : List Piece} {q : Placement}
    (hq : q ∈ chainPlacements i ps) : ∃ p ∈ ps, q.addr = p.addr ∧ q.len = p.len := by
  induction ps with
  | nil => cases hq
  | cons p ps ih =>
      rcases List.mem_cons.mp hq with rfl | hq
      · exact ⟨p, List.mem_cons_self, rfl, rfl⟩
      · obtain ⟨p', hp', hsame⟩ := ih hq
        exact ⟨p', List.mem_cons_of_mem p hp', hsame⟩

theorem newest_placements_eq {w w' : World n ξ}
    (h : placements w'.hist = placements w.hist) :
    newest (placements w'.hist) (placements w.hist) = [] := by
  rw [h]
  exact newest_append [] _

private theorem Delivery.placed_staged {i : Fin n} {staged : List UInt32} {loads : List Load}
    {w w' : World n (Synth η)} (h : Delivery i staged loads w w') {q : Placement}
    (hq : q ∈ newest (placements w'.hist) (placements w.hist)) :
    ∃ id, w'.st.bufs id = some ⟨q.addr, q.len⟩ := by
  cases h with
  | full cs len h hstaged hfull =>
      rw [newest_placements_eq (h.steps.placements_eq (by decide))] at hq
      cases hq
  | lost cs h j hcs hj hzero =>
      rw [newest_placements_eq (h.steps.placements_eq (by decide))] at hq
      cases hq
  | published v cs ds h hcs hds hloads hend =>
      have hbufs : w'.st.bufs = v.st.bufs := by
        obtain ⟨vqs, hvqs⟩ := placeChain_st i (ds.map Cargo.piece) v
        have hst : w'.st = { v.st with vqs := vqs } := by
          rw [hend]
          exact hvqs
        rw [hst]
      have hplaced : placements w'.hist =
          (chainPlacements i (ds.map Cargo.piece)).reverse ++ placements w.hist := by
        rw [hend, ← h.steps.placements_eq (by decide), ← placements_placeChain]
        rfl
      rw [hplaced, newest_append, List.mem_reverse] at hq
      obtain ⟨p, hp, haddr, hlen⟩ := mem_chainPlacements hq
      obtain ⟨d, hd, rfl⟩ := List.mem_map.mp hp
      obtain ⟨as, bs, hsplit⟩ := List.append_of_mem (hds d hd)
      have hnames := h.names as d bs (by rw [hsplit, List.append_assoc]; rfl)
      refine ⟨mintedId w as.length, ?_⟩
      rw [hbufs, haddr, hlen]
      exact hnames

theorem Sends.placed_staged {room : UInt32} {i : Fin n} {staged : List UInt32} {loads : List Load}
    {w w' : World n (Synth η)} (h : Sends room i staged loads w w') {q : Placement}
    (hq : q ∈ newest (placements w'.hist) (placements w.hist)) :
    ∃ id, w'.st.bufs id = some ⟨q.addr, q.len⟩ := by
  by_cases hready : Ready room (w.st.vqs i)
  · exact (h.delivery hready).placed_staged hq
  · rw [h.idle hready, newest_placements_eq rfl] at hq
    cases hq

/-- No id that a submission of `k` buffers may mint is the id of a failure. -/
def NoZero (w : World n (Synth η)) (k : Nat) : Prop := ∀ j < k, mintedId w j ≠ 0

section Delivery

variable {i : Fin n} {staged : List UInt32} {loads : List Load} {w w' : World n (Synth η)}

private theorem Loaded.fitCount_full {cs : List Cargo} {len : UInt32} (h : Loaded w cs w')
    (hstaged : (cs.map fun c => c.load.len) ++ [len] <+: staged)
    (hfull : PoolFull w'.st.bufAlloc len) :
    fitCount w.st.bufAlloc staged = cs.length ∧ cs.length < staged.length := by
  obtain ⟨more, rfl⟩ := hstaged
  have hroom : fitCount w.st.bufAlloc (cs.map fun c => c.load.len) =
      (cs.map fun c => c.load.len).length := by
    rw [h.room, List.length_map]
  rw [List.append_assoc, fitCount_append hroom, ← h.next]
  simp [fitCount, hfull]

private theorem Loaded.fitCount_all {cs : List Cargo} {v : World n (Synth η)} (h : Loaded w cs v)
    (hcs : (cs.map fun c => c.load.len) = staged) :
    fitCount w.st.bufAlloc staged = cs.length ∧ cs.length = staged.length := by
  rw [← hcs, List.length_map]
  exact ⟨h.room, rfl⟩

private theorem Delivery.mintsSome (h : Delivery i staged loads w w') : ∃ k, Mints k w w' ∧
    (NoZero w staged.length → k = fitCount w.st.bufAlloc staged) := by
  cases h with
  | full cs len h hstaged hfull =>
      exact ⟨_, h.mints, fun _ => (h.fitCount_full hstaged hfull).1.symm⟩
  | lost cs h j hcs hj hzero =>
      exact ⟨_, h.mints, fun hids => absurd hzero (hids j hj)⟩
  | published v cs ds h hcs hds hloads hend =>
      rw [hend]
      exact ⟨_, h.mints.trans (mints_placeChain i _ v), fun _ => (h.fitCount_all hcs).1.symm⟩

private theorem Delivery.mints (h : Delivery i staged loads w w') (hids : NoZero w staged.length) :
    Mints (fitCount w.st.bufAlloc staged) w w' := by
  obtain ⟨k, hmints, hk⟩ := h.mintsSome
  rwa [hk hids] at hmints

private theorem chainOf_ne_nil (i : Nat) {loads : List Load} (h : loads ≠ []) :
    chainOf i loads ≠ [] := by
  cases loads with
  | nil => exact absurd rfl h
  | cons l ls => exact List.cons_ne_nil _ _

private theorem Delivery.shipped_iff (h : Delivery i staged loads w w')
    (hids : NoZero w staged.length) (hroom : w.st.bufAlloc ≤ kBufPoolEnd) (hne : loads ≠ []) :
    VirtioCrash.shipped w w' = chainOf i loads ↔
      fitCount w.st.bufAlloc staged = staged.length := by
  cases h with
  | full cs len h hstaged hfull =>
      have hnone := shipped_of_placements_eq (h.steps.placements_eq (by decide))
      have hfew := h.fitCount_full hstaged hfull
      rw [hnone]
      constructor
      · intro hempty
        exact absurd hempty.symm (chainOf_ne_nil i hne)
      · intro hall
        omega
  | lost cs h j hcs hj hzero => exact absurd hzero (hids j hj)
  | published v cs ds h hcs hds hloads hend =>
      have hall := h.fitCount_all hcs
      rw [hend, ← hloads]
      exact iff_of_true (h.shipped_placeChain hroom hds) (hall.1.trans hall.2)

end Delivery

section Sends

variable {room : UInt32} {i : Fin n} {staged : List UInt32} {loads : List Load}
  {w w' : World n (Synth η)}

instance (room : UInt32) (q : VqState) : Decidable (Ready room q) :=
  inferInstanceAs (Decidable (_ ∧ _))

/-- How many ids a submission mints that checks for `room` descriptors first. -/
def mintsBehind (room : UInt32) (q : VqState) (bufAlloc : UInt64) (staged : List UInt32) : Nat :=
  if Ready room q then fitCount bufAlloc staged else 0

theorem Sends.mints (h : Sends room i staged loads w w') (hids : NoZero w staged.length) :
    Mints (mintsBehind room (w.st.vqs i) w.st.bufAlloc staged) w w' := by
  rw [mintsBehind]
  split
  · rename_i hready
    exact (h.delivery hready).mints hids
  · rename_i hready
    rw [h.idle hready]
    exact .refl w

theorem Sends.mintsSome (h : Sends room i staged loads w w') : ∃ k, Mints k w w' := by
  by_cases hready : Ready room (w.st.vqs i)
  · obtain ⟨k, hmints, -⟩ := (h.delivery hready).mintsSome
    exact ⟨k, hmints⟩
  · rw [h.idle hready]
    exact ⟨0, .refl w⟩

theorem Sends.shipped_iff (h : Sends room i staged loads w w') (hids : NoZero w staged.length)
    (hroom : w.st.bufAlloc ≤ kBufPoolEnd) (hne : loads ≠ []) :
    VirtioCrash.shipped w w' = chainOf i loads ↔
      Ready room (w.st.vqs i) ∧ fitCount w.st.bufAlloc staged = staged.length := by
  by_cases hready : Ready room (w.st.vqs i)
  · rw [(h.delivery hready).shipped_iff hids hroom hne]
    exact (and_iff_right hready).symm
  · rw [h.idle hready, shipped_of_placements_eq rfl]
    constructor
    · intro hempty
      exact absurd hempty.symm (chainOf_ne_nil i hne)
    · intro hall
      exact absurd hall.1 hready

end Sends

/-- The counter started at `base` and has not moved further than the bump pointer. -/
structure IdsFrom (base : Nat) (w : World n (Synth η)) : Prop where
  room : w.st.bufAlloc ≤ kBufPoolEnd
  ge : base ≤ w.st.ext.synthBufId.toNat
  le : w.st.ext.synthBufId.toNat ≤ base + w.st.bufAlloc.toNat / 16

section IdsFrom

variable {base : Nat} {w w' : World n (Synth η)}

theorem IdsFrom.start (hroom : w.st.bufAlloc ≤ kBufPoolEnd)
    (hid : w.st.ext.synthBufId.toNat = base) : IdsFrom base w where
  room := hroom
  ge := hid.ge
  le := by
    rw [hid]
    omega

theorem blocks_le {p : UInt64} (hp : p ≤ kBufPoolEnd) : p.toNat / 16 ≤ 0x47F0000 := by
  have hle := UInt64.le_iff_toNat_le.mp hp
  rw [kBufPoolEnd_toNat, kBufPoolEndNat] at hle
  omega

/-- The ids follow one another: there is no room for so many that they would wrap around. -/
theorem IdsFrom.mintedId_toNat (h : IdsFrom base w) (hbase : base ≤ 2 ^ 31) {j : Nat}
    (hj : j ≤ 0x47F0000) : (mintedId w j).toNat = w.st.ext.synthBufId.toNat + j := by
  have hfew := blocks_le h.room
  have hle := h.le
  rw [mintedId, UInt32.toNat_add, UInt32.toNat_ofNat']
  omega

theorem IdsFrom.noZero (h : IdsFrom base w) (hbase : base ≤ 2 ^ 31)
    (hid : w.st.ext.synthBufId ≠ 0) {k : Nat} (hk : k ≤ 0x47F0000) : NoZero w k := by
  intro j hj hzero
  have hnat := h.mintedId_toNat hbase (j := j) (by omega)
  rw [hzero] at hnat
  apply hid
  apply UInt32.toNat_inj.mp
  change 0 = _ at hnat
  change _ = 0
  omega

theorem IdsFrom.mints {k : Nat} (h : IdsFrom base w) (hbase : base ≤ 2 ^ 31)
    (hm : Mints k w w') : IdsFrom base w' := by
  obtain ⟨hroom, hblocks⟩ := hm.room h.room
  have hfew := blocks_le hroom
  have hnext : w'.st.ext.synthBufId.toNat = w.st.ext.synthBufId.toNat + k := by
    rw [hm.next]
    exact h.mintedId_toNat hbase (by omega)
  have hge := h.ge
  have hle := h.le
  constructor
  · exact hroom
  · omega
  · omega

variable {A : List Act}

private theorem Steps.bufs_eq (hA : Act.bindBuf ∉ A) {w w' : World n ξ} (hs : Steps A w w') :
    w'.st.bufs = w.st.bufs := by
  apply hs.invariant fun v => v.st.bufs = w.st.bufs
  · intro a ha v v' hstep hv
    rw [← hv]
    cases hstep with
    | bindBuf id b v halloc => exact absurd ha hA
    | _ => rfl
  · rfl

private theorem Steps.alloc_le {w w' : World n ξ} (hs : Steps A w w')
    (hw : w.st.bufAlloc ≤ kBufPoolEnd) :
    w'.st.bufAlloc ≤ kBufPoolEnd ∧ w.st.bufAlloc.toNat / 16 ≤ w'.st.bufAlloc.toNat / 16 := by
  apply hs.invariant fun v =>
    v.st.bufAlloc ≤ kBufPoolEnd ∧ w.st.bufAlloc.toNat / 16 ≤ v.st.bufAlloc.toNat / 16
  · rintro a - v v' hstep ⟨hle, hmore⟩
    by_cases ha : a = .bump
    · subst ha
      cases hstep with
      | bump len v hfit =>
          have hblock := bumpNext_block len hle
          exact ⟨bumpNext_le_end hle hfit, by change _ ≤ (bumpNext _ _).toNat / 16; omega⟩
    · rw [(hstep.alloc_eq ha).2]
      exact ⟨hle, hmore⟩
  · exact ⟨hw, Nat.le_refl _⟩

theorem IdsFrom.steps (h : IdsFrom base w) (hA : Act.setExt ∉ A) (hs : Steps A w w') :
    IdsFrom base w' := by
  obtain ⟨hroom, hblocks⟩ := hs.alloc_le h.room
  have hge := h.ge
  have hle := h.le
  constructor
  · exact hroom
  · rw [hs.ext_eq hA]
    exact hge
  · rw [hs.ext_eq hA]
    omega

theorem Mints.steps (hext : Act.setExt ∉ A) (hbind : Act.bindBuf ∉ A) (hbump : Act.bump ∉ A)
    (hs : Steps A w w') : Mints 0 w w' := by
  apply Mints.none
  · rw [hs.ext_eq hext]
  · exact hs.bufs_eq hbind
  · exact (hs.alloc_eq hbump).2

end IdsFrom

end VirtioCrash
