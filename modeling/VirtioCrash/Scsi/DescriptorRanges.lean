import VirtioCrash.Scsi.AllocFailure

/-!
# The memory behind the descriptors of the scsi harness

Where the descriptors point that `op_vq_add_desc` and the typed submissions place. A typed
submission places whole buffers, and a non-RAM descriptor is a piece of its window. A descriptor for
a buffer that a message names is cut to the buffer, but never to nothing: for an empty buffer it
covers the byte behind it.
-/

namespace VirtioCrash.Scsi

open StateProgram BumpAllocator

/-- The bytes a placed descriptor covers. -/
def covered (p : Placement) : Range := ⟨p.addr.toNat, p.len.toNat⟩

/-- A placed descriptor covers bytes of the buffer `b` only, one of those staged since the last
reset: it is in the pool, above all rings, and no other staged buffer has a byte of it. -/
structure InBuffer (w : ScsiWorld) (b : Buf) (p : Placement) : Prop where
  low : b.gpa.toNat ≤ (covered p).start
  high : (covered p).stop ≤ b.gpa.toNat + b.len.toNat
  staged : .alloc b.gpa b.len ∈ sinceReset w.hist
  inPool : (kBufPoolBase kMaxQueues).toNat ≤ (covered p).start ∧
    (covered p).stop ≤ kBufPoolEnd.toNat
  apart : ∀ r ∈ allocRanges (sinceReset w.hist), r ≠ ⟨b.gpa.toNat, b.len.toNat⟩ →
    (covered p).Disjoint r

/-- The window that `exotic_region` selects. -/
def exoticWindow (exoticRegion : UInt32) : Fin 4 := Fin.ofNat 4 (exoticRegion.toNat - 1)

/-- A placed descriptor covers a piece of the window that `exotic_region` selects, from a multiple
of 4 on. -/
structure InExoticWindow (exoticRegion : UInt32) (p : Placement) : Prop where
  low : (exoticBases (exoticWindow exoticRegion)).toNat ≤ (covered p).start
  high : (covered p).stop ≤
    (exoticBases (exoticWindow exoticRegion)).toNat +
      (exoticSizes (exoticWindow exoticRegion)).toNat
  aligned : 4 ∣ (covered p).start

/-- What a descriptor placed by an op from `w` to `w'` may cover. -/
def InOwnMemory (w w' : ScsiWorld) (op : VirtioOp) (p : Placement) : Prop :=
  match op with
  | .common (.vqAddDesc d) =>
      if d.exoticRegion = 0 then ∃ b, w.st.bufs d.bufId = some b ∧ InBuffer w' b p
      else InExoticWindow d.exoticRegion p
  | _ => ∃ id b, w'.st.bufs id = some b ∧ InBuffer w' b p

/-- Every descriptor that dispatching the op places covers only memory it may cover. -/
def RangesKept (w : ScsiWorld) (op : VirtioOp) : Prop :=
  ∀ p ∈ newest (placements ((dispatch op).run w).2.hist) (placements w.hist),
    InOwnMemory w ((dispatch op).run w).2 op p

/-- The op does not place a descriptor for an empty buffer. -/
def NamesNonEmpty (w : ScsiWorld) : VirtioOp → Prop
  | .common (.vqAddDesc d) => ∀ h : d.vqIdx.toNat < kMaxQueues,
      (w.st.vqs ⟨d.vqIdx.toNat, h⟩).size ≠ 0 → d.exoticRegion = 0 →
      ∀ b ∈ w.st.bufs d.bufId, b.len ≠ 0
  | _ => True

instance (w : ScsiWorld) (op : VirtioOp) : Decidable (NamesNonEmpty w op) := by
  unfold NamesNonEmpty
  split
  · exact inferInstanceAs (Decidable (∀ _ : _ < _, _ → _ → ∀ b ∈ w.st.bufs _, b.len ≠ 0))
  · exact isTrue trivial

private theorem inBuffer_iff {w : ScsiWorld} {b : Buf} {p : Placement}
    (hpool : PoolInv (kBufPoolBase kMaxQueues).toNat w)
    (hstaged : .alloc b.gpa b.len ∈ sinceReset w.hist) :
    InBuffer w b p ↔ b.gpa.toNat ≤ (covered p).start ∧
      (covered p).stop ≤ b.gpa.toNat + b.len.toNat := by
  have hmem : (⟨b.gpa.toNat, b.len.toNat⟩ : Range) ∈ allocRanges (sinceReset w.hist) :=
    mem_allocRanges.mpr ⟨b.gpa, b.len, hstaged, rfl⟩
  constructor
  · exact fun h => ⟨h.low, h.high⟩
  · rintro ⟨hlow, hhigh⟩
    refine ⟨hlow, hhigh, hstaged, ?_, ?_⟩
    · obtain ⟨hbase, hstop⟩ := hpool.packed.inside _ hmem
      have hend := hpool.packed.next_le
      simp only [Range.stop] at hstop hbase hhigh ⊢
      rw [kBufPoolEnd_toNat]
      omega
    · intro r hr hne
      have hapart := hpool.packed.apart hmem hr hne.symm
      simp only [Range.Disjoint, Range.stop] at hapart hhigh ⊢
      omega

private theorem inBuffer_whole {w : ScsiWorld} {id : UInt32} {p : Placement}
    (hpool : PoolInv (kBufPoolBase kMaxQueues).toNat w)
    (hbound : w.st.bufs id = some ⟨p.addr, p.len⟩) :
    ∃ id b, w.st.bufs id = some b ∧ InBuffer w b p :=
  ⟨id, ⟨p.addr, p.len⟩, hbound,
    (inBuffer_iff hpool (hpool.bufs id _ hbound)).mpr ⟨Nat.le_refl _, Nat.le_refl _⟩⟩

private theorem exoticAddr_window {exoticRegion : UInt32} (hr : exoticRegion ≠ 0) (bufId : UInt32) :
    exoticAddr bufId exoticRegion = exoticBases (exoticWindow exoticRegion) +
      (bufId % (exoticSizes (exoticWindow exoticRegion) / 4) * 4).toUInt64 := by
  have hsub : (exoticRegion - 1).toNat = exoticRegion.toNat - 1 := by
    have hpos : exoticRegion.toNat ≠ 0 := fun h => hr (UInt32.toNat_inj.mp h)
    rw [UInt32.toNat_sub_of_le _ _ (by rw [UInt32.le_iff_toNat_le, UInt32.toNat_one]; omega)]
    rfl
  have hwindow : Fin.ofNat 4 ((exoticRegion - 1) % 4).toNat = exoticWindow exoticRegion := by
    apply Fin.ext
    rw [exoticWindow, Fin.val_ofNat, Fin.val_ofNat, UInt32.toNat_mod, hsub]
    exact Nat.mod_mod _ _
  rw [exoticAddr, hwindow]

private theorem window_word (ri : Fin 4) (bufId : UInt32) :
    ∃ k, (exoticBases ri + (bufId % (exoticSizes ri / 4) * 4).toUInt64).toNat =
        (exoticBases ri).toNat + 4 * k ∧
      4 * k + 4 ≤ (exoticSizes ri).toNat ∧ 4 ∣ (exoticBases ri).toNat := by
  have hwords : ∀ ri : Fin 4, 0 < (exoticSizes ri / 4).toNat ∧
      4 * (exoticSizes ri / 4).toNat ≤ (exoticSizes ri).toNat ∧
      (exoticSizes ri).toNat ≤ 0x10000 ∧ (exoticBases ri).toNat < 2 ^ 32 ∧
      4 ∣ (exoticBases ri).toNat := by decide
  obtain ⟨hpos, hsize, hsmall, hbase, hdvd⟩ := hwords ri
  have hmod := Nat.mod_lt bufId.toNat hpos
  refine ⟨bufId.toNat % (exoticSizes ri / 4).toNat, ?_, by omega, hdvd⟩
  rw [UInt64.toNat_add, UInt32.toNat_toUInt64, UInt32.toNat_mul, UInt32.toNat_mod]
  simp only [UInt32.reduceToNat]
  omega

private theorem inExoticWindow {exoticRegion : UInt32} (hr : exoticRegion ≠ 0) (bufId len : UInt32)
    {p : Placement} (haddr : p.addr = exoticAddr bufId exoticRegion)
    (hlen : p.len = max (min len 4) 1) : InExoticWindow exoticRegion p := by
  obtain ⟨k, hk, hfit, hdvd⟩ := window_word (exoticWindow exoticRegion) bufId
  have hstart : (covered p).start = (exoticBases (exoticWindow exoticRegion)).toNat + 4 * k := by
    rw [← hk, ← exoticAddr_window hr, ← haddr]
    rfl
  have hstop : (covered p).stop ≤ (covered p).start + 4 := by
    have hfour : p.len.toNat ≤ 4 := by
      rw [hlen, Bytes.max_toNat, Bytes.min_toNat]
      simp only [UInt32.reduceToNat]
      omega
    exact Nat.add_le_add_left hfour _
  constructor
  · omega
  · omega
  · omega

private theorem rangesKept_idle {w : ScsiWorld} {op : VirtioOp}
    (h : placements ((dispatch op).run w).2.hist = placements w.hist) : RangesKept w op := by
  intro p hp
  rw [newest_placements_eq h] at hp
  cases hp

private theorem rangesKept_place_iff {w : ScsiWorld} {op : VirtioOp} {i : Fin kMaxQueues}
    {addr : UInt64} {len : UInt32} {deviceWritable chainNext : Bool}
    (h : ((dispatch op).run w).2 = w.place i addr len deviceWritable chainNext) :
    RangesKept w op ↔
      InOwnMemory w ((dispatch op).run w).2 op ⟨i, addr, len, deviceWritable, chainNext⟩ := by
  have hone : newest (placements ((dispatch op).run w).2.hist) (placements w.hist) =
      [⟨i, addr, len, deviceWritable, chainNext⟩] := by
    rw [h, placements_place]
    exact newest_append [_] _
  rw [RangesKept, hone]
  exact List.forall_mem_singleton

private theorem poolInv_dispatch (op : VirtioOp) {w : ScsiWorld}
    (hpool : PoolInv (kBufPoolBase kMaxQueues).toNat w) :
    PoolInv (kBufPoolBase kMaxQueues).toNat ((dispatch op).run w).2 :=
  confined.dispatch_keeps (poolInv_afterReset (by decide)) (fun _ _ _ hs hw => hw.step hs) op w
    hpool

private theorem bufferLen_le_iff (len bufLen : UInt32) :
    (if min len bufLen = 0 then 1 else min len bufLen).toNat ≤ bufLen.toNat ↔ bufLen ≠ 0 := by
  have hmin := Bytes.min_toNat len bufLen
  have hzero : bufLen = 0 ↔ bufLen.toNat = 0 := UInt32.toNat_inj.symm
  rw [Ne, hzero]
  by_cases h : min len bufLen = 0
  · rw [if_pos h, UInt32.toNat_one]
    omega
  · have hpos : (min len bufLen).toNat ≠ 0 := fun he => h (UInt32.toNat_inj.mp he)
    rw [if_neg h]
    omega

private theorem rangesKept_buffer_iff {d : VqAddDesc} {w : ScsiWorld} {i : Fin kMaxQueues} {b : Buf}
    (hpool : PoolInv (kBufPoolBase kMaxQueues).toNat w) (hr : d.exoticRegion = 0)
    (hb : w.st.bufs d.bufId = some b)
    (hplace : ((dispatch (.common (.vqAddDesc d))).run w).2 =
      w.place i b.gpa (if min d.len b.len = 0 then 1 else min d.len b.len)
        d.deviceWritable d.chainNext) :
    RangesKept w (.common (.vqAddDesc d)) ↔ b.len ≠ 0 := by
  have hsteps := confined.dispatch_common (.common (.vqAddDesc d)) _ rfl (by simp) w
  have hstaged := hsteps.mem_sinceReset (hpool.bufs _ b hb)
  rw [rangesKept_place_iff hplace, InOwnMemory, if_pos hr, ← bufferLen_le_iff d.len b.len]
  constructor
  · rintro ⟨b', hb', hin⟩
    cases hb.symm.trans hb'
    exact Nat.le_of_add_le_add_left hin.high
  · intro hle
    exact ⟨b, hb, (inBuffer_iff (poolInv_dispatch _ hpool) hstaged).mpr
      ⟨Nat.le_refl _, Nat.add_le_add_left hle _⟩⟩

private theorem rangesKept_addDesc_iff (d : VqAddDesc) {w : ScsiWorld}
    (hpool : PoolInv (kBufPoolBase kMaxQueues).toNat w) :
    RangesKept w (.common (.vqAddDesc d)) ↔ NamesNonEmpty w (.common (.vqAddDesc d)) := by
  have hrun : ((dispatch (.common (.vqAddDesc d))).run w).2 = w.addDesc descTarget d :=
    congrArg Prod.snd (addDescWith_run descTarget d w)
  have hidle (h : w.addDesc descTarget d = w) : RangesKept w (.common (.vqAddDesc d)) := by
    apply rangesKept_idle
    rw [hrun, h]
  by_cases hi : d.vqIdx.toNat < kMaxQueues
  · by_cases hsize : (w.st.vqs ⟨d.vqIdx.toNat, hi⟩).size = 0
    · apply iff_of_true
      · apply hidle
        rw [World.addDesc, dif_pos hi, if_pos hsize]
      · exact fun _ hset => absurd hsize hset
    · by_cases hr : d.exoticRegion = 0
      · rcases hb : w.st.bufs d.bufId with _ | b
        · apply iff_of_true
          · apply hidle
            rw [World.addDesc, dif_pos hi, if_neg hsize]
            simp [descTarget, hr, hb]
          · intro _ _ _ b hmem
            simp [hb] at hmem
        · have hplace : ((dispatch (.common (.vqAddDesc d))).run w).2 =
              w.place ⟨d.vqIdx.toNat, hi⟩ b.gpa
                (if min d.len b.len = 0 then 1 else min d.len b.len)
                d.deviceWritable d.chainNext := by
            rw [hrun, World.addDesc, dif_pos hi, if_neg hsize]
            simp [descTarget, hr, hb]
          rw [rangesKept_buffer_iff hpool hr hb hplace]
          constructor
          · intro hne _ _ _ b' hb'
            cases hb.symm.trans hb'
            exact hne
          · exact fun h => h hi hsize hr b hb
      · apply iff_of_true
        · have hplace : ((dispatch (.common (.vqAddDesc d))).run w).2 =
              w.place ⟨d.vqIdx.toNat, hi⟩ (exoticAddr d.bufId d.exoticRegion)
                (max (min d.len 4) 1) d.deviceWritable d.chainNext := by
            rw [hrun, World.addDesc, dif_pos hi, if_neg hsize]
            simp [descTarget, hr]
          rw [rangesKept_place_iff hplace, InOwnMemory, if_neg hr]
          exact inExoticWindow hr d.bufId d.len rfl rfl
        · exact fun _ _ hzero => absurd hzero hr
  · apply iff_of_true
    · apply hidle
      rw [World.addDesc, dif_neg hi]
    · exact fun h => absurd h hi

private theorem rangesKept_typed {op : VirtioOp} (hop : asCommon op = none) {w : ScsiWorld}
    (hpool : PoolInv (kBufPoolBase kMaxQueues).toNat w) : RangesKept w op := by
  have hpool' := poolInv_dispatch op hpool
  intro p hp
  cases op with
  | common op => cases hop
  | scsiCmd c =>
      obtain ⟨id, hbound⟩ := (sends_submitScsiCmd c w).placed_staged hp
      exact inBuffer_whole hpool' hbound
  | tmfReq m =>
      obtain ⟨id, hbound⟩ := (sends_submitTmf m w).placed_staged hp
      exact inBuffer_whole hpool' hbound
  | anReq m =>
      obtain ⟨id, hbound⟩ := (sends_submitAn m w).placed_staged hp
      exact inBuffer_whole hpool' hbound

private theorem rangesKept_iff (op : VirtioOp) {w : ScsiWorld}
    (hpool : PoolInv (kBufPoolBase kMaxQueues).toNat w) :
    RangesKept w op ↔ NamesNonEmpty w op := by
  rcases hop : asCommon op with _ | c
  · apply iff_of_true (rangesKept_typed hop hpool)
    cases op with
    | common op => cases hop
    | _ => exact trivial
  · cases op with
    | common c =>
        by_cases hdesc : ∃ d, c = .vqAddDesc d
        · obtain ⟨d, rfl⟩ := hdesc
          exact rangesKept_addDesc_iff d hpool
        · apply iff_of_true
          · apply rangesKept_idle
            by_cases hreset : c = .reset
            · subst hreset
              rfl
            · have hsteps := confined.dispatch_common (.common c) c rfl hreset w
              apply hsteps.placements_eq
              cases c with
              | vqAddDesc d => exact absurd ⟨d, rfl⟩ hdesc
              | _ => simp [CommonOp.acts]
          · cases c with
            | vqAddDesc d => exact absurd ⟨d, rfl⟩ hdesc
            | _ => exact trivial
    | _ => cases hop

/-- In every interleaving, the descriptors that thread A places cover only memory they may cover
exactly when it places none for an empty buffer. -/
theorem descriptorRanges_iff (prog : Program VirtioOp) (dev : Device)
    (st : State kMaxQueues (Synth Unit)) (turns : List Turn) :
    AlwaysConc target prog dev st (OnA RangesKept) turns ↔
      AlwaysConc target prog dev st (OnA NamesNonEmpty) turns := by
  apply Run.always_congr (fun c : Conc kMaxQueues (Synth Unit) VirtioOp =>
    ∃ ops, Reached target ops c.worldA)
  · exact fun c turn c' hc hstep => reachedA_step hc hstep
  · rintro c turn ⟨ops, hreached⟩
    have hpool := hreached.poolInv confined (by decide)
    apply imp_congr_right
    intro _
    apply forall₂_congr
    intro op _
    exact rangesKept_iff op hpool
  · exact ⟨[], (Reached.reset (t := target) ⟨dev, [], st, []⟩).machine _ _⟩

/-- A buffer of no bytes, and a descriptor for it. -/
def emptyBuffer : Program VirtioOp :=
  ⟨[.common (.vqSetup 2 8), .common (.guestMemWrite 1 []),
    .common (.vqAddDesc ⟨2, 1, 0, false, false, 0⟩)], [], 1⟩

/-- The descriptor for an empty buffer covers a byte behind it. -/
theorem descriptorRanges_empty_buffer :
    ¬∀ (prog : Program VirtioOp) (dev : Device) (st : State kMaxQueues (Synth Unit))
      (turns : List Turn), AlwaysConc target prog dev st (OnA RangesKept) turns := by
  intro hall
  have hrest := (hall emptyBuffer (fun _ _ => 8) (threadBState target) [.a, .a, .a]).2 _ rfl
  have hkept := (hrest.2 _ rfl).1 rfl (.common (.vqAddDesc ⟨2, 1, 0, false, false, 0⟩)) rfl
  have hrun : runConc target emptyBuffer (fun _ _ => 8) (threadBState target) [.a, .a] = some _ :=
    rfl
  have hpool := (confined.poolInv_conc (by decide) hrun).1
  exact absurd ((rangesKept_iff _ hpool).mp hkept) (by decide +kernel)

end VirtioCrash.Scsi
