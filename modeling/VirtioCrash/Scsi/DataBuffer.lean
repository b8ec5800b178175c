import VirtioCrash.Harness.Buffers
import VirtioCrash.Scsi.CdbFormat

/-!
# The data buffer of a SCSI command

`submit_scsi_cmd` drops a command or publishes its request, an optional out buffer, the response and
an optional in buffer. The length of a data buffer is a product of 32-bit words, capped afterwards,
so a giant transfer can wrap around to a short one.
-/

namespace VirtioCrash.Scsi

open StateProgram Bytes

/-- What the chain of a command consists of: the lengths and directions of its buffers. -/
def cmdChain (outLen inLen : UInt32) : List (UInt32 × Bool) :=
  [(52, false)] ++ (if outLen > 0 then [(outLen, false)] else []) ++
    [(12 + UInt32.ofNat kSenseSize, true)] ++ if inLen > 0 then [(inLen, true)] else []

def CmdChain (outLen inLen : UInt32) (ps : List Piece) : Prop :=
  ps.map (fun p => (p.len, p.deviceWritable)) = cmdChain outLen inLen

/-- What a command sends: its request, its out data, room for the response and for its in data. -/
def cmdLoads (c : ScsiCmd) (outLen inLen : UInt32) : List Load :=
  [.ofBytes (scsiReq c) 52 false] ++
    (if outLen > 0 then [.ofBytes (paddedOut (outDataOf c.cdb) outLen) outLen false] else []) ++
    [.ofBytes (List.replicate (12 + kSenseSize) 0) (12 + UInt32.ofNat kSenseSize) true] ++
    if inLen > 0 then [.ofBytes (List.replicate inLen.toNat 0) inLen true] else []

/-- The lengths of the buffers it stages for that. -/
def cmdLens (outLen inLen : UInt32) : List UInt32 :=
  [52] ++ (if outLen > 0 then [outLen] else []) ++ [12 + UInt32.ofNat kSenseSize] ++
    if inLen > 0 then [inLen] else []

theorem sends_submitScsiCmd (c : ScsiCmd) (w : World kMaxQueues (Synth Unit)) :
    let outLen := capLen (packCdb c.cdb).outLen
    let inLen := capLen (packCdb c.cdb).inLen
    Sends 5 (Fin.ofNat kMaxQueues c.vqIdx.toNat) (cmdLens outLen inLen)
      (cmdLoads c outLen inLen) w ((submitScsiCmd c).run w).2 := by
  rw [submitScsiCmd]
  generalize capLen (packCdb c.cdb).outLen = outLen
  generalize capLen (packCdb c.cdb).inLen = inLen
  generalize Fin.ofNat kMaxQueues c.vqIdx.toNat = vq
  apply sends_guarded
  intro _
  apply (Loaded.start w).thenAlloc (by simp) (scsiReq c) 52 false (by simp [cmdLens])
  intro reqGpa w1 _ h1
  apply h1.thenAllocIf (by simp) (paddedOut (outDataOf c.cdb) outLen) outLen false
    (by simp [cmdLens])
  intro outId outGpa w2 _ houtId h2
  apply h2.thenAlloc (by split <;> simp) (List.replicate (12 + kSenseSize) 0)
    (12 + UInt32.ofNat kSenseSize) true (by simp [cmdLens, apply_ite (List.map _)])
  intro respGpa w3 _ h3
  apply h3.thenAllocIf (by split <;> simp) (List.replicate inLen.toNat 0) inLen true
    (by simp [cmdLens, apply_ite (List.map _)])
  intro inId inGpa w4 _ hinId h4
  have hreq := h4.names [] ⟨reqGpa, .ofBytes (scsiReq c) 52 false⟩
    ((if outLen > 0 then
        [⟨outGpa, .ofBytes (paddedOut (outDataOf c.cdb) outLen) outLen false⟩] else []) ++
      [⟨respGpa, .ofBytes (List.replicate (12 + kSenseSize) 0) (12 + UInt32.ofNat kSenseSize)
        true⟩] ++
      if inLen > 0 then [⟨inGpa, .ofBytes (List.replicate inLen.toNat 0) inLen true⟩] else [])
    (by simp)
  have hout : outLen > 0 → Names w4 outId
      (Cargo.piece ⟨outGpa, .ofBytes (paddedOut (outDataOf c.cdb) outLen) outLen false⟩) := by
    intro hc
    rw [houtId hc]
    apply h4.names [_] _ ([⟨respGpa, .ofBytes (List.replicate (12 + kSenseSize) 0)
        (12 + UInt32.ofNat kSenseSize) true⟩] ++
      if inLen > 0 then [⟨inGpa, .ofBytes (List.replicate inLen.toNat 0) inLen true⟩] else [])
    simp [if_pos hc]
  have hresp := h4.names _ ⟨respGpa, .ofBytes (List.replicate (12 + kSenseSize) 0)
    (12 + UInt32.ofNat kSenseSize) true⟩ _ rfl
  have hin : inLen > 0 → Names w4 inId
      (Cargo.piece ⟨inGpa, .ofBytes (List.replicate inLen.toNat 0) inLen true⟩) := by
    intro hc
    rw [hinId hc]
    exact h4.names _ _ [] (by rw [if_pos hc, List.append_nil])
  change Post _ _ (w4.placeOpen vq ([].map Cargo.piece))
  apply Loaded.placeNext hreq
  intro _
  apply Loaded.placeNextIf hout
  intro _
  apply h4.placeTail hresp hin
  · simp [cmdLens, apply_ite (List.map _)]
  · exact fun e he => he
  · simp [cmdLoads, apply_ite (List.map _)]

private theorem cmdChain_of_loads (c : ScsiCmd) {outLen inLen : UInt32} {ps : List Piece}
    (h : ps.map (fun p => (p.len, p.deviceWritable)) =
      (cmdLoads c outLen inLen).map fun l => (l.len, l.deviceWritable)) :
    CmdChain outLen inLen ps := by
  rw [CmdChain, h, cmdLoads, cmdChain]
  simp only [List.map_append, apply_ite (List.map _)]
  rfl

theorem outcome_submitScsiCmd (c : ScsiCmd) (w : World kMaxQueues (Synth Unit)) :
    Outcome (Fin.ofNat kMaxQueues c.vqIdx.toNat)
      (CmdChain (capLen (packCdb c.cdb).outLen) (capLen (packCdb c.cdb).inLen)) w
      ((submitScsiCmd c).run w).2 :=
  (sends_submitScsiCmd c w).outcome fun _ => cmdChain_of_loads c

/-- The descriptors a run placed, in order. -/
def placed (m : ScsiM Unit) (w : World kMaxQueues (Synth Unit)) : List Placement :=
  (newest (placements (m.run w).2.hist) (placements w.hist)).reverse

/-- The lengths of the data descriptors of a chain. Its device-readable part starts with the request
and its device-writable part with the response; what follows these is data. -/
def dataLens (ps : List (UInt32 × Bool)) : List Nat :=
  ((ps.filter fun p => !p.2).drop 1 ++ (ps.filter fun p => p.2).drop 1).map fun p => p.1.toNat

def placedDataLens (c : ScsiCmd) (w : World kMaxQueues (Synth Unit)) : List Nat :=
  dataLens ((placed (submitScsiCmd c) w).map fun p => (p.len, p.deviceWritable))

/-- The block count in the CDB of a READ or WRITE message: 16 bits of a 10-byte form and 32 bits of
a 16-byte form. -/
def blockCount (cdb : Cdb) : Option Nat :=
  match cdb with
  | .read10 _ | .write10 _ _ => some (beAt (cdbBytes cdb) 7 2)
  | .read16 _ | .write16 _ _ => some (beAt (cdbBytes cdb) 10 4)
  | _ => none

/-- The data descriptors that a transfer of `t` blocks should have. -/
def transferLens (t : Nat) : List Nat := if t = 0 then [] else [min 4096 (512 * t)]

private theorem placed_submitScsiCmd (c : ScsiCmd) (w : World kMaxQueues (Synth Unit))
    (hplaced : placed (submitScsiCmd c) w ≠ []) :
    (placed (submitScsiCmd c) w).map (fun p => (p.len, p.deviceWritable)) =
      cmdChain (capLen (packCdb c.cdb).outLen) (capLen (packCdb c.cdb).inLen) := by
  cases outcome_submitScsiCmd c w with
  | dropped hs =>
      have hsame := hs.placements_eq (by decide)
      have hnew := newest_append [] (placements w.hist)
      rw [List.nil_append] at hnew
      exact absurd (by rw [placed, hsame, hnew, List.reverse_nil]) hplaced
  | published v ps after hs hps hst htrace hafter hhist =>
      rw [placed, hhist, placements_placeChain, hs.placements_eq (by decide), newest_append,
        List.reverse_reverse, chainPlacements_map]
      exact hps

private theorem dataLens_cmdChain (outLen inLen : UInt32) :
    dataLens (cmdChain outLen inLen) =
      (if outLen > 0 then [outLen.toNat] else []) ++ if inLen > 0 then [inLen.toNat] else [] := by
  simp only [dataLens, cmdChain]
  by_cases hout : outLen > 0
  · by_cases hin : inLen > 0
    · simp [hout, hin]
    · simp [hout, hin]
  · by_cases hin : inLen > 0
    · simp [hout, hin]
    · simp [hout, hin]

private theorem capLen_toNat (len : UInt32) : (capLen len).toNat = min 4096 len.toNat := by
  simp only [capLen, gt_iff_lt, UInt32.lt_iff_toNat_lt, UInt32.reduceToNat]
  split
  · simp only [UInt32.reduceToNat]
    omega
  · omega

private theorem cappedLens_iff (len : UInt32) (t : Nat) (hlen : len.toNat = t * 512 % 2 ^ 32) :
    (if capLen len > 0 then [(capLen len).toNat] else []) = transferLens t ↔
      t < 2 ^ 23 ∨ 8 ≤ t % 2 ^ 23 := by
  have hpos : capLen len > 0 ↔ 0 < min 4096 (t * 512 % 2 ^ 32) := by
    rw [gt_iff_lt, UInt32.lt_iff_toNat_lt, capLen_toNat, hlen]
    rfl
  simp only [hpos, capLen_toNat, hlen, transferLens]
  by_cases hwrap : 0 < min 4096 (t * 512 % 2 ^ 32)
  · have ht : t ≠ 0 := by
      rintro rfl
      simp at hwrap
    rw [if_pos hwrap, if_neg ht, List.cons.injEq]
    simp only [and_true]
    omega
  · rw [if_neg hwrap]
    by_cases ht : t = 0
    · simp [ht]
    · rw [if_neg ht]
      simp only [List.ne_cons_self, false_iff]
      omega

private theorem transfer_lengths (cdb : Cdb) (t : Nat) (ht : blockCount cdb = some t) :
    ∃ len : UInt32, len.toNat = t * 512 % 2 ^ 32 ∧
      (((packCdb cdb).outLen = 0 ∧ (packCdb cdb).inLen = len) ∨
        ((packCdb cdb).outLen = len ∧ (packCdb cdb).inLen = 0)) := by
  have h16 (n : UInt32) : ((n &&& 0xffff) * 512).toNat = n.toNat % 65536 * 512 % 2 ^ 32 := by
    rw [UInt32.toNat_mul, and_mask_toNat n 0xffff 16 rfl]
    rfl
  have h32 (n : UInt32) : (n * 512).toNat = n.toNat * 512 % 2 ^ 32 := by
    rw [UInt32.toNat_mul]
    rfl
  cases cdb with
  | read10 m =>
      obtain ⟨-, -, -, hcount, -⟩ := rw10_fields 0x28 m (List.replicate 22 0)
      cases ht
      have hlen := h16 m.transferLen
      rw [← hcount] at hlen
      exact ⟨_, hlen, Or.inl ⟨rfl, rfl⟩⟩
  | write10 m data =>
      obtain ⟨-, -, -, hcount, -⟩ := rw10_fields 0x2a m (List.replicate 22 0)
      cases ht
      have hlen := h16 m.transferLen
      rw [← hcount] at hlen
      exact ⟨_, hlen, Or.inr ⟨rfl, rfl⟩⟩
  | read16 m =>
      obtain ⟨-, -, -, hcount, -⟩ := rw16_fields 0x88 m (List.replicate 16 0)
      cases ht
      have hlen := h32 m.transferLen
      rw [← hcount] at hlen
      exact ⟨_, hlen, Or.inl ⟨rfl, rfl⟩⟩
  | write16 m data =>
      obtain ⟨-, -, -, hcount, -⟩ := rw16_fields 0x8a m (List.replicate 16 0)
      cases ht
      have hlen := h32 m.transferLen
      rw [← hcount] at hlen
      exact ⟨_, hlen, Or.inr ⟨rfl, rfl⟩⟩
  | _ => cases ht

/-- The chain of a READ or WRITE command has the data descriptor that its block count asks for
exactly when the product is below 2^32 or wraps around to one that is capped as well. -/
theorem placedDataLens_iff (c : ScsiCmd) (t : Nat) (ht : blockCount c.cdb = some t)
    (w : World kMaxQueues (Synth Unit)) (hplaced : placed (submitScsiCmd c) w ≠ []) :
    placedDataLens c w = transferLens t ↔ t < 2 ^ 23 ∨ 8 ≤ t % 2 ^ 23 := by
  obtain ⟨len, hlen, hside⟩ := transfer_lengths c.cdb t ht
  rw [placedDataLens, placed_submitScsiCmd c w hplaced, dataLens_cmdChain,
    ← cappedLens_iff len t hlen]
  have hzero : ¬capLen 0 > 0 := by decide
  rcases hside with ⟨hout, hin⟩ | ⟨hout, hin⟩
  · rw [hout, hin, if_neg hzero, List.nil_append]
  · rw [hout, hin, if_neg hzero, List.append_nil]

theorem placedDataLens_one_block :
    placedDataLens ⟨2, 0, 1, 7, 0, 0, 0, .read16 ⟨false, false, 0, 1, 0⟩⟩ readyWorld = [512] := by
  have h := placedDataLens_iff ⟨2, 0, 1, 7, 0, 0, 0, .read16 ⟨false, false, 0, 1, 0⟩⟩ 1 (by decide)
    readyWorld (by decide)
  exact h.mpr (by decide)

/-- A transfer of 2^23 blocks wraps around to none. -/
theorem placedDataLens_wraps :
    ¬∀ (c : ScsiCmd) (t : Nat) (w : World kMaxQueues (Synth Unit)),
      blockCount c.cdb = some t → placed (submitScsiCmd c) w ≠ [] →
        placedDataLens c w = transferLens t := by
  intro h
  have hread := h ⟨2, 0, 1, 7, 0, 0, 0, .read16 ⟨false, false, 0, 8388608, 0⟩⟩ 8388608 readyWorld
    (by decide) (by decide)
  exact absurd hread (by decide)

end VirtioCrash.Scsi
