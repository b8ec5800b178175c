import VirtioCrash.Balloon.Harness
import VirtioCrash.Harness.Message
import VirtioCrash.Harness.Reached
import VirtioCrash.Lib.Decoder

/-!
# The wire format of the balloon lists

The inflate and the deflate queue carry page numbers of 4 bytes, the statistics queue records of 10
bytes. A list is cut to its first 1024 or 64 entries and read back entry by entry.
-/

namespace VirtioCrash.Balloon

open StateProgram Bytes Decoder

/-- A `virtio_balloon_stat` as the device reads it. -/
structure Stat where
  tag : Nat
  val : Nat
  deriving DecidableEq

def decodeStat : Decoder Stat := do
  let tag ← le 2
  let val ← le 8
  return { tag, val }

/-- The record an entry should become: the tag field has 16 bits. -/
def statOf (e : StatsEntry) : Stat where
  tag := e.tag.toNat % 2 ^ 16
  val := e.value.toNat

private theorem orZeros_flatMap {α : Type} {size : Nat} {enc : α → List UInt8} (hsize : 0 < size)
    (hlen : ∀ a, (enc a).length = size) {as : List α} (has : as ≠ []) :
    orZeros size (as.flatMap enc) = as.flatMap enc := by
  obtain ⟨a, rest, rfl⟩ := List.exists_cons_of_ne_nil has
  have hne : (List.flatMap enc (a :: rest)) ≠ [] := by
    rw [← List.length_pos_iff, List.flatMap_cons, List.length_append, hlen]
    omega
  rw [orZeros, if_neg (by simpa using hne)]

private theorem take_ne_nil {α : Type} {as : List α} (has : as ≠ []) {k : Nat} (hk : 0 < k) :
    as.take k ≠ [] := by
  rw [← List.length_pos_iff, List.length_take]
  have := List.length_pos_iff.mpr has
  omega

private theorem packStat_length (e : StatsEntry) : (packStat e).length = 10 := by
  simp [packStat]

private theorem packPfns_eq {pfns : List UInt32} (h : pfns ≠ []) :
    packPfns pfns = (pfns.take 1024).flatMap le32 :=
  orZeros_flatMap (by decide) le32_length (take_ne_nil h (by decide))

private theorem packStats_eq {entries : List StatsEntry} (h : entries ≠ []) :
    packStats entries = (entries.take 64).flatMap packStat :=
  orZeros_flatMap (by decide) packStat_length (take_ne_nil h (by decide))

private theorem decodes_packStat (e : StatsEntry) : Decodes decodeStat (packStat e) (statOf e) := by
  have htag := Decodes.le16 e.tag.toUInt16
  rw [UInt32.toNat_toUInt16] at htag
  exact htag.bind ((Decodes.le64 e.value).map _)

theorem records_packPfns {pfns : List UInt32} (h : pfns ≠ []) :
    (le 4).records 4 (packPfns pfns) = some ((pfns.take 1024).map UInt32.toNat) := by
  rw [packPfns_eq h]
  exact Decodes.records (by decide) le32_length Decodes.le32 _

theorem records_packStats {entries : List StatsEntry} (h : entries ≠ []) :
    decodeStat.records 10 (packStats entries) = some ((entries.take 64).map statOf) := by
  rw [packStats_eq h]
  exact Decodes.records (by decide) packStat_length decodes_packStat _

theorem packPfns_le {pfns : List UInt32} (h : pfns ≠ []) : (packPfns pfns).length ≤ 4096 := by
  rw [packPfns_eq h]
  simp [List.length_flatMap]
  omega

theorem packStats_le {entries : List StatsEntry} (h : entries ≠ []) :
    (packStats entries).length ≤ 4096 := by
  rw [packStats_eq h]
  simp [List.length_flatMap, packStat_length]
  omega

private theorem sends_submitBuf (vq : Fin kMaxQueues) (buf : List UInt8)
    (w : World kMaxQueues (Synth Unit)) :
    Sends 1 vq [UInt32.ofNat buf.length] [.ofBytes buf (UInt32.ofNat buf.length) false] w
      ((submitBuf vq buf).run w).2 := by
  rw [submitBuf]
  apply sends_guarded
  intro _
  exact delivers_lone vq buf _ false w

/-- What is sent is the whole buffer, in one descriptor of its length, when the queue has a free
descriptor, the pool has room and the next buffer id is not that of a failure, and nothing else. -/
structure SendsWhole (vq : Fin kMaxQueues) (buf : List UInt8) (m : BalloonM Unit)
    (w : World kMaxQueues (Synth Unit)) : Prop where
  len : (UInt32.ofNat buf.length).toNat = buf.length
  sent : VirtioCrash.sent m w =
    if Takes 1 vq [⟨buf, UInt32.ofNat buf.length, false⟩] w ∧ w.st.ext.synthBufId ≠ 0 then
      [⟨vq, buf, UInt32.ofNat buf.length, false, false⟩]
    else []

private theorem mintedId_zero (w : World kMaxQueues (Synth Unit)) :
    mintedId w 0 = w.st.ext.synthBufId :=
  UInt32.add_zero _

private theorem sent_submitBuf_zero (vq : Fin kMaxQueues) (buf : List UInt8)
    {w : World kMaxQueues (Synth Unit)} (hid : w.st.ext.synthBufId = 0) :
    sent (submitBuf vq buf) w = [] := by
  by_cases hready : Ready 1 (w.st.vqs vq)
  · have hquiet : placements (((allocBuf buf (UInt32.ofNat buf.length)).run w).2).hist =
          placements w.hist ∧ ((allocBuf buf (UInt32.ofNat buf.length)).run w).1 = 0 := by
      by_cases hfull : PoolFull w.st.bufAlloc (UInt32.ofNat buf.length)
      · rw [allocBuf_full _ _ w hfull]
        exact ⟨rfl, rfl⟩
      · obtain ⟨hminted, hloaded⟩ := (Loaded.start w).stage (by simp) buf false hfull
        exact ⟨hloaded.steps.placements_eq (by decide), hminted.trans ((mintedId_zero w).trans hid)⟩
    have hrun : ((submitBuf vq buf).run w).2 =
        ((allocBuf buf (UInt32.ofNat buf.length)).run w).2 := by
      rw [submitBuf, run_bind, getState_run]
      dsimp only
      rw [if_neg hready.1, if_neg hready.2, run_bind, if_pos hquiet.2]
      rfl
    rw [sent, hrun]
    exact shipped_of_placements_eq hquiet.1
  · rw [sent, (sends_submitBuf vq buf w).idle hready]
    exact shipped_of_placements_eq rfl

private theorem submitBuf_sendsWhole (vq : Fin kMaxQueues) {buf : List UInt8}
    (hlen : buf.length ≤ 4096) {ops : List VirtioOp} {w : World kMaxQueues (Synth Unit)}
    (hw : Reached target ops w) : SendsWhole vq buf (submitBuf vq buf) w where
  len := by
    rw [UInt32.toNat_ofNat']
    omega
  sent := by
    have hroom := (hw.poolInv confined (by decide)).le_end
    have hsends := sends_submitBuf vq buf w
    have hnat : (UInt32.ofNat buf.length).toNat = buf.length := by
      rw [UInt32.toNat_ofNat']
      omega
    have hchain : chainOf vq [.ofBytes buf (UInt32.ofNat buf.length) false] =
        [⟨vq, buf, UInt32.ofNat buf.length, false, false⟩] := by
      rw [Load.ofBytes_self hnat.ge]
      rfl
    by_cases hid : w.st.ext.synthBufId = 0
    · rw [if_neg fun h => h.2 hid]
      exact sent_submitBuf_zero vq buf hid
    · have hno : NoZero w 1 := by
        intro j hj
        rw [Nat.lt_one_iff.mp hj, mintedId_zero]
        exact hid
      have hiff := hsends.shipped_iff hno hroom (List.cons_ne_nil _ _)
      rw [hchain] at hiff
      split
      · rename_i htakes
        exact hiff.mpr htakes.1
      · rename_i htakes
        rcases hsends.shipped hroom with hnone | hone
        · exact hnone
        · rw [hchain] at hone
          exact absurd ⟨hiff.mp hone, hid⟩ htakes

/-- A list that is not empty becomes a buffer of whole records, the first 1024 page numbers or the
first 64 statistics in order, and that buffer is sent in one descriptor of its length, unless there
is no room for it. -/
theorem lists_decode {ops : List VirtioOp} {w : World kMaxQueues (Synth Unit)}
    (hw : Reached target ops w) :
    (∀ vq pfns, pfns ≠ [] →
      (le 4).records 4 (packPfns pfns) = some ((pfns.take 1024).map UInt32.toNat) ∧
        SendsWhole vq (packPfns pfns) (submitPfnList vq pfns) w) ∧
    (∀ entries, entries ≠ [] →
      decodeStat.records 10 (packStats entries) = some ((entries.take 64).map statOf) ∧
        SendsWhole statsVq (packStats entries) (submitStats entries) w) := by
  constructor
  · intro vq pfns hne
    exact ⟨records_packPfns hne, submitBuf_sendsWhole vq (packPfns_le hne) hw⟩
  · intro entries hne
    exact ⟨records_packStats hne, submitBuf_sendsWhole statsVq (packStats_le hne) hw⟩

/-- A machine whose inflate and statistics queues are set up. -/
def readyWorld : World kMaxQueues (Synth Unit) :=
  runFromReset target [.common (.vqSetup 0 8), .common (.vqSetup 2 8)]
    ⟨fun _ _ => 8, [], threadBState target, []⟩

theorem lists_decode_two :
    (le 4).records 4 (packPfns [7, 0x01020304]) = some [7, 0x01020304] ∧
      (sent (submitPfnList 0 [7, 0x01020304]) readyWorld).length = 1 ∧
      SendsWhole 0 (packPfns [7, 0x01020304]) (submitPfnList 0 [7, 0x01020304]) readyWorld ∧
      decodeStat.records 10 (packStats [⟨4, 0x100000000⟩, ⟨0x10005, 7⟩]) =
        some [⟨4, 0x100000000⟩, ⟨5, 7⟩] ∧
      (sent (submitStats [⟨4, 0x100000000⟩, ⟨0x10005, 7⟩]) readyWorld).length = 1 ∧
      SendsWhole statsVq (packStats [⟨4, 0x100000000⟩, ⟨0x10005, 7⟩])
        (submitStats [⟨4, 0x100000000⟩, ⟨0x10005, 7⟩]) readyWorld := by
  have hw : Reached target [VirtioOp.common (.vqSetup 2 8), VirtioOp.common (.vqSetup 0 8)]
      readyWorld :=
    reached_runFromReset [VirtioOp.common (.vqSetup 0 8), VirtioOp.common (.vqSetup 2 8)] _
  obtain ⟨hpfns, hinflate⟩ := (lists_decode hw).1 0 [7, 0x01020304] (by simp)
  obtain ⟨hstats, hsubmit⟩ := (lists_decode hw).2 [⟨4, 0x100000000⟩, ⟨0x10005, 7⟩] (by simp)
  exact ⟨hpfns, by decide +kernel, hinflate, hstats, by decide +kernel, hsubmit⟩

end VirtioCrash.Balloon
