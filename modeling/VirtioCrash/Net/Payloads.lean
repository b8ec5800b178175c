import VirtioCrash.Net.Submissions
import VirtioCrash.Harness.Reached
import VirtioCrash.Lib.Decoder

/-!
# What the device is sent

The frame of a packet and the payloads of the control commands that carry lists, read back from the
buffers behind the descriptors they are placed with.
-/

namespace VirtioCrash.Net

open StateProgram Bytes Decoder

theorem room_of_reached {ops : List VirtioOp} {w : World kMaxQueues (Synth NetDevice)}
    (hw : Reached target ops w) : w.st.bufAlloc ≤ kBufPoolEnd :=
  (hw.poolInv confined (by decide)).le_end

def readyOps : List VirtioOp := [.common (.vqSetup 1 8), .common (.vqSetup 2 8)]

/-- A machine whose queues 1 and 2 are set up with eight descriptors each. -/
def readyWorld : World kMaxQueues (Synth NetDevice) :=
  runFromReset target readyOps
    ⟨fun _ _ => 8, [], ⟨fun _ => .default, 0, fun _ => none, resetExt⟩, []⟩

theorem reached_readyWorld : Reached target readyOps.reverse readyWorld :=
  reached_runFromReset readyOps _

private theorem packNetHdr_length (p : TxPacket) : (packNetHdr p).length = 12 := by
  simp [packNetHdr]

private theorem frameLen_toNat (p : TxPacket) :
    (frameLen p).toNat = min (taggedPayload p).length 9018 := by
  rw [frameLen, UInt32.toNat_ofNat']
  omega

/-- The frame a packet is staged with: what fits of the tagged payload. -/
def frameOf (p : TxPacket) : List UInt8 := (taggedPayload p).take 9018

private theorem txLoads_eq (p : TxPacket) :
    txLoads p = ⟨packNetHdr p, 12, false⟩ ::
      if frameOf p = [] then [] else [⟨frameOf p, frameLen p, false⟩] := by
  have hlen := frameLen_toNat p
  have hframe : (taggedPayload p).take (frameLen p).toNat = frameOf p := by
    rw [hlen, frameOf, List.take_eq_take_iff]
    omega
  have hiff : frameLen p > 0 ↔ ¬frameOf p = [] := by
    rw [gt_iff_lt, UInt32.lt_iff_toNat_lt, hlen, frameOf, ← List.length_eq_zero_iff,
      List.length_take]
    simp only [UInt32.toNat_zero]
    omega
  rw [txLoads, Load.ofBytes_self (by rw [packNetHdr_length]; rfl), Load.ofBytes, hframe,
    List.singleton_append]
  congr 1
  by_cases h : frameOf p = []
  · rw [if_pos h, if_neg (by rw [hiff]; exact not_not.mpr h)]
  · rw [if_neg h, if_pos (hiff.mpr h)]

/-- The four bytes of the tag. -/
def vlanTag (tci : UInt32) : List UInt8 :=
  [0x81, 0x00, ((tci >>> 8) &&& 0xff).toUInt8, (tci &&& 0xff).toUInt8]

private theorem vlanTag_tci (tci : UInt32) :
    ofBe (slice (vlanTag tci) 2 2) = tci.toNat % 2 ^ 16 := by
  have hhi : ((tci >>> 8) &&& 0xff).toUInt8.toNat = tci.toNat / 256 % 256 := by
    rw [UInt32.toNat_toUInt8, and_mask_toNat _ 0xff 8 rfl, UInt32.toNat_shiftRight,
      Nat.shiftRight_eq_div_pow]
    simp
  have hlo : (tci &&& 0xff).toUInt8.toNat = tci.toNat % 256 := by
    rw [UInt32.toNat_toUInt8, and_mask_toNat _ 0xff 8 rfl]
    simp
  simp only [vlanTag, slice, List.drop_succ_cons, List.drop_zero, List.take_succ_cons,
    List.take_zero, ofBe, List.reverse_cons, List.reverse_nil, List.nil_append,
    List.cons_append, ofLe, hhi, hlo]
  omega

private theorem taggedPayload_splice (p : TxPacket) (htci : p.vlanTci ≠ 0)
    (hlen : 14 ≤ p.payload.length) :
    taggedPayload p = p.payload.take 12 ++ vlanTag p.vlanTci ++ p.payload.drop 12 := by
  rw [taggedPayload, if_pos ⟨htci, hlen⟩]
  rfl

private theorem taggedPayload_plain (p : TxPacket) (h : p.vlanTci = 0 ∨ p.payload.length < 14) :
    taggedPayload p = p.payload := by
  rw [taggedPayload, if_neg]
  rintro ⟨htci, hlen⟩
  rcases h with h | h
  · exact htci h
  · omega

/-- The frame without the bytes at offset 12 where the tag goes. -/
def untagged (frame : List UInt8) : List UInt8 := frame.take 12 ++ frame.drop 16

private theorem frameOf_splice (p : TxPacket) (htci : p.vlanTci ≠ 0)
    (hlen : 14 ≤ p.payload.length) :
    (frameOf p).length = min p.payload.length 9014 + 4 ∧
      slice (frameOf p) 12 4 = vlanTag p.vlanTci ∧
      untagged (frameOf p) = p.payload.take 9014 := by
  have h12 : (p.payload.take 12).length = 12 := by
    rw [List.length_take]
    omega
  have hsplit : frameOf p =
      p.payload.take 12 ++ (vlanTag p.vlanTci ++ (p.payload.drop 12).take 9002) := by
    rw [frameOf, taggedPayload_splice p htci hlen, List.append_assoc, List.take_append, h12,
      List.take_append, List.take_take]
    rfl
  refine ⟨?_, ?_, ?_⟩
  · rw [hsplit, List.length_append, h12, List.length_append, List.length_take, List.length_drop]
    simp only [vlanTag, List.length_cons, List.length_nil]
    omega
  · rw [hsplit, slice_append_right _ _ _ _ (by omega), h12]
    exact slice_zero_append (vlanTag p.vlanTci) _
  · have hdrop : (frameOf p).drop 16 = (p.payload.drop 12).take 9002 := by
      rw [hsplit, ← List.append_assoc]
      exact List.drop_left' (by rw [List.length_append, h12]; rfl)
    have htake : (frameOf p).take 12 = p.payload.take 12 := by
      rw [hsplit]
      exact List.take_left' h12
    have hparts := List.take_append_drop 12 (p.payload.take 9014)
    rw [List.take_take] at hparts
    rw [untagged, hdrop, htake, List.take_drop]
    exact hparts

private theorem chainOf_txLoads (p : TxPacket) :
    ∃ hdr rest, chainOf (vqOf p.vqIdx) (txLoads p) = hdr :: rest ∧ rest.length ≤ 1 ∧
      (hdr.chainNext = true ↔ ∃ d ∈ rest, d.bytes ≠ []) ∧
        rest.flatMap SentDesc.bytes = frameOf p := by
  rw [txLoads_eq]
  by_cases hempty : frameOf p = []
  · rw [if_pos hempty]
    exact ⟨_, _, rfl, by simp [chainOf], by simp [chainOf], hempty.symm⟩
  · rw [if_neg hempty]
    exact ⟨_, _, rfl, by simp [chainOf], by simp [chainOf, hempty], by simp [chainOf]⟩

/-- The header and the frame of every packet that is sent: a tag is spliced in at offset 12 and can
be taken out again, other frames are sent as they are, and the header announces a frame exactly
when one follows. -/
theorem txPacket_frame (p : TxPacket) {ops : List VirtioOp}
    {w : World kMaxQueues (Synth NetDevice)} (hw : Reached target ops w)
    (hsent : sent (opTxPacket p) w ≠ []) :
    ∃ hdr rest, sent (opTxPacket p) w = hdr :: rest ∧ rest.length ≤ 1 ∧
      (hdr.chainNext = true ↔ ∃ d ∈ rest, d.bytes ≠ []) ∧
      let frame := rest.flatMap SentDesc.bytes
      (p.vlanTci ≠ 0 → 14 ≤ p.payload.length → p.payload.length ≤ 9014 →
        frame.length = p.payload.length + 4 ∧ slice frame 12 2 = [0x81, 0x00] ∧
          ofBe (slice frame 14 2) = p.vlanTci.toNat % 2 ^ 16 ∧ untagged frame = p.payload) ∧
      (p.vlanTci ≠ 0 → 9014 < p.payload.length →
        frame.length = 9018 ∧ untagged frame = p.payload.take 9014) ∧
      (p.vlanTci = 0 ∨ p.payload.length < 14 →
        frame = p.payload.take (min p.payload.length 9018)) := by
  have hchain : sent (opTxPacket p) w = chainOf (vqOf p.vqIdx) (txLoads p) := by
    rcases (sends_opTxPacket p w).shipped (room_of_reached hw) with hnone | hchain
    · exact absurd hnone hsent
    · exact hchain
  obtain ⟨hdr, rest, hsplit, hfew, hnext, hframe⟩ := chainOf_txLoads p
  refine ⟨hdr, rest, hchain.trans hsplit, hfew, hnext, ?_⟩
  dsimp only
  rw [hframe]
  refine ⟨?_, ?_, ?_⟩
  · intro htci hlo hhi
    obtain ⟨hlen, htag, hback⟩ := frameOf_splice p htci hlo
    have htpid : slice (frameOf p) 12 2 = slice (slice (frameOf p) 12 4) 0 2 := by
      simp [slice, List.take_take]
    have htcis : slice (frameOf p) 14 2 = slice (slice (frameOf p) 12 4) 2 2 := by
      simp [slice, List.drop_take, List.take_take]
    refine ⟨by omega, ?_, ?_, ?_⟩
    · rw [htpid, htag]
      rfl
    · rw [htcis, htag]
      exact vlanTag_tci p.vlanTci
    · rw [hback]
      exact List.take_of_length_le hhi
  · intro htci hlong
    obtain ⟨hlen, -, hback⟩ := frameOf_splice p htci (by omega)
    exact ⟨by omega, hback⟩
  · intro hplain
    rw [frameOf, taggedPayload_plain p hplain, List.take_eq_take_iff]
    omega

/-- A frame of 14 bytes with a tag. -/
def taggedPacket : TxPacket where
  vqIdx := 1
  hdrFlags := 0
  gsoType := 0
  hdrLen := 0
  gsoSize := 0
  csumStart := 0
  csumOffset := 0
  numBuffers := 0
  payload := List.replicate 14 0xab
  vlanTci := 0x12005

theorem txPacket_frame_tagged :
    ∃ hdr rest, sent (opTxPacket taggedPacket) readyWorld = hdr :: rest ∧
      hdr.chainNext = true ∧ ofBe (slice (rest.flatMap SentDesc.bytes) 14 2) = 0x2005 := by
  obtain ⟨hdr, rest, hsent, -, hnext, hsplice, -⟩ :=
    txPacket_frame taggedPacket reached_readyWorld (by decide +kernel)
  obtain ⟨hlen, -, htci, -⟩ := hsplice (by decide) (by decide) (by decide)
  refine ⟨hdr, rest, hsent, hnext.mpr ?_, htci.trans (by decide)⟩
  by_contra hnone
  have hempty : rest.flatMap SentDesc.bytes = [] := by
    rw [List.flatMap_eq_nil_iff]
    intro d hd
    by_contra hne
    exact hnone ⟨d, hd, hne⟩
  rw [hempty] at hlen
  exact absurd hlen (by decide)

private theorem payloadLen_toNat (payload : List UInt8) :
    (payloadLen payload).toNat = min (payload.length % 2 ^ 32) 2048 := by
  rw [payloadLen, min_toNat, UInt32.toNat_ofNat']
  rfl

/-- What a typed command with a payload sends. -/
def ctrlChain (vq : Nat) (vclass cmd : UInt8) (payload : List UInt8) : List SentDesc :=
  [⟨vq, [vclass, cmd], 2, false, true⟩,
    ⟨vq, payload.take (payloadLen payload).toNat, payloadLen payload, false, true⟩,
    ⟨vq, [0xff], 1, true, false⟩]

theorem sent_onCvq (vclass cmd : UInt8) {payload : List UInt8} (hne : payload ≠ [])
    {w : World kMaxQueues (Synth NetDevice)} (hroom : w.st.bufAlloc ≤ kBufPoolEnd) :
    let m := cvq >>= fun vq => submitCtrl vq vclass cmd payload
    sent m w = [] ∨ sent m w = ctrlChain (cvq.run w).1.toNat vclass cmd payload := by
  have hisEmpty : ¬payload.isEmpty = true := by simpa using hne
  change shipped w ((submitCtrl (cvq.run w).1 vclass cmd payload).run w).2 = [] ∨
    shipped w ((submitCtrl (cvq.run w).1 vclass cmd payload).run w).2 = _
  by_cases hi : (cvq.run w).1.toNat < kMaxQueues
  · have hsends := (sends_submitCtrl hi vclass cmd payload w).shipped hroom
    rw [ctrlLoads, if_pos hisEmpty] at hsends
    exact hsends
  · rw [submitCtrl_noQueue hi]
    exact Or.inl (shipped_of_placements_eq rfl)

private theorem sent_remembered (f : NetDevice → NetDevice) (vclass cmd : UInt8)
    {payload : List UInt8} (hne : payload ≠ []) {w : World kMaxQueues (Synth NetDevice)}
    (hroom : w.st.bufAlloc ≤ kBufPoolEnd) :
    let m := modifyDevice f >>= fun _ => cvq >>= fun vq => submitCtrl vq vclass cmd payload
    sent m w = [] ∨
      sent m w = ctrlChain (2 * (f w.st.ext.device).activePairs).toNat vclass cmd payload :=
  sent_onCvq vclass cmd hne
    (w := w.setExt fun e => { e with device := f e.device }) hroom

/-- A MAC table: two lists of addresses, each behind its 32-bit count. -/
def decodeMacTable : Decoder (List (List UInt8) × List (List UInt8)) := do
  let n ← le 4
  let unicast ← (bytes 6).many n
  let m ← le 4
  let multicast ← (bytes 6).many m
  return (unicast, multicast)

theorem pad6_length (s : List UInt8) : (pad6 s).length = 6 := by
  simp [pad6]

private theorem macTablePayload_length (l : MacList) :
    (macTablePayload l).length = 8 + 6 * (l.unicast.length + l.multicast.length) := by
  have hmacs (ms : List (List UInt8)) : (ms.flatMap pad6).length = 6 * ms.length := by
    induction ms with
    | nil => rfl
    | cons m ms ih =>
        rw [List.flatMap_cons, List.length_append, pad6_length, ih, List.length_cons]
        omega
  simp only [macTablePayload, List.length_append, le32_length, hmacs]
  omega

private theorem decodes_macTable {l : MacList} (hn : l.unicast.length < 2 ^ 32)
    (hm : l.multicast.length < 2 ^ 32) :
    Decodes decodeMacTable (macTablePayload l) (l.unicast.map pad6, l.multicast.map pad6) := by
  have hmacs (ms : List (List UInt8)) :
      Decodes ((bytes 6).many ms.length) (ms.flatMap pad6) (ms.map pad6) :=
    Decodes.many fun m _ => Decodes.bytes_of_length (pad6_length m)
  have hcount {k : Nat} (hk : k < 2 ^ 32) : Decodes (le 4) (le32 (UInt32.ofNat k)) k := by
    have h := Decodes.le32 (UInt32.ofNat k)
    rwa [UInt32.toNat_ofNat', Nat.mod_eq_of_lt hk] at h
  rw [macTablePayload, List.append_assoc, List.append_assoc]
  apply (hcount hn).bind
  apply (hmacs l.unicast).bind
  apply (hcount hm).bind
  exact (hmacs l.multicast).map (l.unicast.map pad6, ·)

private theorem uses_macTable :
    Uses decodeMacTable fun t k => k = 8 + 6 * (t.1.length + t.2.length) := by
  have hmacs := Uses.many ((Uses.bytes 6).mono fun _ _ h => h.2)
  apply ((Uses.le 4).bind fun n => (hmacs n).bind fun us =>
    (Uses.le 4).bind fun m => (hmacs m).bind fun ms => Uses.pure (us, ms)).mono
  rintro t k ⟨n, _, _, rfl, ⟨us, _, _, ⟨hus, rfl⟩, ⟨m, _, _, rfl,
    ⟨ms, _, _, ⟨hms, rfl⟩, ⟨rfl, rfl⟩, rfl⟩, rfl⟩, rfl⟩, rfl⟩
  subst hus hms
  dsimp only
  omega

/-- The MAC table a device is sent parses back as the lists of the message exactly when the whole
table fits into the 2048 bytes a typed command's payload is capped at. -/
theorem macTable_parses_iff (m : CtrlMacTableSet) {ops : List VirtioOp}
    {w : World kMaxQueues (Synth NetDevice)} (hw : Reached target ops w)
    (hsent : sent (opCtrlMacTableSet m) w ≠ []) :
    ∃ hdr data ack, sent (opCtrlMacTableSet m) w = [hdr, data, ack] ∧
      (decodeMacTable.whole data.bytes =
          some (m.unicastMacs.map pad6, m.multicastMacs.map pad6) ↔
        m.unicastMacs.length + m.multicastMacs.length ≤ 340) := by
  let l : MacList := ⟨m.unicastMacs, m.multicastMacs⟩
  have hlen : (macTablePayload l).length =
      8 + 6 * (m.unicastMacs.length + m.multicastMacs.length) := macTablePayload_length l
  have hne : macTablePayload l ≠ [] := List.ne_nil_of_length_pos (by omega)
  have hchain : sent (opCtrlMacTableSet m) w = [] ∨ sent (opCtrlMacTableSet m) w =
      ctrlChain (cvq.run w).1.toNat 1 0 (macTablePayload l) :=
    sent_remembered _ 1 0 hne (room_of_reached hw)
  refine ⟨_, _, _, hchain.resolve_left hsent, ?_⟩
  dsimp only
  have hcap := payloadLen_toNat (macTablePayload l)
  constructor
  · intro hparse
    have huses := uses_macTable.whole hparse
    simp only [List.length_take, List.length_map] at huses
    omega
  · intro hfew
    rw [List.take_of_length_le (by omega)]
    exact (decodes_macTable (l := l) (by change m.unicastMacs.length < _; omega)
      (by change m.multicastMacs.length < _; omega)).whole

theorem macTable_parses_one :
    ∃ data ∈ sent (opCtrlMacTableSet ⟨0, [[1, 2, 3]], []⟩) readyWorld,
      decodeMacTable.whole data.bytes = some ([[1, 2, 3, 0, 0, 0]], []) := by
  obtain ⟨hdr, data, ack, hsent, hiff⟩ :=
    macTable_parses_iff ⟨0, [[1, 2, 3]], []⟩ reached_readyWorld (by decide +kernel)
  rw [hsent]
  exact ⟨data, by simp, hiff.mpr (by decide)⟩

/-- A table of 341 addresses is cut in its last one. -/
theorem macTable_cut_at_341 :
    ¬∀ (m : CtrlMacTableSet) (ops : List VirtioOp) (w : World kMaxQueues (Synth NetDevice)),
      Reached target ops w → sent (opCtrlMacTableSet m) w ≠ [] →
      ∃ data ∈ sent (opCtrlMacTableSet m) w, decodeMacTable.whole data.bytes =
        some (m.unicastMacs.map pad6, m.multicastMacs.map pad6) := by
  intro hall
  have hlong := hall ⟨0, List.replicate 341 [], []⟩ _ _ reached_readyWorld (by decide +kernel)
  revert hlong
  decide +kernel

structure RssFields where
  hashTypes : Nat
  mask : Nat
  unclassifiedQueue : Nat
  table : List (List UInt8)
  maxTxVq : Nat
  key : List UInt8
  deriving DecidableEq

/-- An RSS configuration: the mask determines how many table entries follow it, and a byte how long
the key is. -/
def decodeRss : Decoder RssFields := do
  let hashTypes ← le 4
  let mask ← le 2
  let unclassifiedQueue ← le 2
  let table ← (bytes 2).many (mask + 1)
  let maxTxVq ← le 2
  let keyLen ← le 1
  let key ← bytes keyLen
  return { hashTypes, mask, unclassifiedQueue, table, maxTxVq, key }

private theorem rssMask_toNat (m : CtrlRssConfig) :
    ((m.indirectionTableMask &&& 0x7f).toUInt16).toNat =
      (m.indirectionTableMask &&& 0x7f).toNat ∧
      (m.indirectionTableMask &&& 0x7f).toNat < 128 := by
  have hmask := and_mask_toNat m.indirectionTableMask 0x7f 7 rfl
  rw [UInt32.toNat_toUInt16]
  omega

/-- The table of an RSS configuration, brought to the length its mask asks for. -/
def rssTable (m : CtrlRssConfig) : List UInt8 :=
  let want := 2 * ((m.indirectionTableMask &&& 0x7f).toNat + 1)
  (m.indirectionTable ++ List.replicate want 0).take want

private theorem rssTable_length (m : CtrlRssConfig) :
    (rssTable m).length = 2 * ((m.indirectionTableMask &&& 0x7f).toNat + 1) := by
  rw [rssTable, List.length_take, List.length_append, List.length_replicate]
  omega

private theorem rssPayload_eq (m : CtrlRssConfig) :
    rssPayload m = le32 m.hashTypes ++ (le16 (m.indirectionTableMask &&& 0x7f).toUInt16 ++
      (le16 m.unclassifiedQueue.toUInt16 ++ (rssTable m ++ (le16 m.maxTxVq.toUInt16 ++
        ([UInt8.ofNat (m.hashKey.take 40).length] ++ m.hashKey.take 40))))) := by
  have hwant : (((m.indirectionTableMask &&& 0x7f).toUInt16).toNat + 1) * 2 =
      2 * ((m.indirectionTableMask &&& 0x7f).toNat + 1) := by
    rw [(rssMask_toNat m).1, Nat.mul_comm]
  rw [rssPayload, hwant, rssTable]
  simp only [List.append_assoc]

private theorem rssPayload_length_le (m : CtrlRssConfig) : (rssPayload m).length ≤ 307 := by
  have hmask := (rssMask_toNat m).2
  simp only [rssPayload_eq, List.length_append, le32_length, le16_length, rssTable_length,
    List.length_take, List.length_cons, List.length_nil]
  omega

private theorem decodes_rss (m : CtrlRssConfig) :
    ∃ table, table.length = (m.indirectionTableMask &&& 0x7f).toNat + 1 ∧
      table.flatten = rssTable m ∧
      Decodes decodeRss (rssPayload m)
        { hashTypes := m.hashTypes.toNat
          mask := (m.indirectionTableMask &&& 0x7f).toNat
          unclassifiedQueue := m.unclassifiedQueue.toNat % 2 ^ 16
          table := table
          maxTxVq := m.maxTxVq.toNat % 2 ^ 16
          key := m.hashKey.take 40 } := by
  obtain ⟨table, htable, hlen, hflat⟩ := Decodes.chunks (rssTable_length m)
  refine ⟨table, hlen, hflat, ?_⟩
  have hmask := Decodes.le16 (m.indirectionTableMask &&& 0x7f).toUInt16
  have hqueue := Decodes.le16 m.unclassifiedQueue.toUInt16
  have hmax := Decodes.le16 m.maxTxVq.toUInt16
  have hkeyLen : Decodes (le 1) [UInt8.ofNat (m.hashKey.take 40).length]
      (m.hashKey.take 40).length := by
    have h : Decodes (le 1) [UInt8.ofNat (m.hashKey.take 40).length]
        (ofLe [UInt8.ofNat (m.hashKey.take 40).length]) := Decodes.le rfl
    have hsmall : (m.hashKey.take 40).length ≤ 40 := List.length_take_le _ _
    rwa [ofLe, ofLe, UInt8.toNat_ofNat', Nat.mod_eq_of_lt (by omega)] at h
  rw [(rssMask_toNat m).1] at hmask
  rw [UInt32.toNat_toUInt16] at hqueue hmax
  rw [rssPayload_eq]
  apply (Decodes.le32 m.hashTypes).bind
  apply hmask.bind
  apply hqueue.bind
  apply htable.bind
  apply hmax.bind
  apply hkeyLen.bind
  exact (Decodes.bytes (m.hashKey.take 40)).map _

/-- The RSS configuration a device is sent is the whole payload and parses back. -/
theorem rss_parses (m : CtrlRssConfig) {ops : List VirtioOp}
    {w : World kMaxQueues (Synth NetDevice)} (hw : Reached target ops w)
    (hsent : sent (opCtrlRssConfig m) w ≠ []) :
    ∃ hdr data ack, sent (opCtrlRssConfig m) w = [hdr, data, ack] ∧
      data.bytes = rssPayload m ∧ data.len.toNat = (rssPayload m).length ∧
      ∃ table, table.length = (m.indirectionTableMask &&& 0x7f).toNat + 1 ∧
        table.flatten = rssTable m ∧
        decodeRss.whole data.bytes = some
          { hashTypes := m.hashTypes.toNat
            mask := (m.indirectionTableMask &&& 0x7f).toNat
            unclassifiedQueue := m.unclassifiedQueue.toNat % 2 ^ 16
            table := table
            maxTxVq := m.maxTxVq.toNat % 2 ^ 16
            key := m.hashKey.take 40 } := by
  have hshort := rssPayload_length_le m
  have hlen : (payloadLen (rssPayload m)).toNat = (rssPayload m).length := by
    rw [payloadLen_toNat]
    omega
  have hne : rssPayload m ≠ [] := by
    rw [rssPayload_eq]
    exact List.ne_nil_of_length_pos (by rw [List.length_append, le32_length]; omega)
  have hchain : sent (opCtrlRssConfig m) w = [] ∨ sent (opCtrlRssConfig m) w =
      ctrlChain (cvq.run w).1.toNat 4 1 (rssPayload m) := sent_onCvq 4 1 hne (room_of_reached hw)
  have hdata : (rssPayload m).take (payloadLen (rssPayload m)).toNat = rssPayload m := by
    rw [hlen, List.take_length]
  obtain ⟨table, htable, hflat, hdecodes⟩ := decodes_rss m
  rw [hchain.resolve_left hsent, ctrlChain, hdata]
  exact ⟨_, _, _, rfl, rfl, hlen, table, htable, hflat, hdecodes.whole⟩

/-- A table that is too short for its mask, and a key that is too long. -/
def shortTable : CtrlRssConfig where
  hashTypes := 1
  indirectionTableMask := 0x81
  unclassifiedQueue := 2
  indirectionTable := [1, 0]
  maxTxVq := 3
  hashKey := List.replicate 50 7

theorem rss_parses_shortTable :
    ∃ data ∈ sent (opCtrlRssConfig shortTable) readyWorld, ∃ f,
      decodeRss.whole data.bytes = some f ∧ f.mask = 1 ∧ f.table.flatten = [1, 0, 0, 0] ∧
        f.key.length = 40 := by
  obtain ⟨hdr, data, ack, hsent, -, -, table, -, hflat, hparse⟩ :=
    rss_parses shortTable reached_readyWorld (by decide +kernel)
  rw [hsent]
  refine ⟨data, by simp, _, hparse, ?_, ?_, ?_⟩
  · show (shortTable.indirectionTableMask &&& 0x7f).toNat = 1
    decide
  · show table.flatten = _
    rw [hflat]
    decide
  · show (shortTable.hashKey.take 40).length = 40
    decide

end VirtioCrash.Net
