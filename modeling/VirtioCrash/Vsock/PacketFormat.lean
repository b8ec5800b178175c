import VirtioCrash.Vsock.Harness
import VirtioCrash.Harness.Buffers
import VirtioCrash.Harness.Reached
import VirtioCrash.Lib.Decoder

/-!
# The wire format of the packets

A header of 44 bytes and the payload. `submit_tx` writes the length of the payload into the header
before it cuts the payload to 4096 bytes.
-/

namespace VirtioCrash.Vsock

open StateProgram Bytes Decoder

/-- A `virtio_vsock_hdr` as the device reads it. -/
structure VsockHdr where
  srcCid : Nat
  dstCid : Nat
  srcPort : Nat
  dstPort : Nat
  len : Nat
  type : Nat
  op : Nat
  flags : Nat
  bufAlloc : Nat
  fwdCnt : Nat
  deriving DecidableEq

def decodeHdr : Decoder VsockHdr := do
  let srcCid ← le 8
  let dstCid ← le 8
  let srcPort ← le 4
  let dstPort ← le 4
  let len ← le 4
  let type ← le 2
  let op ← le 2
  let flags ← le 4
  let bufAlloc ← le 4
  let fwdCnt ← le 4
  return { srcCid, dstCid, srcPort, dstPort, len, type, op, flags, bufAlloc, fwdCnt }

/-- The header a packet should have in front of `len` bytes of payload. -/
def hdrOf (p : VsockPacket) (len : Nat) : VsockHdr where
  srcCid := p.srcCid.toNat
  dstCid := p.dstCid.toNat
  srcPort := p.srcPort.toNat
  dstPort := p.dstPort.toNat
  len := len
  type := p.type.toNat % 2 ^ 16
  op := p.op.toNat % 2 ^ 16
  flags := p.flags.toNat
  bufAlloc := p.bufAlloc.toNat
  fwdCnt := p.fwdCnt.toNat

private theorem packHdr_length (p : VsockPacket) : (packHdr p).length = 44 := by
  simp [packHdr]

theorem packPacket_length (p : VsockPacket) :
    (packPacket p).length = 44 + min 4096 p.payload.length := by
  rw [packPacket, List.length_append, packHdr_length, List.length_take]

theorem decodes_packHdr (p : VsockPacket) :
    Decodes decodeHdr (packHdr p) (hdrOf p (p.payload.length % 2 ^ 32)) := by
  have hlen := Decodes.le32 (UInt32.ofNat p.payload.length)
  have htype := Decodes.le16 p.type.toUInt16
  have hop := Decodes.le16 p.op.toUInt16
  rw [UInt32.toNat_ofNat'] at hlen
  rw [UInt32.toNat_toUInt16] at htype hop
  simp only [packHdr, List.append_assoc]
  apply (Decodes.le64 p.srcCid).bind
  apply (Decodes.le64 p.dstCid).bind
  apply (Decodes.le32 p.srcPort).bind
  apply (Decodes.le32 p.dstPort).bind
  apply hlen.bind
  apply htype.bind
  apply hop.bind
  apply (Decodes.le32 p.flags).bind
  apply (Decodes.le32 p.bufAlloc).bind
  exact (Decodes.le32 p.fwdCnt).map _

private theorem sends_submitTx (p : VsockPacket) (w : World kMaxQueues (Synth Unit)) :
    Sends 1 kTxVq [UInt32.ofNat (packPacket p).length]
      [.ofBytes (packPacket p) (UInt32.ofNat (packPacket p).length) false] w
      ((submitTx p).run w).2 := by
  rw [submitTx]
  apply sends_guarded
  intro _
  exact delivers_lone kTxVq (packPacket p) _ false w

private theorem sent_submitTx (p : VsockPacket) {ops : List VirtioOp}
    {w : World kMaxQueues (Synth Unit)} (hw : Reached target ops w)
    (hsent : sent (submitTx p) w ≠ []) :
    ∃ len : UInt32, len.toNat = (packPacket p).length ∧
      sent (submitTx p) w = [⟨kTxVq, packPacket p, len, false, false⟩] := by
  have hlen := packPacket_length p
  have hroom := (hw.poolInv confined (by decide)).le_end
  exact ((sends_submitTx p w).shipped_whole hroom (by omega)).resolve_left hsent

/-- The buffer is a header with the fields of the packet and bytes of its payload, as many as the
header says. -/
def LenConsistent (p : VsockPacket) (buf : List UInt8) : Prop :=
  ∃ body, body <+: p.payload ∧ decodeHdr.run buf = some (hdrOf p body.length, body)

private theorem lenConsistent_iff (p : VsockPacket) :
    LenConsistent p (packPacket p) ↔
      p.payload.length ≤ 4096 ∨ p.payload.length % 2 ^ 32 = 4096 := by
  have hdecode := decodes_packHdr p (p.payload.take 4096)
  have hcut : (p.payload.take 4096).length = min 4096 p.payload.length := List.length_take
  constructor
  · rintro ⟨body, -, hrun⟩
    obtain ⟨hhdr, hbody⟩ := Prod.mk.inj (Option.some.inj (hdecode.symm.trans hrun))
    have hlen : p.payload.length % 2 ^ 32 = body.length := congrArg VsockHdr.len hhdr
    rw [← hbody, hcut] at hlen
    omega
  · intro hfits
    refine ⟨p.payload.take 4096, List.take_prefix _ _, ?_⟩
    have hlen : p.payload.length % 2 ^ 32 = (p.payload.take 4096).length := by
      rw [hcut]
      omega
    rw [← hlen]
    exact hdecode

/-- A packet that is sent has its fields in the header and the first 4096 bytes of its payload
behind it. The length in the header is that of what follows exactly when the payload is not cut, or
so long that its length wraps around to that of the cut. -/
theorem packet_len_iff (p : VsockPacket) {ops : List VirtioOp}
    {w : World kMaxQueues (Synth Unit)} (hw : Reached target ops w)
    (hsent : sent (submitTx p) w ≠ []) :
    ∃ d, sent (submitTx p) w = [d] ∧ d.len.toNat = d.bytes.length ∧
      (∃ len, decodeHdr.run d.bytes = some (hdrOf p len, p.payload.take 4096)) ∧
      (LenConsistent p d.bytes ↔
        p.payload.length ≤ 4096 ∨ p.payload.length % 2 ^ 32 = 4096) := by
  obtain ⟨len, hlen, hd⟩ := sent_submitTx p hw hsent
  exact ⟨_, hd, hlen, ⟨_, decodes_packHdr p _⟩, lenConsistent_iff p⟩

/-- A machine whose TX queue is set up. -/
def readyWorld : World kMaxQueues (Synth Unit) :=
  runFromReset target [.common (.vqSetup 1 8)]
    ⟨fun _ _ => 8, [], threadBState target, []⟩

private theorem reached_readyWorld : Reached target [VirtioOp.common (.vqSetup 1 8)] readyWorld :=
  reached_runFromReset [VirtioOp.common (.vqSetup 1 8)] _

def packetOf (payload : List UInt8) : VsockPacket where
  srcCid := 3
  dstCid := 2
  srcPort := 1024
  dstPort := 80
  type := 0x10001
  op := 5
  flags := 0
  bufAlloc := 65536
  fwdCnt := 0
  payload := payload

theorem packet_len_three :
    ∃ d, sent (submitTx (packetOf [1, 2, 3])) readyWorld = [d] ∧
      LenConsistent (packetOf [1, 2, 3]) d.bytes := by
  obtain ⟨d, hd, -, -, hiff⟩ :=
    packet_len_iff (packetOf [1, 2, 3]) reached_readyWorld (by decide +kernel)
  exact ⟨d, hd, hiff.mpr (by decide)⟩

/-- A payload of 4097 bytes is announced as such and cut. -/
theorem packet_len_4097 :
    ¬∀ (p : VsockPacket) (ops : List VirtioOp) (w : World kMaxQueues (Synth Unit)),
      Reached target ops w → sent (submitTx p) w ≠ [] →
        ∃ d, sent (submitTx p) w = [d] ∧ LenConsistent p d.bytes := by
  intro hall
  let p := packetOf (List.replicate 4097 0)
  have hsent : sent (submitTx p) readyWorld ≠ [] := by decide +kernel
  obtain ⟨d, hd, hlen⟩ := hall p _ _ reached_readyWorld hsent
  obtain ⟨len, -, hpacket⟩ := sent_submitTx p reached_readyWorld hsent
  rw [← List.singleton_inj.mp (hpacket.symm.trans hd), lenConsistent_iff] at hlen
  revert hlen
  decide +kernel

end VirtioCrash.Vsock
