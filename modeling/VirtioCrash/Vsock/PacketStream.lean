import VirtioCrash.Targets.Channels
import VirtioCrash.Vsock.PacketFormat

/-!
# The packets of a run

The device reads the packets from the TX queue one by one, a header and its payload, and finds room
for a header at least in each buffer of the RX queue.
-/

namespace VirtioCrash.Vsock

open StateProgram Bytes Decoder

def txLoad (p : VsockPacket) : Load := ⟨packPacket p, UInt32.ofNat (packPacket p).length, false⟩

def rxLoad (size : UInt32) : Load := ⟨List.replicate (rxLen size).toNat 0, rxLen size, true⟩

def say : VirtioOp → Option (Envelope kMaxQueues)
  | .common _ => none
  | .vsockTx pkt => some (.lone kTxVq (txLoad pkt))
  | .vsockRxBuf size => some (.lone kRxVq (rxLoad size))

private theorem txLoad_length (p : VsockPacket) :
    (txLoad p).bytes.length = (txLoad p).len.toNat := by
  have hlen := packPacket_length p
  change (packPacket p).length = (UInt32.ofNat (packPacket p).length).toNat
  rw [UInt32.toNat_ofNat']
  omega

private theorem speaks : target.Speaks asCommon say := by
  apply Target.Speaks.ofLone confined rfl
  · intro op c hc
    cases op with
    | common op => cases hc; exact ⟨rfl, rfl⟩
    | _ => cases hc
  · intro op hc
    cases op with
    | common op => cases hc
    | vsockTx pkt => exact Or.inr ⟨kTxVq, txLoad pkt, rfl, txLoad_length pkt, rfl⟩
    | vsockRxBuf size => exact Or.inr ⟨kRxVq, rxLoad size, rfl, List.length_replicate, rfl⟩

private theorem rxLen_bounds (size : UInt32) :
    44 ≤ (rxLen size).toNat ∧ (rxLen size).toNat ≤ 4096 :=
  Plain.clampedLen_bounds 44 (if size ≠ 0 then size else 1024) (by decide)

private theorem say_kind {op : VirtioOp} {msg : Envelope kMaxQueues} (h : say op = some msg) :
    (msg.vq = kTxVq → ∃ p l, op = .vsockTx p ∧ msg.loads = [l] ∧ decodeHdr.run l.bytes =
      some (hdrOf p (p.payload.length % 2 ^ 32), p.payload.take 4096)) ∧
    (msg.vq = kRxVq → ∃ size l, op = .vsockRxBuf size ∧ msg.loads = [l] ∧
      (l.len, l.deviceWritable) = (rxLen size, true)) := by
  cases op with
  | common op => cases h
  | vsockTx pkt =>
      cases h
      constructor
      · exact fun _ => ⟨pkt, _, rfl, rfl, decodes_packHdr pkt (pkt.payload.take 4096)⟩
      · exact fun hvq => absurd hvq (by decide : kTxVq ≠ kRxVq)
  | vsockRxBuf size =>
      cases h
      constructor
      · exact fun hvq => absurd hvq (by decide : kRxVq ≠ kTxVq)
      · exact fun _ => ⟨size, _, rfl, rfl, rfl⟩

/-- In every run whose ops are `Conversing` on these queues, the device decodes on the TX queue the
headers of the packets that were taken since the last reset, in order, each with the first 4096
bytes of its payload behind it, and finds a writable buffer on the RX queue for each receive buffer,
as soon as there is one of the kind. -/
theorem packets_arrive :
    target.Arrives asCommon say kTxVq .vsockTx (fun l => decodeHdr.run l.bytes)
        (fun p => some (hdrOf p (p.payload.length % 2 ^ 32), p.payload.take 4096)) ∧
      target.Arrives asCommon say kRxVq .vsockRxBuf (fun l => (l.len, l.deviceWritable))
        (fun size => (rxLen size, true)) ∧
      ∀ size, 44 ≤ (rxLen size).toNat ∧ (rxLen size).toNat ≤ 4096 := by
  refine ⟨?_, ?_, rxLen_bounds⟩
  · exact speaks.arrives (by decide) fun op msg hmsg => (say_kind hmsg).1
  · exact speaks.arrives (by decide) fun op msg hmsg => (say_kind hmsg).2

/-- Two packets on a TX queue of 8 descriptors, with a receive buffer in between. -/
def twoPackets : List VirtioOp :=
  [.common (.vqSetup 1 8), .vsockTx ⟨3, 2, 1024, 80, 1, 1, 0, 4096, 0, []⟩, .vsockRxBuf 100,
    .vsockTx ⟨3, 2, 1024, 80, 1, 5, 0, 4096, 0, [7, 8, 9]⟩]

theorem packets_arrive_twoPackets :
    ((runFromReset target twoPackets ⟨fun _ _ => 8, [], threadBState target, []⟩).found
        (fun _ => 0) kTxVq).map (fun l => decodeHdr.run l.bytes) =
      [some (⟨3, 2, 1024, 80, 0, 1, 1, 0, 4096, 0⟩, []),
        some (⟨3, 2, 1024, 80, 3, 1, 5, 0, 4096, 0⟩, [7, 8, 9])] :=
  packets_arrive.1.run (fun _ _ => VirtioOp.vsockTx.inj) (fun _ => 0) (by decide +kernel)
    [⟨3, 2, 1024, 80, 1, 1, 0, 4096, 0, []⟩, ⟨3, 2, 1024, 80, 1, 5, 0, 4096, 0, [7, 8, 9]⟩]
    (by simp) rfl

end VirtioCrash.Vsock
