import VirtioCrash.Net.Harness
import VirtioCrash.Harness.Buffers

/-!
# How the submissions of the net harness end

A packet is dropped or published as its header and its frame; a control command is dropped or
published as its class and command, its data and its ack.
-/

namespace VirtioCrash.Net

open StateProgram

/-- The length a packet's frame is staged with. -/
def frameLen (p : TxPacket) : UInt32 := UInt32.ofNat (min (taggedPayload p).length 9018)

/-- The lengths and directions of the buffers of a packet. -/
def TxChain (p : TxPacket) (ps : List Piece) : Prop :=
  ps.map (fun p => (p.len, p.deviceWritable)) =
    [(12, false)] ++ if frameLen p > 0 then [(frameLen p, false)] else []

/-- The same of a control command with `len` bytes of data, if it has any. -/
def CtrlChain (hasData : Prop) [Decidable hasData] (len : UInt32) (ps : List Piece) : Prop :=
  ps.map (fun p => (p.len, p.deviceWritable)) =
    [(2, false)] ++ (if hasData then [(len, false)] else []) ++ [(1, true)]

/-- What a packet sends: its header and its frame, unless that is empty. -/
def txLoads (p : TxPacket) : List Load :=
  [.ofBytes (packNetHdr p) 12 false] ++
    if frameLen p > 0 then [.ofBytes (taggedPayload p) (frameLen p) false] else []

/-- What a control command sends: its class and command, its data, if any, and room for the ack. -/
def ctrlLoads (hdr data : List UInt8) (len : UInt32) (hasData : Prop) [Decidable hasData] :
    List Load :=
  [.ofBytes hdr 2 false] ++ (if hasData then [.ofBytes data len false] else []) ++
    [.ofBytes [0xff] 1 true]

theorem sends_opTxPacket (p : TxPacket) (w : World kMaxQueues (Synth NetDevice)) :
    Sends 2 (vqOf p.vqIdx) [12, frameLen p] (txLoads p) w ((opTxPacket p).run w).2 := by
  rw [opTxPacket]
  generalize vqOf p.vqIdx = vq
  apply sends_guarded
  intro _
  apply (Loaded.start w).thenAlloc (by simp) (packNetHdr p) 12 false ⟨_, rfl⟩
  intro hdrGpa w1 _ h1
  apply h1.thenAlloc (by simp) (taggedPayload p) (frameLen p) false ⟨_, rfl⟩
  intro payGpa w2 _ h2
  have hhdr := h2.names [] ⟨hdrGpa, .ofBytes (packNetHdr p) 12 false⟩ _ rfl
  have hpay := h2.names [_] ⟨payGpa, .ofBytes (taggedPayload p) (frameLen p) false⟩ [] rfl
  change Post _ _ (w2.placeOpen vq ([].map Cargo.piece))
  apply h2.placeTail hhdr (fun _ => hpay) rfl
  · intro e he
    split at he
    · exact he
    · exact List.mem_append_left _ he
  · rw [txLoads, List.map_append, apply_ite (List.map Cargo.load)]
    rfl

private theorem sends_ctrlSubmission (vq : Fin kMaxQueues) (hdr data : List UInt8) {hasData : Prop}
    [Decidable hasData] {place : UInt32 → Prop} [∀ id, Decidable (place id)] (len : UInt32)
    (hplace : ∀ id, (id ≠ 0 ↔ hasData) → (place id ↔ hasData))
    (w : World kMaxQueues (Synth NetDevice)) :
    Post (ctrlSubmission vq hdr data len hasData place)
      (fun _ => Delivery vq ([2] ++ (if hasData then [len] else []) ++ [1])
        (ctrlLoads hdr data len hasData) w) w := by
  apply (Loaded.start w).thenAlloc (by simp) hdr 2 false (by simp)
  intro chGpa w1 _ h1
  apply h1.thenAllocIf (by simp) data len false (by simp)
  intro dId dGpa w2 hdNe hdId h2
  apply h2.thenAlloc (by split <;> simp) [0xff] 1 true (by split <;> simp)
  intro ackGpa w3 _ h3
  have hdPlace := hplace dId hdNe
  have hch := h3.names [] ⟨chGpa, .ofBytes hdr 2 false⟩
    ((if hasData then [⟨dGpa, .ofBytes data len false⟩] else []) ++
      [⟨ackGpa, .ofBytes [0xff] 1 true⟩]) (by simp)
  have hd : place dId → Names w3 dId (Cargo.piece ⟨dGpa, .ofBytes data len false⟩) := by
    intro hp
    have hc := hdPlace.mp hp
    rw [hdId hc]
    exact h3.names [_] ⟨dGpa, .ofBytes data len false⟩ [⟨ackGpa, .ofBytes [0xff] 1 true⟩]
      (by simp [hc])
  have hack := h3.names _ ⟨ackGpa, .ofBytes [0xff] 1 true⟩ [] (List.append_nil _).symm
  change Post _ _ (w3.placeOpen vq ([].map Cargo.piece))
  apply Loaded.placeNext hch
  intro _
  apply Loaded.placeNextIf hd
  intro _
  simp only [hdPlace]
  apply h3.placeLast hack
  · split <;> rfl
  · exact fun e he => he
  · rw [ctrlLoads]
    split <;> rfl

theorem sends_opCtrlCmd (c : CtrlCmd) (w : World kMaxQueues (Synth NetDevice)) :
    let dlen := UInt32.ofNat (min c.data.length 1024)
    Sends 3 (vqOf c.vqIdx) ([2] ++ (if dlen > 0 then [dlen] else []) ++ [1])
      (ctrlLoads [c.vclass.toUInt8, c.cmd.toUInt8] c.data dlen (dlen > 0)) w
      ((opCtrlCmd c).run w).2 := by
  rw [opCtrlCmd]
  generalize vqOf c.vqIdx = vq
  generalize UInt32.ofNat (min c.data.length 1024) = dlen
  apply sends_guarded
  intro _
  exact sends_ctrlSubmission vq _ _ dlen (fun _ _ => Iff.rfl) w

/-- The length a typed command's payload is staged with. -/
def payloadLen (payload : List UInt8) : UInt32 := min (UInt32.ofNat payload.length) 2048

theorem sends_submitCtrl {vqIdx : UInt32} (hi : vqIdx.toNat < kMaxQueues) (vclass cmd : UInt8)
    (payload : List UInt8) (w : World kMaxQueues (Synth NetDevice)) :
    Sends 3 ⟨vqIdx.toNat, hi⟩
      ([2] ++ (if ¬payload.isEmpty then [payloadLen payload] else []) ++ [1])
      (ctrlLoads [vclass, cmd] payload (payloadLen payload) (¬payload.isEmpty)) w
      ((submitCtrl vqIdx vclass cmd payload).run w).2 := by
  rw [submitCtrl, dif_pos hi]
  apply sends_guarded
  intro _
  exact sends_ctrlSubmission _ _ _ _ (fun _ hid => hid) w

private theorem txChain_of_loads (p : TxPacket) {ps : List Piece}
    (h : ps.map (fun p => (p.len, p.deviceWritable)) =
      (txLoads p).map fun l => (l.len, l.deviceWritable)) : TxChain p ps := by
  rw [TxChain, h, txLoads, List.map_append, apply_ite (List.map _)]
  rfl

private theorem ctrlChain_of_loads (hdr data : List UInt8) {len : UInt32} {hasData : Prop}
    [Decidable hasData] {ps : List Piece}
    (h : ps.map (fun p => (p.len, p.deviceWritable)) =
      (ctrlLoads hdr data len hasData).map fun l => (l.len, l.deviceWritable)) :
    CtrlChain hasData len ps := by
  rw [CtrlChain, h, ctrlLoads, List.map_append, List.map_append, apply_ite (List.map _)]
  rfl

private theorem ctrlChain_few {hasData : Prop} [Decidable hasData] {len : UInt32} {ps : List Piece}
    (h : CtrlChain hasData len ps) : ps ≠ [] ∧ ps.length ≤ (3 : UInt32).toNat := by
  apply few_of_map h
  · simp
  · split <;> simp

theorem submitted_opTxPacket (p : TxPacket) (w : World kMaxQueues (Synth NetDevice)) :
    Submitted 2 (vqOf p.vqIdx) (TxChain p) w ((opTxPacket p).run w).2 := by
  apply (sends_opTxPacket p w).submitted fun _ => txChain_of_loads p
  intro ps hps
  apply few_of_map hps
  · simp
  · split <;> simp

theorem submitted_opCtrlCmd (c : CtrlCmd) (w : World kMaxQueues (Synth NetDevice)) :
    Submitted 3 (vqOf c.vqIdx)
      (CtrlChain (UInt32.ofNat (min c.data.length 1024) > 0)
        (UInt32.ofNat (min c.data.length 1024))) w ((opCtrlCmd c).run w).2 :=
  (sends_opCtrlCmd c w).submitted (fun _ => ctrlChain_of_loads _ _) fun _ => ctrlChain_few

theorem submitted_submitCtrl {vqIdx : UInt32} (hi : vqIdx.toNat < kMaxQueues)
    (vclass cmd : UInt8) (payload : List UInt8) (w : World kMaxQueues (Synth NetDevice)) :
    Submitted 3 ⟨vqIdx.toNat, hi⟩
      (CtrlChain (¬payload.isEmpty) (min (UInt32.ofNat payload.length) 2048)) w
      ((submitCtrl vqIdx vclass cmd payload).run w).2 :=
  (sends_submitCtrl hi vclass cmd payload w).submitted (fun _ => ctrlChain_of_loads _ _)
    fun _ => ctrlChain_few

theorem submitCtrl_noQueue {vqIdx : UInt32} (hi : ¬vqIdx.toNat < kMaxQueues) (vclass cmd : UInt8)
    (payload : List UInt8) (w : World kMaxQueues (Synth NetDevice)) :
    ((submitCtrl vqIdx vclass cmd payload).run w).2 = w := by
  rw [submitCtrl, dif_neg hi]
  rfl

end VirtioCrash.Net
