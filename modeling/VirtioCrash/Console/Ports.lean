import VirtioCrash.Console.Harness
import VirtioCrash.Lib.Decoder
import VirtioCrash.Targets.Channels

/-!
# The ports of a run

Each port has its own queue for each direction, and the control messages have theirs: what is sent
to one port reaches no other.
-/

namespace VirtioCrash.Console

open StateProgram Bytes Decoder

/-- A `virtio_console_control` as the device reads it. -/
structure Control where
  id : Nat
  event : Nat
  value : Nat
  deriving DecidableEq

def decodeControl : Decoder Control := do
  let id ← le 4
  let event ← le 2
  let value ← le 2
  return { id, event, value }

/-- The record of a control message: the event and the value have 16 bits. -/
def controlOf (m : CtrlMsg) : Control where
  id := m.portId.toNat
  event := m.event.toNat % 2 ^ 16
  value := m.value.toNat % 2 ^ 16

private theorem decodes_packCtrl (m : CtrlMsg) :
    Decodes decodeControl (le32 m.portId ++ le16 m.event.toUInt16 ++ le16 m.value.toUInt16)
      (controlOf m) := by
  have hevent := Decodes.le16 m.event.toUInt16
  have hvalue := Decodes.le16 m.value.toUInt16
  rw [UInt32.toNat_toUInt16] at hevent hvalue
  simp only [List.append_assoc]
  apply (Decodes.le32 m.portId).bind
  apply hevent.bind
  exact hvalue.map _

/-- The ports whose queues are in the table. -/
abbrev Port := Fin 7

def txVq (p : Port) : Fin kMaxQueues := ⟨(portTxVq (UInt32.ofNat p)).toNat, by revert p; decide⟩

def rxVq (p : Port) : Fin kMaxQueues := ⟨(portRxVq (UInt32.ofNat p)).toNat, by revert p; decide⟩

def portAt (pid : UInt32) : Option Port := if h : pid.toNat < 7 then some ⟨_, h⟩ else none

/-- The port a message is for. -/
def portOf (portId : UInt32) : Option Port := portAt (portId &&& 0xf)

/-- A queue of the table. -/
def vqAt (vq : UInt32) : Option (Fin kMaxQueues) :=
  if h : vq.toNat < kMaxQueues then some ⟨_, h⟩ else none

private theorem vqAt_port (portId : UInt32) :
    vqAt (portTxVq (portId &&& 0xf)) = (portOf portId).map txVq ∧
      vqAt (portRxVq (portId &&& 0xf)) = (portOf portId).map rxVq := by
  have hall : ∀ k : Fin 16, vqAt (portTxVq (UInt32.ofNat k)) = (portAt (UInt32.ofNat k)).map txVq ∧
      vqAt (portRxVq (UInt32.ofNat k)) = (portAt (UInt32.ofNat k)).map rxVq := by decide
  have hlt : (portId &&& 0xf).toNat < 16 := by
    rw [UInt32.toNat_and]
    exact lt_of_le_of_lt Nat.and_le_right (by decide)
  have hport := hall ⟨(portId &&& 0xf).toNat, hlt⟩
  rw [UInt32.ofNat_toNat] at hport
  exact hport

private theorem txVq_inj : ∀ p q : Port, txVq p = txVq q → p = q := by decide

private theorem rxVq_inj : ∀ p q : Port, rxVq p = rxVq q → p = q := by decide

private theorem txVq_ne_rxVq : ∀ p q : Port, txVq p ≠ rxVq q := by decide

private theorem txVq_ne_ctrl : ∀ p : Port, txVq p ≠ ctrlTxVq := by decide

private theorem rxVq_ne_ctrl : ∀ p : Port, rxVq p ≠ ctrlTxVq := by decide

def txLoad (m : TxData) : Load := .ofBytes m.data (UInt32.ofNat (min m.data.length 4096)) false

def rxLoad (size : UInt32) : Load :=
  ⟨List.replicate (rxLen size).toNat 0, rxLen size, true⟩

def ctrlLoad (m : CtrlMsg) : Load := ⟨packCtrl m, UInt32.ofNat (packCtrl m).length, false⟩

def say : VirtioOp → Option (Envelope kMaxQueues)
  | .common _ => none
  | .txData m => (portOf m.portId).map fun p => .lone (txVq p) (txLoad m)
  | .rxBuf m => (portOf m.portId).map fun p => .lone (rxVq p) (rxLoad m.size)
  | .ctrlMsg m => some (.lone ctrlTxVq (ctrlLoad m))

private theorem dite_vqAt (vq : UInt32) (f : Fin kMaxQueues → ConsoleM Unit) :
    (if h : vq.toNat < kMaxQueues then f ⟨vq.toNat, h⟩ else pure ()) =
      (vqAt vq).elim (pure ()) f := by
  rw [vqAt]
  split
  · rfl
  · rfl

private theorem submitTx_eq (m : TxData) : submitTx m = (portOf m.portId).elim (pure ()) fun p =>
    Plain.submitBuf (txVq p) (txLoad m).bytes (txLoad m).len (txLoad m).deviceWritable := by
  have h := dite_vqAt (portTxVq (m.portId &&& 0xf)) fun vq =>
    Plain.submitBuf vq (txLoad m).bytes (txLoad m).len (txLoad m).deviceWritable
  rw [(vqAt_port m.portId).1, Option.elim_map] at h
  refine Eq.trans ?_ h
  rw [submitTx]
  split
  · exact submitBuf_take _ _ _ _
  · rfl

private theorem submitRx_eq (m : RxBuf) : submitRx m = (portOf m.portId).elim (pure ()) fun p =>
    Plain.submitBuf (rxVq p) (rxLoad m.size).bytes (rxLoad m.size).len
      (rxLoad m.size).deviceWritable := by
  have h := dite_vqAt (portRxVq (m.portId &&& 0xf)) fun vq =>
    Plain.submitBuf vq (List.replicate (rxLen m.size).toNat 0) (rxLen m.size) true
  rw [(vqAt_port m.portId).2, Option.elim_map] at h
  exact h

private theorem txLoad_length (m : TxData) : (txLoad m).bytes = m.data.take 4096 ∧
    (txLoad m).bytes.length = (txLoad m).len.toNat := by
  have hlen : (UInt32.ofNat (min m.data.length 4096)).toNat = min m.data.length 4096 := by
    rw [UInt32.toNat_ofNat']
    omega
  rw [txLoad, Load.ofBytes, hlen]
  constructor
  · change m.data.take (min m.data.length 4096) = _
    rw [Nat.min_comm, ← List.take_take, List.take_length]
  · rw [List.length_take]
    omega

private theorem packCtrl_length (m : CtrlMsg) : (packCtrl m).length ≤ 264 := by
  simp [packCtrl]
  omega

private theorem ctrlLoad_length (m : CtrlMsg) :
    (ctrlLoad m).bytes.length = (ctrlLoad m).len.toNat := by
  have hlen := packCtrl_length m
  change (packCtrl m).length = (UInt32.ofNat (packCtrl m).length).toNat
  rw [UInt32.toNat_ofNat']
  omega

private theorem speaks : target.Speaks asCommon say := by
  apply Target.Speaks.ofLone confined rfl
  · intro op c hc
    cases op with
    | common op => cases hc; exact ⟨rfl, rfl⟩
    | _ => cases hc
  · intro op hc
    cases op with
    | common op => cases hc
    | txData m =>
        have hrun := submitTx_eq m
        cases hp : portOf m.portId with
        | none =>
            rw [hp] at hrun
            exact Or.inl ⟨hrun, by rw [say, hp]; rfl⟩
        | some p =>
            rw [hp] at hrun
            exact Or.inr ⟨txVq p, txLoad m, by rw [say, hp]; rfl, (txLoad_length m).2, hrun⟩
    | rxBuf m =>
        have hrun := submitRx_eq m
        cases hp : portOf m.portId with
        | none =>
            rw [hp] at hrun
            exact Or.inl ⟨hrun, by rw [say, hp]; rfl⟩
        | some p =>
            rw [hp] at hrun
            exact Or.inr ⟨rxVq p, rxLoad m.size, by rw [say, hp]; rfl, List.length_replicate, hrun⟩
    | ctrlMsg m => exact Or.inr ⟨ctrlTxVq, ctrlLoad m, rfl, ctrlLoad_length m, rfl⟩

private theorem say_kind {op : VirtioOp} {msg : Envelope kMaxQueues} (h : say op = some msg) :
    (∀ p, msg.vq = txVq p → ∃ (m : { m : TxData // portOf m.portId = some p }) (l : Load),
      op = .txData m ∧ msg.loads = [l] ∧ l.bytes = m.1.data.take 4096) ∧
    (∀ p, msg.vq = rxVq p → ∃ (m : { m : RxBuf // portOf m.portId = some p }) (l : Load),
      op = .rxBuf m ∧ msg.loads = [l] ∧ (l.len, l.deviceWritable) = (rxLen m.1.size, true)) ∧
    (msg.vq = ctrlTxVq → ∃ m l, op = .ctrlMsg m ∧ msg.loads = [l] ∧
      decodeControl.run l.bytes = some (controlOf m, m.data.take 256)) := by
  cases op with
  | common op => cases h
  | txData m =>
      obtain ⟨q, hq, rfl⟩ := Option.map_eq_some_iff.mp h
      refine ⟨?_, ?_, ?_⟩
      · intro p hvq
        cases txVq_inj q p hvq
        exact ⟨⟨m, hq⟩, _, rfl, rfl, (txLoad_length m).1⟩
      · exact fun p hvq => absurd hvq (txVq_ne_rxVq q p)
      · exact fun hvq => absurd hvq (txVq_ne_ctrl q)
  | rxBuf m =>
      obtain ⟨q, hq, rfl⟩ := Option.map_eq_some_iff.mp h
      refine ⟨?_, ?_, ?_⟩
      · exact fun p hvq => absurd hvq.symm (txVq_ne_rxVq p q)
      · intro p hvq
        cases rxVq_inj q p hvq
        exact ⟨⟨m, hq⟩, _, rfl, rfl, rfl⟩
      · exact fun hvq => absurd hvq (rxVq_ne_ctrl q)
  | ctrlMsg m =>
      cases h
      refine ⟨?_, ?_, ?_⟩
      · exact fun p hvq => absurd hvq.symm (txVq_ne_ctrl p)
      · exact fun p hvq => absurd hvq.symm (rxVq_ne_ctrl p)
      · exact fun _ => ⟨m, _, rfl, rfl, decodes_packCtrl m (m.data.take 256)⟩

/-- In every run whose ops are `Conversing` on these queues, the device reads on the queue of a port
exactly the bytes that were sent to this port since the last reset, message by message, finds on its
other queue a writable buffer for each receive buffer of this port, and decodes on the control queue
the control messages of all ports, as soon as there is one of the kind. -/
theorem ports_apart :
    (∀ p : Port,
      target.Arrives asCommon say (txVq p)
          (fun m : { m : TxData // portOf m.portId = some p } => .txData m)
          (fun l => l.bytes) (fun m => m.1.data.take 4096) ∧
        target.Arrives asCommon say (rxVq p)
          (fun m : { m : RxBuf // portOf m.portId = some p } => .rxBuf m)
          (fun l => (l.len, l.deviceWritable)) (fun m => (rxLen m.1.size, true))) ∧
      target.Arrives asCommon say ctrlTxVq .ctrlMsg (fun l => decodeControl.run l.bytes)
        (fun m => some (controlOf m, m.data.take 256)) := by
  refine ⟨fun p => ⟨?_, ?_⟩, ?_⟩
  · exact speaks.arrives (by decide) fun op msg hmsg => (say_kind hmsg).1 p
  · exact speaks.arrives (by decide) fun op msg hmsg => (say_kind hmsg).2.1 p
  · exact speaks.arrives (by decide) fun op msg hmsg => (say_kind hmsg).2.2

/-- A device whose queues have 8 descriptors. -/
def serial : World kMaxQueues (Synth Unit) := ⟨fun _ _ => 8, [], threadBState target, []⟩

/-- Port 17 is port 1, port 0 has a queue of its own and port 9 has none. -/
def portData : List VirtioOp :=
  [.common (.vqSetup 5 8), .txData ⟨1, [65]⟩, .txData ⟨0, [66]⟩, .txData ⟨9, [67]⟩,
    .txData ⟨17, [68, 69]⟩]

theorem ports_apart_portData :
    ((runFromReset target portData serial).found (fun _ => 0) (txVq 1)).map (fun l => l.bytes) =
      [[65], [68, 69]] :=
  (ports_apart.1 1).1.run (fun _ _ h => Subtype.ext (VirtioOp.txData.inj h)) (fun _ => 0)
    (by decide +kernel) [⟨⟨1, [65]⟩, rfl⟩, ⟨⟨17, [68, 69]⟩, rfl⟩] (by simp) rfl

end VirtioCrash.Console
