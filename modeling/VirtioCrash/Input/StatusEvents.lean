import VirtioCrash.Input.Harness
import VirtioCrash.Lib.Decoder
import VirtioCrash.Targets.Channels

/-!
# The status events of a run

The status queue carries the `virtio_input_event` records of the run, the event queue the buffers
for those of the device.
-/

namespace VirtioCrash.Input

open StateProgram Bytes Decoder

/-- A `virtio_input_event` as the device reads it. -/
structure InputEvent where
  type : Nat
  code : Nat
  value : Nat
  deriving DecidableEq

def decodeEvent : Decoder InputEvent := do
  let type ← le 2
  let code ← le 2
  let value ← le 4
  return { type, code, value }

/-- The record of a status event: the type and the code have 16 bits. -/
def eventOf (m : StatusEvent) : InputEvent where
  type := m.type.toNat % 2 ^ 16
  code := m.code.toNat % 2 ^ 16
  value := m.value.toNat

private theorem decodes_packStatus (m : StatusEvent) :
    Decodes decodeEvent (packStatus m) (eventOf m) := by
  have htype := Decodes.le16 m.type.toUInt16
  have hcode := Decodes.le16 m.code.toUInt16
  rw [UInt32.toNat_toUInt16] at htype hcode
  simp only [packStatus, List.append_assoc]
  apply htype.bind
  apply hcode.bind
  exact (Decodes.le32 m.value).map _

def statusLoad (m : StatusEvent) : Load := ⟨packStatus m, 8, false⟩

def eventLoad (size : UInt32) : Load :=
  ⟨List.replicate (eventLen size).toNat 0, eventLen size, true⟩

def say : VirtioOp → Option (Envelope kMaxQueues)
  | .common _ => none
  | .statusEvent m => some (.lone statusVq (statusLoad m))
  | .eventBuf size => some (.lone eventVq (eventLoad size))

private theorem speaks : target.Speaks asCommon say := by
  apply Target.Speaks.ofLone confined rfl
  · intro op c hc
    cases op with
    | common op => cases hc; exact ⟨rfl, rfl⟩
    | _ => cases hc
  · intro op hc
    cases op with
    | common op => cases hc
    | statusEvent m =>
        exact Or.inr ⟨statusVq, statusLoad m, rfl, by simp [statusLoad, packStatus], rfl⟩
    | eventBuf size => exact Or.inr ⟨eventVq, eventLoad size, rfl, List.length_replicate, rfl⟩

private theorem eventLen_bounds (size : UInt32) :
    8 ≤ (eventLen size).toNat ∧ (eventLen size).toNat ≤ 4096 :=
  Plain.clampedLen_bounds 8 (if size ≠ 0 then size else 64) (by decide)

private theorem say_kind {op : VirtioOp} {msg : Envelope kMaxQueues} (h : say op = some msg) :
    (msg.vq = statusVq → ∃ m l, op = .statusEvent m ∧ msg.loads = [l] ∧
      decodeEvent.whole l.bytes = some (eventOf m)) ∧
    (msg.vq = eventVq → ∃ size l, op = .eventBuf size ∧ msg.loads = [l] ∧
      (l.len, l.deviceWritable) = (eventLen size, true)) := by
  cases op with
  | common op => cases h
  | statusEvent m =>
      cases h
      constructor
      · exact fun _ => ⟨m, _, rfl, rfl, (decodes_packStatus m).whole⟩
      · exact fun hvq => absurd hvq (by decide : statusVq ≠ eventVq)
  | eventBuf size =>
      cases h
      constructor
      · exact fun hvq => absurd hvq (by decide : eventVq ≠ statusVq)
      · exact fun _ => ⟨size, _, rfl, rfl, rfl⟩

/-- In every run whose ops are `Conversing` on these queues, the device reads the status events that
were taken since the last reset as they were meant, in order, and finds a writable buffer for each
event buffer, as soon as there is one of the kind. -/
theorem status_events_arrive :
    target.Arrives asCommon say statusVq .statusEvent (fun l => decodeEvent.whole l.bytes)
        (fun m => some (eventOf m)) ∧
      target.Arrives asCommon say eventVq .eventBuf (fun l => (l.len, l.deviceWritable))
        (fun size => (eventLen size, true)) ∧
      ∀ size, 8 ≤ (eventLen size).toNat ∧ (eventLen size).toNat ≤ 4096 := by
  refine ⟨?_, ?_, eventLen_bounds⟩
  · exact speaks.arrives (by decide) fun op msg hmsg => (say_kind hmsg).1
  · exact speaks.arrives (by decide) fun op msg hmsg => (say_kind hmsg).2

/-- A keyboard whose queues have 8 descriptors. -/
def keyboard : World kMaxQueues (Synth Unit) := ⟨fun _ _ => 8, [], threadBState target, []⟩

/-- The first event comes before the queue is set up, and is not taken. -/
def keyPresses : List VirtioOp :=
  [.statusEvent ⟨1, 2, 3⟩, .common (.vqSetup 1 8), .statusEvent ⟨17, 0, 1⟩,
    .common (.guestMemWrite 5 [1, 2]), .statusEvent ⟨17, 1, 0⟩]

theorem status_events_arrive_keyPresses :
    ((runFromReset target keyPresses keyboard).found (fun _ => 0) statusVq).map
      (fun l => decodeEvent.whole l.bytes) = [some ⟨17, 0, 1⟩, some ⟨17, 1, 0⟩] :=
  status_events_arrive.1.run (fun _ _ => VirtioOp.statusEvent.inj) (fun _ => 0)
    (by decide +kernel) [⟨17, 0, 1⟩, ⟨17, 1, 0⟩] (by simp) rfl

end VirtioCrash.Input
