import VirtioCrash.Snd.Harness
import VirtioCrash.Harness.Request

/-!
# The wire format of the sound control requests

The documented requests start with the code and, directly after it, the stream or jack id.
`submit_ctrl` prepends the code to a payload that `submit_snd_ctrl` already starts with an empty
word, so every field is read one word early.
-/

namespace VirtioCrash.Snd

open StateProgram Bytes

/-- A control request as the device reads it. -/
inductive CtrlFields where
  | pcmSetParams (streamId bufferBytes periodBytes features channels format rate padding : Nat)
  | pcmCmd (streamId : Nat)
  | jackRemap (jackId association sequence : Nat)
  deriving DecidableEq

def u8At (buf : List UInt8) (off : Nat) : Nat := ofLe (slice buf off 1)

def le32At (buf : List UInt8) (off : Nat) : Nat := ofLe (slice buf off 4)

/-- The fields that follow the code, by the code. -/
def decodeFields (buf : List UInt8) : Nat → Option CtrlFields
  | 0x0101 =>
      some (.pcmSetParams (le32At buf 4) (le32At buf 8) (le32At buf 12) (le32At buf 16)
        (u8At buf 20) (u8At buf 21) (u8At buf 22) (u8At buf 23))
  | 0x0102 => some (.pcmCmd (le32At buf 4))
  | 0x0103 => some (.pcmCmd (le32At buf 4))
  | 0x0104 => some (.pcmCmd (le32At buf 4))
  | 0x0105 => some (.pcmCmd (le32At buf 4))
  | 0x0002 => some (.jackRemap (le32At buf 4) (le32At buf 8) (le32At buf 12))
  | _ => none

def decodeCtrl (buf : List UInt8) : Option (Nat × CtrlFields) :=
  (decodeFields buf (le32At buf 0)).map fun fields => (le32At buf 0, fields)

/-- What a request for a message should read as; the other kinds have another layout. -/
def wireFields : SndCmd → Option (Nat × CtrlFields)
  | .pcmSetParams m =>
      some (0x0101, .pcmSetParams m.streamId.toNat m.bufferBytes.toNat m.periodBytes.toNat
        m.features.toNat (m.channels.toNat % 256) (m.format.toNat % 256) (m.rate.toNat % 256) 0)
  | .pcmPrepare m => some (0x0102, .pcmCmd m.streamId.toNat)
  | .pcmRelease m => some (0x0103, .pcmCmd m.streamId.toNat)
  | .pcmStart m => some (0x0104, .pcmCmd m.streamId.toNat)
  | .pcmStop m => some (0x0105, .pcmCmd m.streamId.toNat)
  | .jackRemap m => some (0x0002, .jackRemap m.jackId.toNat m.association.toNat m.sequence.toNat)
  | _ => none

/-- Every field of the message is zero, as far as it reaches the wire. -/
def ZeroFields : SndCmd → Prop
  | .pcmSetParams m => m.streamId = 0 ∧ m.bufferBytes = 0 ∧ m.periodBytes = 0 ∧ m.features = 0 ∧
      m.channels.toNat % 256 = 0 ∧ m.format.toNat % 256 = 0 ∧ m.rate.toNat % 256 = 0
  | .pcmPrepare m | .pcmRelease m | .pcmStart m | .pcmStop m => m.streamId = 0
  | .jackRemap m => m.jackId = 0 ∧ m.association = 0 ∧ m.sequence = 0
  | _ => False

/-- The out buffer of a control request. -/
def ctrlOut (call : CtrlCall) : List UInt8 := le32 call.code ++ call.payload

private theorem ctrlCall_payload_length (cmd : SndCmd) (call : CtrlCall)
    (hcall : ctrlCall cmd = some call) : call.payload.length ≤ 4096 := by
  cases cmd with
  | cmdNotSet => cases hcall
  | raw m =>
      cases hcall
      simp [ctrlRaw]
  | _ =>
      cases hcall
      simp [ctrlJackInfo, ctrlJackRemap, ctrlPcmInfo, ctrlPcmSetParams, ctrlPcmCmd, ctrlChmapInfo]

theorem ctrlOut_length (cmd : SndCmd) (call : CtrlCall) (hcall : ctrlCall cmd = some call) :
    4 ≤ (ctrlOut call).length ∧ (ctrlOut call).length ≤ 4100 := by
  have hlen := ctrlCall_payload_length cmd call hcall
  rw [ctrlOut, List.length_append, le32_length]
  omega

private theorem submitBufs_placedFirst (vq : Fin kMaxQueues) (inBuf : List UInt8)
    {ps : List Placement} {id : UInt32} {b : Buf} {w : World kMaxQueues (Synth Unit)}
    (h : Staged ps id b vq 0 w) :
    Post (afterOut vq inBuf id) (fun _ => PlacedFirst ps b.gpa) w := by
  apply Post.ite
  · exact fun _ => h.placedFirst
  intro _
  apply (h.allocBuf _ _ (by decide)).bind
  intro inId w1 h1
  apply Post.ite
  · exact fun _ => h1.placedFirst
  intro _
  apply h1.place (A := typedActs)
  intro _
  apply Submits.bind (submits_placeBuf (by decide) _ _ _ _)
  intro _
  exact (within_notify (by decide) _).from

private theorem firstBuffer_submitSndCtrl (c : SndCtrl) (w : World kMaxQueues (Synth Unit))
    {buf : List UInt8} (hbuf : firstBuffer (submitSndCtrl c) w = some buf) :
    ∃ call, ctrlCall c.cmd = some call ∧ buf = ctrlOut call := by
  rcases hcall : ctrlCall c.cmd with _ | call
  · rw [firstBuffer_of_unchanged (by rw [submitSndCtrl, hcall]; rfl)] at hbuf
    cases hbuf
  · refine ⟨call, rfl, ?_⟩
    obtain ⟨hpos, hlen⟩ := ctrlOut_length c.cmd call hcall
    let vq := ctrlVq c.vqIdx
    rw [submitSndCtrl, hcall] at hbuf
    have hnat : (UInt32.ofNat (ctrlOut call).length).toNat = (ctrlOut call).length := by
      rw [UInt32.toNat_ofNat', Nat.mod_eq_of_lt (by omega)]
    apply firstBuffer_request vq (fun s => (s.vqs vq).nextDescIdx + 3 ≥ (s.vqs vq).size)
      (ctrlOut call) (UInt32.ofNat (ctrlOut call).length)
      (afterOut vq (List.replicate (ctrlInLen call.inLen).toNat 0))
    · exact hnat.symm
    · intro hzero
      rw [hzero] at hnat
      exact absurd hnat.symm (by change (ctrlOut call).length ≠ 0; omega)
    · intro w
      rfl
    · exact submits_afterOut vq _
    · exact submitBufs_placedFirst vq _
    · exact hbuf

private theorem decodeCtrl_ctrlOut (call : CtrlCall) :
    decodeCtrl (ctrlOut call) =
      (decodeFields (ctrlOut call) call.code.toNat).map
        fun fields => (call.code.toNat, fields) := by
  have hcode : le32At (ctrlOut call) 0 = call.code.toNat := by
    have h := slice_zero_append (le32 call.code) call.payload
    rw [le32_length] at h
    rw [le32At, ctrlOut, h, ofLe_le32]
  rw [decodeCtrl, hcode]

/-- The empty word is read as the stream id and each word as the field after its own; the bytes of
`features` are read as the byte fields. -/
private theorem decodeCtrl_pcmSetParams (m : SndPcmSetParams) :
    decodeCtrl (ctrlOut (ctrlPcmSetParams m)) =
      some (0x0101, .pcmSetParams 0 m.streamId.toNat m.bufferBytes.toNat m.periodBytes.toNat
        (u8At (le32 m.features) 0) (u8At (le32 m.features) 1) (u8At (le32 m.features) 2)
        (u8At (le32 m.features) 3)) := by
  rw [decodeCtrl_ctrlOut]
  change some (0x0101, CtrlFields.pcmSetParams (ofLe (le32 0)) (ofLe (le32 m.streamId))
    (ofLe (le32 m.bufferBytes)) (ofLe (le32 m.periodBytes)) _ _ _ _) = _
  rw [ofLe_le32, ofLe_le32, ofLe_le32, ofLe_le32]
  rfl

private theorem decodeCtrl_pcmCmd (m : SndPcmCmd) :
    decodeCtrl (ctrlOut (ctrlPcmCmd virtioSndRPcmPrepare m)) = some (0x0102, .pcmCmd 0) ∧
      decodeCtrl (ctrlOut (ctrlPcmCmd virtioSndRPcmRelease m)) = some (0x0103, .pcmCmd 0) ∧
      decodeCtrl (ctrlOut (ctrlPcmCmd virtioSndRPcmStart m)) = some (0x0104, .pcmCmd 0) ∧
      decodeCtrl (ctrlOut (ctrlPcmCmd virtioSndRPcmStop m)) = some (0x0105, .pcmCmd 0) := by
  simp only [decodeCtrl_ctrlOut]
  exact ⟨rfl, rfl, rfl, rfl⟩

private theorem decodeCtrl_jackRemap (m : SndJackRemap) :
    decodeCtrl (ctrlOut (ctrlJackRemap m)) =
      some (0x0002, .jackRemap 0 m.jackId.toNat m.association.toNat) := by
  rw [decodeCtrl_ctrlOut]
  change some (0x0002, CtrlFields.jackRemap (ofLe (le32 0)) (ofLe (le32 m.jackId))
    (ofLe (le32 m.association))) = _
  rw [ofLe_le32, ofLe_le32, ofLe_le32]
  rfl

private theorem decodeCtrl_iff (cmd : SndCmd) (call : CtrlCall) (fields : Nat × CtrlFields)
    (hcall : ctrlCall cmd = some call) (hfields : wireFields cmd = some fields) :
    decodeCtrl (ctrlOut call) = some fields ↔ ZeroFields cmd := by
  have hzero (v : UInt32) : 0 = v.toNat ↔ v = 0 := by
    rw [← UInt32.toNat_inj, eq_comm]
    rfl
  cases cmd with
  | pcmSetParams m =>
      cases hcall
      cases hfields
      rw [decodeCtrl_pcmSetParams, ZeroFields]
      simp only [Option.some.injEq, Prod.mk.injEq, true_and, CtrlFields.pcmSetParams.injEq, hzero]
      constructor
      · rintro ⟨hstream, hbuffer, hperiod, hfeatures, hchannels, hformat, hrate, -⟩
        have hfour : m.features = 0 := by
          rw [← UInt32.toNat_inj, ← hfeatures, ← hperiod, ← hbuffer, hstream]
        rw [hfour] at hfeatures hchannels hformat hrate
        rw [hfeatures] at hperiod
        rw [hperiod] at hbuffer
        exact ⟨hstream, UInt32.toNat_inj.mp hperiod, UInt32.toNat_inj.mp hfeatures, hfour,
          hchannels.symm, hformat.symm, hrate.symm⟩
      · rintro ⟨hstream, hbuffer, hperiod, hfeatures, hchannels, hformat, hrate⟩
        rw [hstream, hbuffer, hperiod, hfeatures, hchannels, hformat, hrate]
        decide
  | pcmPrepare m =>
      cases hcall
      cases hfields
      rw [(decodeCtrl_pcmCmd m).1]
      simp [ZeroFields, hzero]
  | pcmRelease m =>
      cases hcall
      cases hfields
      rw [(decodeCtrl_pcmCmd m).2.1]
      simp [ZeroFields, hzero]
  | pcmStart m =>
      cases hcall
      cases hfields
      rw [(decodeCtrl_pcmCmd m).2.2.1]
      simp [ZeroFields, hzero]
  | pcmStop m =>
      cases hcall
      cases hfields
      rw [(decodeCtrl_pcmCmd m).2.2.2]
      simp [ZeroFields, hzero]
  | jackRemap m =>
      cases hcall
      cases hfields
      rw [decodeCtrl_jackRemap, ZeroFields]
      simp only [Option.some.injEq, Prod.mk.injEq, true_and, CtrlFields.jackRemap.injEq, hzero]
      constructor
      · rintro ⟨hjack, hassociation, hsequence⟩
        rw [hjack] at hassociation
        rw [← hassociation] at hsequence
        exact ⟨hjack, UInt32.toNat_inj.mp hassociation.symm, UInt32.toNat_inj.mp hsequence.symm⟩
      · rintro ⟨hjack, hassociation, hsequence⟩
        rw [hjack, hassociation, hsequence]
        decide
  | _ => cases hfields

/-- The request in the first descriptor reads as its message, by the documented layout, exactly
when all fields of the message are zero. -/
theorem ctrlRequest_decodes_iff (c : SndCtrl) (fields : Nat × CtrlFields)
    (hfields : wireFields c.cmd = some fields) (w : World kMaxQueues (Synth Unit))
    (buf : List UInt8) (hbuf : firstBuffer (submitSndCtrl c) w = some buf) :
    decodeCtrl buf = some fields ↔ ZeroFields c.cmd := by
  obtain ⟨call, hcall, rfl⟩ := firstBuffer_submitSndCtrl c w hbuf
  exact decodeCtrl_iff c.cmd call fields hcall hfields

/-- A world with the control queue set up. -/
def readyWorld : World kMaxQueues (Synth Unit) :=
  runFromReset target [.common (.vqSetup 0 8)] ⟨fun _ _ => 8, [], threadBState target, []⟩

theorem ctrlRequest_decodes_stream_zero :
    ∃ buf, firstBuffer (submitSndCtrl ⟨0, .pcmStart ⟨0⟩⟩) readyWorld = some buf ∧
      decodeCtrl buf = some (0x0104, .pcmCmd 0) :=
  ⟨ctrlOut (ctrlPcmCmd virtioSndRPcmStart ⟨0⟩), by decide,
    (ctrlRequest_decodes_iff ⟨0, .pcmStart ⟨0⟩⟩ _ rfl readyWorld _ (by decide)).mpr rfl⟩

/-- A START of stream 1 is read as one of stream 0. -/
theorem ctrlRequest_stream_one_misread :
    ¬∀ (c : SndCtrl) (fields : Nat × CtrlFields) (w : World kMaxQueues (Synth Unit))
      (buf : List UInt8), wireFields c.cmd = some fields →
        firstBuffer (submitSndCtrl c) w = some buf → decodeCtrl buf = some fields := by
  intro h
  have hstart := h ⟨0, .pcmStart ⟨1⟩⟩ _ readyWorld
    (ctrlOut (ctrlPcmCmd virtioSndRPcmStart ⟨1⟩)) rfl (by decide)
  rw [(decodeCtrl_pcmCmd ⟨1⟩).2.2.1] at hstart
  exact absurd hstart (by decide)

end VirtioCrash.Snd
