import VirtioCrash.Snd.ControlFormat
import VirtioCrash.Harness.Buffers
import VirtioCrash.Harness.Reached

/-!
# The response buffers of the sound info requests

JACK_INFO, PCM_INFO and CHMAP_INFO ask for `count` entries, and `submit_snd_ctrl` sizes the
response by the count before `submit_ctrl` clamps it. The size is computed in 32 bits, so that a
count whose entries are too many for 32 bits may get a buffer for few of them.
-/

namespace VirtioCrash.Snd

open StateProgram

/-- The length of an info response for `count` entries of `e` bytes, over the integers. -/
def responseLen (e count : Nat) : Nat := max 16 (min 4096 (256 + e * count))

/-- The entry size and the count of an info request. -/
def infoEntries : SndCmd → Option (Nat × UInt32)
  | .jackInfo m => some (32, m.count)
  | .pcmInfo m => some (64, m.count)
  | .chmapInfo m => some (64, m.count)
  | _ => none

/-- The entries fit into 32 bits together with the 256 bytes before them, or what is left of their
number beyond that still fills the largest buffer. -/
def CountFits (e count : Nat) : Prop :=
  count + 256 / e < 2 ^ 32 / e ∨ 4096 / e ≤ (count + 256 / e) % (2 ^ 32 / e)

private theorem ctrlInLen_toNat (inLen : UInt32) :
    (ctrlInLen inLen).toNat = max 16 (min 4096 inLen.toNat) := by
  have h16 : (16 : UInt32).toNat = 16 := rfl
  have h4096 : (4096 : UInt32).toNat = 4096 := rfl
  simp only [ctrlInLen, GT.gt, UInt32.lt_iff_toNat_lt]
  by_cases hlow : inLen.toNat < (16 : UInt32).toNat
  · rw [if_pos hlow, if_neg (by decide)]
    omega
  · rw [if_neg hlow]
    split
    · omega
    · omega

private theorem infoEntries_inLen {cmd : SndCmd} {e : Nat} {count : UInt32}
    (hinfo : infoEntries cmd = some (e, count)) :
    (e = 32 ∨ e = 64) ∧ ∃ call, ctrlCall cmd = some call ∧
      call.inLen.toNat = (256 + e * count.toNat) % 2 ^ 32 := by
  cases cmd with
  | jackInfo m =>
      cases hinfo
      refine ⟨Or.inl rfl, _, rfl, ?_⟩
      simp [ctrlJackInfo]
  | pcmInfo m =>
      cases hinfo
      refine ⟨Or.inr rfl, _, rfl, ?_⟩
      simp [ctrlPcmInfo]
  | chmapInfo m =>
      cases hinfo
      refine ⟨Or.inr rfl, _, rfl, ?_⟩
      simp [ctrlChmapInfo]
  | _ => cases hinfo

/-- The size that wrapped around is clamped to the same length exactly when it did not wrap, or
wrapped to one above the limit. -/
private theorem clampWrapped_iff {e : Nat} (he : e = 32 ∨ e = 64) {count : Nat} :
    max 16 (min 4096 ((256 + e * count) % 2 ^ 32)) = responseLen e count ↔ CountFits e count := by
  rw [responseLen, CountFits]
  rcases he with rfl | rfl
  · omega
  · omega

private theorem sends_submitCtrl (vq : Fin kMaxQueues) (call : CtrlCall)
    (w : World kMaxQueues (Synth Unit)) :
    Sends 3 vq [UInt32.ofNat (ctrlOut call).length,
        UInt32.ofNat (List.replicate (ctrlInLen call.inLen).toNat (0 : UInt8)).length]
      [.ofBytes (ctrlOut call) (UInt32.ofNat (ctrlOut call).length) false,
        .ofBytes (List.replicate (ctrlInLen call.inLen).toNat 0)
          (UInt32.ofNat (List.replicate (ctrlInLen call.inLen).toNat (0 : UInt8)).length) true] w
      ((submitCtrl vq call.code call.payload call.inLen).run w).2 := by
  rw [submitCtrl]
  apply sends_guarded
  intro _
  exact delivers_reqResp _ _ _ _ _ w

/-- The lengths of the in descriptors that a control message sends. -/
def inLens (c : SndCtrl) (w : World kMaxQueues (Synth Unit)) : List Nat :=
  ((sent (submitSndCtrl c) w).filter (·.deviceWritable)).map (·.len.toNat)

private theorem inLens_submitSndCtrl {c : SndCtrl} {call : CtrlCall}
    (hcall : ctrlCall c.cmd = some call) {ops : List VirtioOp} {w : World kMaxQueues (Synth Unit)}
    (hw : Reached target ops w) (hsent : sent (submitSndCtrl c) w ≠ []) :
    inLens c w = [(ctrlInLen call.inLen).toNat] := by
  have hrun : submitSndCtrl c = submitCtrl (ctrlVq c.vqIdx) call.code call.payload call.inLen := by
    rw [submitSndCtrl, hcall]
  have hroom := (hw.poolInv confined (by decide)).le_end
  have hsends := sends_submitCtrl (ctrlVq c.vqIdx) call w
  rw [← hrun] at hsends
  have hchain := (hsends.shipped hroom).resolve_left hsent
  have hlen : (UInt32.ofNat (List.replicate (ctrlInLen call.inLen).toNat (0 : UInt8)).length) =
      ctrlInLen call.inLen := by
    rw [List.length_replicate, UInt32.ofNat_toNat]
  rw [inLens, show sent (submitSndCtrl c) w = _ from hchain, hlen]
  simp [chainOf, Load.ofBytes]

/-- The in descriptor of an info request that is sent has the length for its count, over the
integers, exactly when the count fits. -/
theorem infoResponse_len_iff (c : SndCtrl) {e : Nat} {count : UInt32}
    (hinfo : infoEntries c.cmd = some (e, count)) {ops : List VirtioOp}
    {w : World kMaxQueues (Synth Unit)} (hw : Reached target ops w)
    (hsent : sent (submitSndCtrl c) w ≠ []) :
    inLens c w = [responseLen e count.toNat] ↔ CountFits e count.toNat := by
  obtain ⟨he, call, hcall, hinLen⟩ := infoEntries_inLen hinfo
  rw [inLens_submitSndCtrl hcall hw hsent, List.singleton_inj, ctrlInLen_toNat, hinLen]
  exact clampWrapped_iff he

private theorem reached_readyWorld : Reached target [VirtioOp.common (.vqSetup 0 8)] readyWorld :=
  reached_runFromReset [VirtioOp.common (.vqSetup 0 8)] _

theorem infoResponse_len_three :
    inLens ⟨0, .pcmInfo ⟨0, 3⟩⟩ readyWorld = [448] :=
  (infoResponse_len_iff ⟨0, .pcmInfo ⟨0, 3⟩⟩ rfl reached_readyWorld (by decide +kernel)).mpr
    (Or.inl (by decide))

/-- A JACK_INFO for 2^27 - 8 entries gets the smallest buffer. -/
theorem infoResponse_len_wraps :
    ¬∀ (c : SndCtrl) (e : Nat) (count : UInt32) (ops : List VirtioOp)
      (w : World kMaxQueues (Synth Unit)), infoEntries c.cmd = some (e, count) →
        Reached target ops w → sent (submitSndCtrl c) w ≠ [] →
          inLens c w = [responseLen e count.toNat] := by
  intro hall
  have hlen := hall ⟨0, .jackInfo ⟨0, 0x07fffff8⟩⟩ _ _ _ _ rfl reached_readyWorld
    (by decide +kernel)
  revert hlen
  decide +kernel

end VirtioCrash.Snd
