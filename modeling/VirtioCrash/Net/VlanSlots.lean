import VirtioCrash.Net.ControlQueue
import VirtioCrash.Net.Payloads

/-!
# VLAN slots

What a slot reference in a `CtrlVlanDel` resolves to, against the ops that came before it.
-/

namespace VirtioCrash.Net

open StateProgram Bytes

/-- The ops that change what slot `k` holds: an add to it, a delete that consumes it and a reset. -/
def touchesSlot (k : Fin kVlanSlots) : VirtioOp → Bool
  | .ctrlVlanAdd m => vlanSlot m.vlanSlot = k
  | .ctrlVlanDel m => m.useSlot && decide (vlanSlot m.vlanSlot = k)
  | .common .reset => true
  | _ => false

/-- What an op that touches a slot leaves in it. -/
def leftVid : VirtioOp → Option UInt16
  | .ctrlVlanAdd m => some (m.vid &&& 0x0fff).toUInt16
  | _ => none

/-- What the ops (newest first) leave in slot `k`: the VID of the newest op that touches it, if that
is an add. -/
def lastAdded (k : Fin kVlanSlots) (ops : List VirtioOp) : Option UInt16 :=
  (ops.find? (touchesSlot k)).bind leftVid

private theorem lastAdded_cons (k : Fin kVlanSlots) (op : VirtioOp) (ops : List VirtioOp) :
    lastAdded k (op :: ops) = if touchesSlot k op then leftVid op else lastAdded k ops := by
  rw [lastAdded, List.find?_cons]
  cases touchesSlot k op with
  | true => rfl
  | false => rfl

/-- What slot `k` holds. -/
def slotVid (w : NetWorld) (k : Fin kVlanSlots) : Option UInt16 :=
  if w.st.ext.device.vlanSlotValid k then some (w.st.ext.device.vlanSlots k) else none

/-- Neither the slots nor their valid flags change. -/
def SlotsKept (w w' : NetWorld) : Prop :=
  w'.st.ext.device.vlanSlots = w.st.ext.device.vlanSlots ∧
    w'.st.ext.device.vlanSlotValid = w.st.ext.device.vlanSlotValid

instance : IsPreorder NetWorld SlotsKept where
  refl _ := ⟨rfl, rfl⟩
  trans _ _ _ h h' := ⟨h'.1.trans h.1, h'.2.trans h.2⟩

private theorem DeviceKept.slotsKept {w w' : NetWorld} (h : DeviceKept w w') : SlotsKept w w' :=
  ⟨congrArg NetDevice.vlanSlots h, congrArg NetDevice.vlanSlotValid h⟩

private theorem SlotsKept.slotVid_eq {w w' : NetWorld} (h : SlotsKept w w') (k : Fin kVlanSlots) :
    slotVid w' k = slotVid w k := by
  rw [slotVid, slotVid, h.1, h.2]

private theorem slotsKept_onCvq (vclass cmd : UInt8) (payload : List UInt8) :
    Within SlotsKept (cvq >>= fun vq => submitCtrl vq vclass cmd payload) := by
  have hkept := deviceKept_cvq.bind fun vq => deviceKept_submitCtrl vq vclass cmd payload
  exact hkept.weaken fun _ _ => DeviceKept.slotsKept

private theorem slotsKept_modifyDevice {f : NetDevice → NetDevice}
    (hf : ∀ d, (f d).vlanSlots = d.vlanSlots ∧ (f d).vlanSlotValid = d.vlanSlotValid) :
    Within SlotsKept (modifyDevice f) :=
  fun w => hf w.st.ext.device

private theorem slotsKept_opCtrlMacTableSet (m : CtrlMacTableSet) :
    Within SlotsKept (opCtrlMacTableSet m) := by
  refine Within.bind (slotsKept_modifyDevice ?_) fun _ => slotsKept_onCvq _ _ _
  exact fun _ => ⟨rfl, rfl⟩

/-- The state once slot `k` is consumed. -/
def consumeSlot (k : Fin kVlanSlots) (w : NetWorld) : NetWorld :=
  w.setExt fun e =>
    { e with device :=
      { e.device with vlanSlotValid := Function.update e.device.vlanSlotValid k false } }

private theorem slotVid_consumeSlot (k j : Fin kVlanSlots) (w : NetWorld) :
    slotVid (consumeSlot k w) j = if k = j then none else slotVid w j := by
  simp only [slotVid, consumeSlot, World.setExt, Function.update_apply]
  by_cases h : k = j
  · simp [h]
  · simp [h, Ne.symm h]

private theorem consumeSlot_invalid {k : Fin kVlanSlots} {w : NetWorld}
    (h : ¬w.st.ext.device.vlanSlotValid k = true) : consumeSlot k w = w := by
  have hsame : Function.update w.st.ext.device.vlanSlotValid k false =
      w.st.ext.device.vlanSlotValid := by
    rw [Function.update_eq_self_iff]
    exact (Bool.not_eq_true _ ▸ h).symm
  rw [consumeSlot, World.setExt, hsame]

private theorem opCtrlVlanDel_useSlot (m : CtrlVlanDel) (huse : m.useSlot = true) (w : NetWorld) :
    (opCtrlVlanDel m).run w =
      (submitCtrl (cvq.run w).1 2 1
        (le16 ((slotVid w (vlanSlot m.vlanSlot)).getD 0))).run
          (consumeSlot (vlanSlot m.vlanSlot) w) := by
  rw [opCtrlVlanDel, run_bind, getState_run]
  dsimp only
  rw [if_pos huse, slotVid]
  by_cases hvalid : w.st.ext.device.vlanSlotValid (vlanSlot m.vlanSlot) = true
  · rw [if_pos ⟨huse, hvalid⟩, if_pos hvalid, if_pos hvalid]
    rfl
  · rw [if_neg (fun h => hvalid h.2), if_neg hvalid, if_neg hvalid, consumeSlot_invalid hvalid]
    rfl

section

variable (w : NetWorld) (k : Fin kVlanSlots)

private theorem slotVid_common (op : CommonOp) :
    slotVid ((dispatchCommon handlers op).run w).2 k =
      if touchesSlot k (.common op) then none else slotVid w k := by
  by_cases hop : op = .reset
  · subst hop
    change slotVid (resetIterationState.run w).2 k = none
    rw [resetIterationState_run]
    rfl
  · have hother : touchesSlot k (.common op) = false := by
      cases op with
      | reset => exact absurd rfl hop
      | _ => rfl
    have hext := (dispatchCommon_within handlers_sound op hop w).ext_eq
      (by cases op <;> simp [CommonOp.acts])
    rw [hother, slotVid, hext]
    rfl

private theorem slotVid_opCtrlVlanAdd (m : CtrlVlanAdd) :
    slotVid ((opCtrlVlanAdd m).run w).2 k =
      if vlanSlot m.vlanSlot = k then some (m.vid &&& 0x0fff).toUInt16 else slotVid w k := by
  have hkept := (slotsKept_onCvq 2 0 (le16 (m.vid &&& 0x0fff).toUInt16)
    ((modifyDevice fun d =>
      { d with
        vlanSlots := Function.update d.vlanSlots (vlanSlot m.vlanSlot) (m.vid &&& 0x0fff).toUInt16
        vlanSlotValid := Function.update d.vlanSlotValid (vlanSlot m.vlanSlot) true }).run w).2)
  rw [opCtrlVlanAdd, run_bind, hkept.slotVid_eq]
  change (if Function.update w.st.ext.device.vlanSlotValid (vlanSlot m.vlanSlot) true k = true then
    some (Function.update w.st.ext.device.vlanSlots (vlanSlot m.vlanSlot) _ k) else none) = _
  rw [Function.update_apply, Function.update_apply, slotVid]
  by_cases h : k = vlanSlot m.vlanSlot
  · simp [h]
  · simp [h, Ne.symm h]

private theorem slotVid_opCtrlVlanDel (m : CtrlVlanDel) :
    slotVid ((opCtrlVlanDel m).run w).2 k =
      if m.useSlot = true ∧ vlanSlot m.vlanSlot = k then none else slotVid w k := by
  by_cases huse : m.useSlot = true
  · have hkept := (deviceKept_submitCtrl (cvq.run w).1 2 1
      (le16 ((slotVid w (vlanSlot m.vlanSlot)).getD 0))).weaken
        (fun _ _ => DeviceKept.slotsKept) (consumeSlot (vlanSlot m.vlanSlot) w)
    rw [opCtrlVlanDel_useSlot m huse, hkept.slotVid_eq, slotVid_consumeSlot]
    simp only [huse, true_and]
  · have hkept := slotsKept_onCvq 2 1 (le16 (m.vid &&& 0x0fff).toUInt16) w
    have hrun : (opCtrlVlanDel m).run w = (cvq >>= fun vq =>
        submitCtrl vq 2 1 (le16 (m.vid &&& 0x0fff).toUInt16)).run w := by
      rw [opCtrlVlanDel, run_bind, getState_run]
      dsimp only
      rw [if_neg huse, if_neg fun h => huse h.1]
    rw [hrun, hkept.slotVid_eq, if_neg fun h => huse h.1]

private theorem slotVid_dispatch (op : VirtioOp) :
    slotVid ((dispatch op).run w).2 k = if touchesSlot k op then leftVid op else slotVid w k := by
  have hcvq (vclass cmd : UInt8) (payload : List UInt8) :=
    (slotsKept_onCvq vclass cmd payload w).slotVid_eq k
  cases op with
  | common op => exact slotVid_common w k op
  | txPacket p => exact (deviceKept_opTxPacket p w).slotsKept.slotVid_eq k
  | ctrlCmd c => exact (deviceKept_opCtrlCmd c w).slotsKept.slotVid_eq k
  | ctrlRx cmd enable => exact hcvq _ _ _
  | ctrlMacAddrSet mac => exact hcvq 1 1 (pad6 mac)
  | ctrlMacTableSet m => exact (slotsKept_opCtrlMacTableSet m w).slotVid_eq k
  | ctrlVlanAdd m =>
      have h := slotVid_opCtrlVlanAdd w k m
      simp only [touchesSlot, decide_eq_true_eq]
      exact h
  | ctrlVlanDel m =>
      have h := slotVid_opCtrlVlanDel w k m
      simp only [touchesSlot, Bool.and_eq_true, decide_eq_true_eq]
      exact h
  | ctrlAnnounceAck => exact hcvq _ _ _
  | ctrlMqVqPairsSet pairCount => exact hcvq 4 0 (le16 (min (max pairCount 1) 3).toUInt16)
  | ctrlGuestOffloads offloads => exact hcvq _ _ _
  | ctrlRssConfig m => exact hcvq _ _ _
  | hostSetLink up => rfl

end

private theorem slotVid_eq_lastAdded {ops : List VirtioOp} {w : NetWorld}
    (hw : Reached target ops w) (k : Fin kVlanSlots) : slotVid w k = lastAdded k ops := by
  induction hw with
  | reset w =>
      change slotVid (resetIterationState.run w).2 k = none
      rw [resetIterationState_run]
      rfl
  | threadB dev trace => rfl
  | op op hw ih =>
      rw [lastAdded_cons, ← ih]
      exact slotVid_dispatch _ k op
  | machine dev trace hw ih => exact ih

/-- A delete by slot builds its payload from the newest add to that slot that was neither consumed
nor cleared since, or from 0 if there is none, and sends that payload if it sends anything. No op
but an add to the slot, a delete that consumes it and a reset changes what the slot resolves to. -/
theorem vlanSlot_resolves (m : CtrlVlanDel) (huse : m.useSlot = true) {ops : List VirtioOp}
    {w : NetWorld} (hw : Reached target ops w) :
    let k := vlanSlot m.vlanSlot
    let payload := le16 ((lastAdded k ops).getD 0)
    (opCtrlVlanDel m).run w = (submitCtrl (cvq.run w).1 2 1 payload).run (consumeSlot k w) ∧
      (sent (opCtrlVlanDel m) w ≠ [] →
        sent (opCtrlVlanDel m) w = ctrlChain (cvq.run w).1.toNat 2 1 payload) ∧
      ∀ op, touchesSlot k op = false → slotVid ((dispatch op).run w).2 k = slotVid w k := by
  intro k payload
  have hrun := opCtrlVlanDel_useSlot m huse w
  rw [slotVid_eq_lastAdded hw] at hrun
  refine ⟨hrun, ?_, ?_⟩
  · intro hsent
    have hne : payload ≠ [] := List.ne_nil_of_length_pos (by simp [payload])
    have hroom := room_of_reached hw
    rw [sent, hrun] at hsent ⊢
    exact (sent_onCvq (w := consumeSlot k w) 2 1 hne hroom).resolve_left hsent
  · intro op hop
    rw [slotVid_dispatch, hop]
    rfl

/-- An add to slot 3 is what a delete of slot 19 refers to. -/
theorem vlanSlot_resolves_aliased :
    let w := dispatchAll target [.ctrlVlanAdd ⟨3, 0x1064⟩] readyWorld
    sent (opCtrlVlanDel ⟨19, true, 0⟩) w = ctrlChain 2 2 1 [0x64, 0x00] :=
  (vlanSlot_resolves ⟨19, true, 0⟩ rfl
    (reached_readyWorld.dispatchAll [.ctrlVlanAdd ⟨3, 0x1064⟩])).2.1 (by decide +kernel)

end VirtioCrash.Net
