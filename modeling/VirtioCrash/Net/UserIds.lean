import VirtioCrash.Net.Minting

/-!
# User buffer ids

The ids of `GuestMemWrite` and those `alloc_buf` mints share one map. They stay apart as long as no
op mints an id that the user has bound and no `VqAddDesc` names one that was minted.
-/

namespace VirtioCrash.Net

open StateProgram

/-- The buffers of the ids that `GuestMemWrite` bound since the last reset. -/
abbrev UserBufs := UInt32 → Option Buf

/-- What the user has bound once an op has been dispatched in `w`. -/
def bindUser (user : UserBufs) (w : NetWorld) : VirtioOp → UserBufs
  | .common (.guestMemWrite bufId data) =>
      let len := UInt32.ofNat (min data.length 4096)
      if PoolFull w.st.bufAlloc len then user
      else Function.update user bufId (some ⟨w.st.bufAlloc, len⟩)
  | .common .reset => fun _ => none
  | _ => user

private theorem bindUser_typed {op : VirtioOp} (hop : asCommon op = none) (user : UserBufs)
    (w : NetWorld) : bindUser user w op = user := by
  cases op with
  | common op => cases hop
  | _ => rfl

/-- A thread of the harness is in `w`, and its user has bound `user`; every op it dispatched met the
condition. -/
inductive UserRun (meets : UserBufs → NetWorld → VirtioOp → Prop) : UserBufs → NetWorld → Prop
  | reset (w : NetWorld) : UserRun meets (fun _ => none) (resetIterationState.run w).2
  | threadB (dev : Device) (trace : List Event) :
      UserRun meets (fun _ => none) ⟨dev, trace, threadBState target, []⟩
  | op (op : VirtioOp) {user : UserBufs} {w : NetWorld} (h : UserRun meets user w)
      (hmeets : meets user w op) : UserRun meets (bindUser user w op) ((dispatch op).run w).2
  | machine (dev : Device) (trace : List Event) {user : UserBufs} {w : NetWorld}
      (h : UserRun meets user w) : UserRun meets user ⟨dev, trace, w.st, w.hist⟩

/-- The map has every buffer the user bound. -/
def UserKept (user : UserBufs) (w : NetWorld) : Prop :=
  ∀ id b, user id = some b → w.st.bufs id = some b

/-- An op leaves every user buffer under its id, and a `VqAddDesc` uses the buffer the user bound
and no other. -/
structure UserFaithful (user : UserBufs) (w : NetWorld) (op : VirtioOp) : Prop where
  kept : UserKept (bindUser user w op) ((dispatch op).run w).2
  named : ∀ d, op = .common (.vqAddDesc d) →
    ((dispatch op).run w).2 = w.addDesc (fun _ => descTarget user) d

/-- Whether `alloc_buf` minted the id since the last reset. -/
def MintedBefore (w : NetWorld) (id : UInt32) : Prop :=
  2 ^ 31 ≤ id.toNat ∧ id.toNat < w.st.ext.synthBufId.toNat

/-- Whether a `VqAddDesc` looks its id up in the map. -/
def LooksUp (w : NetWorld) (d : VqAddDesc) : Prop :=
  d.exoticRegion = 0 ∧ ∃ h : d.vqIdx.toNat < kMaxQueues, (w.st.vqs ⟨d.vqIdx.toNat, h⟩).size ≠ 0

/-- An op keeps the ids apart: the ids it mints are not bound by the user, and the id it looks up is
bound by the user or was not minted. -/
def KeepsApart (user : UserBufs) (w : NetWorld) : VirtioOp → Prop
  | .common (.vqAddDesc d) => LooksUp w d → user d.bufId = none → ¬MintedBefore w d.bufId
  | .common _ => True
  | op => ∀ j < mintCount w.st op, user (mintedId w j) = none

/-- The map holds what the user bound and, under ids that were minted, what `alloc_buf` staged. -/
structure UserInv (user : UserBufs) (w : NetWorld) : Prop where
  sane : Sane w
  kept : UserKept user w
  minted : ∀ id, w.st.bufs id ≠ none → user id = none → MintedBefore w id

section

variable {user : UserBufs} {w : NetWorld}

private theorem UserInv.empty (hsane : Sane w) (hbufs : w.st.bufs = fun _ => none) :
    UserInv (fun _ => none) w where
  sane := hsane
  kept := by
    intro id b hb
    cases hb
  minted := by
    intro id hid
    rw [hbufs] at hid
    exact absurd rfl hid

private theorem UserInv.mints {w' : NetWorld} {k : Nat} (h : UserInv user w) (hsane : Sane w')
    (hm : Mints k w w') (hfree : ∀ j < k, user (mintedId w j) = none) : UserInv user w' := by
  have hroom := hm.room h.sane.ids.room
  have hfew := blocks_le hroom.1
  have hid (j : Nat) (hj : j ≤ k) : (mintedId w j).toNat = w.st.ext.synthBufId.toNat + j :=
    h.sane.ids.mintedId_toNat (Nat.le_refl _) (by omega)
  have hnext : w'.st.ext.synthBufId.toNat = w.st.ext.synthBufId.toNat + k := by
    rw [hm.next]
    exact hid k (Nat.le_refl _)
  have hge := h.sane.ids.ge
  constructor
  · exact hsane
  · intro id b hb
    rw [hm.others id, h.kept id b hb]
    intro j hj he
    rw [he, hfree j hj] at hb
    cases hb
  · intro id hbound hnone
    by_cases hnew : ∃ j < k, id = mintedId w j
    · obtain ⟨j, hj, rfl⟩ := hnew
      rw [MintedBefore, hid j hj.le, hnext]
      omega
    · rw [hm.others id fun j hj he => hnew ⟨j, hj, he⟩] at hbound
      obtain ⟨hlo, hhi⟩ := h.minted id hbound hnone
      exact ⟨hlo, by omega⟩

private theorem UserInv.guestMemWrite (h : UserInv user w) (bufId : UInt32) (data : List UInt8) :
    UserInv (bindUser user w (.common (.guestMemWrite bufId data)))
      ((opGuestMemWrite bufId data).run w).2 := by
  have hsane : Sane ((opGuestMemWrite bufId data).run w).2 :=
    h.sane.dispatch (.common (.guestMemWrite bufId data))
  simp only [bindUser]
  by_cases hfull : PoolFull w.st.bufAlloc (UInt32.ofNat (min data.length 4096))
  · rw [opGuestMemWrite_full bufId data w hfull, if_pos hfull]
    exact h
  · rw [opGuestMemWrite_fits bufId data w rfl hfull] at hsane ⊢
    rw [if_neg hfull]
    constructor
    · exact hsane
    · intro id b hb
      simp only [World.bindBuf, World.stage_st, World.bump]
      rw [Function.update_apply] at hb ⊢
      split at hb
      · rename_i he
        rw [if_pos he]
        exact hb
      · rename_i hne
        rw [if_neg hne]
        exact h.kept id b hb
    · intro id hbound hnone
      simp only [World.bindBuf, World.stage_st, World.bump] at hbound
      rw [Function.update_apply] at hbound hnone
      split at hnone
      · cases hnone
      · rename_i hne
        rw [if_neg hne] at hbound
        have hold := h.minted id hbound hnone
        rw [MintedBefore] at hold ⊢
        simp only [World.bindBuf, World.stage_st, World.bump]
        exact hold

/-- The user's buffers outlive an op that keeps the ids apart. -/
private theorem UserInv.dispatch (h : UserInv user w) {op : VirtioOp} (hop : KeepsApart user w op) :
    UserInv (bindUser user w op) ((Net.dispatch op).run w).2 := by
  have hsane := h.sane.dispatch op
  rcases hc : asCommon op with _ | c
  · have hmints := mints_dispatch h.sane.ids h.sane.pairs op hc
    have hfree : ∀ j < mintCount w.st op, user (mintedId w j) = none := by
      cases op with
      | common op => cases hc
      | _ => exact hop
    rw [bindUser_typed hc]
    exact h.mints hsane hmints hfree
  · cases op with
    | common op =>
        cases op with
        | reset =>
            apply UserInv.empty hsane
            change (resetIterationState.run w).2.st.bufs = _
            rw [resetIterationState_run]
            rfl
        | guestMemWrite bufId data => exact h.guestMemWrite bufId data
        | _ =>
            apply h.mints (k := 0) hsane _ (by simp)
            refine Mints.steps ?_ ?_ ?_ (dispatchCommon_within handlers_sound _ (by simp) w)
            · simp [CommonOp.acts]
            · simp [CommonOp.acts]
            · simp [CommonOp.acts]
    | _ => cases hc

private theorem UserInv.named (h : UserInv user w) {d : VqAddDesc}
    (hd : KeepsApart user w (.common (.vqAddDesc d))) :
    w.addDesc descTarget d = w.addDesc (fun _ => descTarget user) d := by
  by_cases hlook : LooksUp w d
  · have hsame : w.st.bufs d.bufId = user d.bufId := by
      rcases huser : user d.bufId with _ | b
      · by_contra hbound
        exact hd hlook huser (h.minted d.bufId hbound huser)
      · exact h.kept d.bufId b huser
    have htarget : descTarget w.st.bufs d.bufId d.len d.exoticRegion =
        descTarget user d.bufId d.len d.exoticRegion := by
      rw [descTarget, descTarget, hsame]
    rw [World.addDesc, World.addDesc, htarget]
  · rw [World.addDesc, World.addDesc]
    split
    · rename_i hi
      split
      · rfl
      · rename_i hsize
        have hexotic : d.exoticRegion ≠ 0 := fun he => hlook ⟨he, hi, hsize⟩
        rw [descTarget, descTarget, if_pos hexotic, if_pos hexotic]
    · rfl

end

private theorem userInv_of_run {user : UserBufs} {w : NetWorld} (h : UserRun KeepsApart user w) :
    UserInv user w := by
  induction h with
  | reset w =>
      apply UserInv.empty (sane_reset w)
      rw [resetIterationState_run]
      rfl
  | threadB dev trace =>
      exact UserInv.empty (sane_of_reached (.threadB dev trace)) rfl
  | op op h hmeets ih => exact ih.dispatch hmeets
  | machine dev trace h ih =>
      obtain ⟨⟨hroom, hge, hle⟩, hpairs⟩ := ih.sane
      exact ⟨⟨⟨hroom, hge, hle⟩, hpairs⟩, ih.kept, ih.minted⟩

/-- In a run whose ops keep the ids apart, every id the user bound keeps its buffer until the user
binds it again or resets, and every `VqAddDesc` uses the user's buffers only. -/
theorem userIds_faithful {user : UserBufs} {w : NetWorld} (h : UserRun KeepsApart user w) :
    UserKept user w ∧ ∀ op, KeepsApart user w op → UserFaithful user w op := by
  have hinv := userInv_of_run h
  refine ⟨hinv.kept, ?_⟩
  intro op hop
  constructor
  · exact (hinv.dispatch hop).kept
  · rintro d rfl
    have hrun : ((dispatch (.common (.vqAddDesc d))).run w).2 = w.addDesc descTarget d :=
      congrArg Prod.snd (addDescWith_run descTarget d w)
    rw [hrun]
    exact hinv.named hop

private theorem userRun_readyWorld {meets : UserBufs → NetWorld → VirtioOp → Prop}
    (hmeets : ∀ user w vqIdx size, meets user w (.common (.vqSetup vqIdx size))) :
    UserRun meets (fun _ => none) readyWorld :=
  .op (.common (.vqSetup 2 8)) (.op (.common (.vqSetup 1 8)) (.reset _) (hmeets _ _ _ _))
    (hmeets _ _ _ _)

/-- The buffer of one byte that the user binds first. -/
def firstUser (bufId : UInt32) : UserBufs :=
  Function.update (fun _ => none) bufId (some ⟨readyWorld.st.bufAlloc, 1⟩)

def boundWorld (bufId : UInt32) : NetWorld :=
  ((dispatch (.common (.guestMemWrite bufId [1]))).run readyWorld).2

private theorem bindUser_firstUser (bufId : UInt32) :
    bindUser (fun _ => none) readyWorld (.common (.guestMemWrite bufId [1])) =
      firstUser bufId := by
  have hfit : ¬PoolFull readyWorld.st.bufAlloc (UInt32.ofNat (min [(1 : UInt8)].length 4096)) := by
    decide +kernel
  simp only [bindUser]
  rw [if_neg hfit]
  rfl

/-- A user buffer and a control command that stages three more. -/
theorem userIds_faithful_ctrlRx :
    ((dispatch (.ctrlRx 0 1)).run (boundWorld 5)).2.st.bufs 5 =
      some ⟨readyWorld.st.bufAlloc, 1⟩ := by
  have hready : UserRun KeepsApart (fun _ => none) readyWorld :=
    userRun_readyWorld fun _ _ _ _ => trivial
  have hbound := hready.op (.common (.guestMemWrite 5 [1])) trivial
  have hfree : ∀ j < mintCount (boundWorld 5).st (.ctrlRx 0 1),
      firstUser 5 (mintedId (boundWorld 5) j) = none := by
    decide +kernel
  rw [bindUser_firstUser] at hbound
  have hkept := (userIds_faithful (hbound.op (.ctrlRx 0 1) hfree)).1
  rw [bindUser_typed rfl] at hkept
  exact hkept 5 _ (Function.update_self _ _ _)

/-- A user buffer under the first id that `alloc_buf` mints is lost to a control command. -/
theorem userIds_rebound :
    ¬∀ (user : UserBufs) (w : NetWorld), UserRun (fun _ _ _ => True) user w →
      UserKept user w ∧ ∀ op, UserFaithful user w op := by
  intro hall
  have hready : UserRun (fun _ _ _ => True) (fun _ => none) readyWorld :=
    userRun_readyWorld fun _ _ _ _ => trivial
  have hbound := hready.op (.common (.guestMemWrite 0x80000000 [1])) trivial
  rw [bindUser_firstUser] at hbound
  have hkept := (hall _ _ (hbound.op (.ctrlRx 0 1) trivial)).1
  rw [bindUser_typed rfl] at hkept
  have hlost := hkept 0x80000000 _ (Function.update_self _ _ _)
  revert hlost
  decide +kernel

end VirtioCrash.Net
