import VirtioCrash.Scsi.DataBuffer
import VirtioCrash.Scsi.RequestFormat
import VirtioCrash.Targets.RequestChannels

/-!
# The requests of a SCSI run

A command is a request, its out data, the response and room for its in data; a task management or
notification request is one with a response. Commands go to any queue, the other two to the control
queue.
-/

namespace VirtioCrash.Scsi

open StateProgram Bytes

section Data

variable {n : Nat} {η : Type}

/-- A request and its response with data in either direction. -/
def withData (c e : Prop) [Decidable c] [Decidable e] (req out resp inBuf : Load) : List Load :=
  [req] ++ (if c then [out] else []) ++ [resp] ++ if e then [inBuf] else []

private theorem withData_length (c e : Prop) [Decidable c] [Decidable e]
    (req out resp inBuf : Load) :
    (withData c e req out resp inBuf).length =
      2 + (if c then 1 else 0) + if e then 1 else 0 := by
  simp only [withData, List.length_append, apply_ite List.length, List.length_singleton,
    List.length_nil]
  omega

private theorem cargosAt_withData (p : UInt64) (c e : Prop) [Decidable c] [Decidable e]
    (req out resp inBuf : Load) :
    (cargosAt p (withData c e req out resp inBuf)).map Cargo.piece =
      [] ++ [Cargo.piece ⟨p, req⟩] ++
        (if c then [Cargo.piece ⟨bumpAll p (lensOf [req]), out⟩] else []) ++
        [Cargo.piece ⟨bumpAll p (lensOf ([req] ++ if c then [out] else [])), resp⟩] ++
        if e then
          [Cargo.piece ⟨bumpAll p (lensOf ([req] ++ (if c then [out] else []) ++ [resp])), inBuf⟩]
        else [] := by
  rw [withData, cargosAt_append, cargosAt_append, cargosAt_append, cargosAt_ite, cargosAt_ite,
    List.map_append, List.map_append, List.map_append, apply_ite (List.map Cargo.piece),
    apply_ite (List.map Cargo.piece)]
  rfl

private theorem delivered_withData (i : Fin n) (req out resp inBuf : List UInt8)
    (reqLen outLen respLen inLen : UInt32) (c e : Prop) [Decidable c] [Decidable e]
    {w : World n (Synth η)} {ls : List Load}
    (hls : withData c e (.ofBytes req reqLen false) (.ofBytes out outLen false)
      (.ofBytes resp respLen true) (.ofBytes inBuf inLen true) = ls) (hno : NoZero w ls.length) :
    Post (allocBuf req reqLen >>= fun reqId => if reqId = 0 then pure () else
        (if c then allocBuf out outLen else pure 0) >>= fun outId =>
          if c ∧ outId = 0 then pure () else
            allocBuf resp respLen >>= fun respId => if respId = 0 then pure () else
              (if e then allocBuf inBuf inLen else pure 0) >>= fun inId =>
                if e ∧ inId = 0 then pure () else
                  placeBuf i reqId false true >>= fun _ =>
                    (if c then placeBuf i outId false true else pure 0) >>= fun _ =>
                      placeBuf i respId true (decide e) >>= fun _ =>
                        (if e then placeBuf i inId true false else pure 0) >>= fun _ => notify i)
      (fun _ w' => w' = w.delivered i ls) w := by
  have hcount := withData_length c e (.ofBytes req reqLen false) (.ofBytes out outLen false)
    (.ofBytes resp respLen true) (.ofBytes inBuf inLen true)
  rw [hls] at hcount
  have hfew : ls.length ≤ 16 := by
    rw [hcount]
    split <;> split <;> omega
  apply (StagedFrom.start w).next hno (by rw [hcount]; simp) hfew req reqLen false
  · exact fun hfull => delivered_full i _ hls.symm (.start w) hfull
  intro h1
  apply h1.nextIf hno (by intro hc; rw [hcount, if_pos hc]; simp; omega) hfew out outLen false
  · intro hc hfull
    exact delivered_full (l := .ofBytes out outLen false) i _
      (by rw [← hls, withData, if_pos hc]; rfl) h1 hfull
  intro outId houtId h2
  apply h2.next hno (by rw [hcount, List.length_append, apply_ite List.length]; simp; omega) hfew
    resp respLen true
  · intro hfull
    exact delivered_full (l := .ofBytes resp respLen true) i _
      (by rw [← hls, withData, List.append_assoc _ [_]]; rfl) h2 hfull
  intro h3
  apply h3.nextIf hno (by
    intro he
    rw [hcount, if_pos he, List.length_append, List.length_append, apply_ite List.length]
    simp) hfew inBuf inLen true
  · intro he hfull
    exact delivered_full (l := .ofBytes inBuf inLen true) i []
      (by rw [← hls, withData, if_pos he]; rfl) h3 hfull
  intro inId hinId h4
  have hsame : [] ++ [Load.ofBytes req reqLen false] ++
      (if c then [.ofBytes out outLen false] else []) ++ [.ofBytes resp respLen true] ++
        (if e then [.ofBytes inBuf inLen true] else []) = ls := by
    rw [← hls]
    rfl
  have hcargos := cargosAt_withData w.st.bufAlloc c e (.ofBytes req reqLen false)
    (.ofBytes out outLen false) (.ofBytes resp respLen true) (.ofBytes inBuf inLen true)
  rw [hls] at hcargos
  rw [hsame] at h4 ⊢
  have hreq := h4.names [] (.ofBytes req reqLen false) _ hsame.symm
  have hout (hc : c) := h4.names [.ofBytes req reqLen false] (.ofBytes out outLen false)
    ([.ofBytes resp respLen true] ++ if e then [.ofBytes inBuf inLen true] else [])
    (by rw [← hsame, if_pos hc]; rfl)
  have hresp := h4.names ([.ofBytes req reqLen false] ++
      if c then [.ofBytes out outLen false] else []) (.ofBytes resp respLen true) _
    (by rw [← hsame, List.append_assoc _ [_]]; rfl)
  have hin (he : e) := h4.names ([.ofBytes req reqLen false] ++
      (if c then [.ofBytes out outLen false] else []) ++ [.ofBytes resp respLen true])
    (.ofBytes inBuf inLen true) [] (by rw [← hsame, if_pos he]; rfl)
  have hend := delivered_whole i h4
  rw [World.send, hcargos] at hend
  generalize w.stageAll ls = v at hreq hout hresp hin hend ⊢
  have hout' : c → Names v outId _ := fun hc => (houtId hc).symm ▸ hout hc
  have hin' : e → Names v inId _ := fun he => (hinId he).symm ▸ hin he
  have hsent : Post (notify i) (fun _ w' => w' = w.delivered i ls) _ := hend
  have htail := Post.placeTail hresp hin' hsent
  change Post _ _ (v.placeOpen i [])
  apply Post.placeNext hreq
  intro _
  apply Post.placeNextIf hout'
  intro _
  exact htail

end Data

def say : VirtioOp → Option (Envelope kMaxQueues)
  | .common _ => none
  | .scsiCmd c =>
      some ⟨Fin.ofNat kMaxQueues c.vqIdx.toNat, 5,
        cmdLoads c (capLen (packCdb c.cdb).outLen) (capLen (packCdb c.cdb).inLen)⟩
  | .tmfReq m => some ⟨kCtrlVq, 3, [.ofBytes (tmfRequest m) 24 false, .ofBytes [0] 1 true]⟩
  | .anReq m =>
      some ⟨kCtrlVq, 3, [.ofBytes (anRequest m) 16 false, .ofBytes (List.replicate 5 0) 5 true]⟩

private theorem paddedOut_length (outData : List UInt8) (outLen : UInt32) :
    outLen.toNat ≤ (paddedOut outData outLen).length := by
  rw [paddedOut]
  split
  · rw [List.length_append, List.length_take, List.length_replicate]
    omega
  · omega

private theorem whole_cmdLoads (c : ScsiCmd) (outLen inLen : UInt32) :
    Whole (cmdLoads c outLen inLen) := by
  have hlen : (52 : UInt32).toNat ≤ (scsiReq c).length := (scsiReq_length c).ge
  have hreq := Load.ofBytes_length hlen false
  have hout := Load.ofBytes_length (paddedOut_length (outDataOf c.cdb) outLen) false
  have hin : (Load.ofBytes (List.replicate inLen.toNat 0) inLen true).bytes.length = inLen.toNat :=
    Load.ofBytes_length List.length_replicate.ge _
  intro l hl
  simp only [cmdLoads, List.mem_append, List.mem_singleton, List.mem_ite_nil_right] at hl
  rcases hl with ((rfl | ⟨-, rfl⟩) | rfl) | ⟨-, rfl⟩
  · exact hreq
  · exact hout
  · rfl
  · exact hin

private theorem cmdLoads_length (c : ScsiCmd) (outLen inLen : UInt32) :
    2 ≤ (cmdLoads c outLen inLen).length ∧ (cmdLoads c outLen inLen).length ≤ 5 := by
  have hcount : (cmdLoads c outLen inLen).length =
      2 + (if outLen > 0 then 1 else 0) + if inLen > 0 then 1 else 0 :=
    withData_length (outLen > 0) (inLen > 0) _ _ _ _
  rw [hcount]
  constructor
  · omega
  · split <;> split <;> omega

private theorem speaks : target.Speaks asCommon say where
  confined := confined
  reset := rfl
  common := by
    refine ⟨handlers, ⟨rfl, _, rfl⟩, ?_⟩
    intro op c hc
    cases op with
    | common op => cases hc; rfl
    | _ => cases hc
  mute op c hc := by
    cases op with
    | common op => rfl
    | _ => cases hc
  speaks op msg hmsg w hno := by
    cases op with
    | common op => cases hmsg
    | scsiCmd c =>
        cases hmsg
        exact submitted_guarded fun _ => delivered_withData _ _ _ _ _ _ _ _ _ _ _ rfl hno
    | tmfReq m =>
        cases hmsg
        exact submitted_guarded fun _ => delivered_reqResp _ _ _ _ _ hno
    | anReq m =>
        cases hmsg
        exact submitted_guarded fun _ => delivered_reqResp _ _ _ _ _ hno
  whole op msg hmsg := by
    cases op with
    | common op => cases hmsg
    | scsiCmd c => cases hmsg; exact whole_cmdLoads c _ _
    | tmfReq m => cases hmsg; simp [Whole, Load.ofBytes, tmfRequest, encodeLun_length]
    | anReq m => cases hmsg; simp [Whole, Load.ofBytes, anRequest, encodeLun_length]
  few op msg hmsg := by
    cases op with
    | common op => cases hmsg
    | scsiCmd c =>
        cases hmsg
        exact ⟨(cmdLoads_length c _ _).2, (by decide : 5 ≤ 8)⟩
    | tmfReq m => cases hmsg; exact ⟨(by decide : 2 ≤ 3), (by decide : 3 ≤ 8)⟩
    | anReq m => cases hmsg; exact ⟨(by decide : 2 ≤ 3), (by decide : 3 ≤ 8)⟩
  silent op hc hmsg := by
    cases op with
    | common op => cases hc
    | _ => cases hmsg

private theorem answerable_cmdLoads (c : ScsiCmd) (outLen inLen : UInt32) :
    Answerable (cmdLoads c outLen inLen) := by
  rw [Answerable, cmdLoads]
  by_cases hin : inLen > 0
  · rw [if_pos hin]
    refine ⟨_, List.getLast?_concat, ?_⟩
    rfl
  · rw [if_neg hin, List.append_nil]
    refine ⟨_, List.getLast?_concat, ?_⟩
    rfl

private theorem answerable {op : VirtioOp} {msg : Envelope kMaxQueues} (hmsg : say op = some msg) :
    Answerable msg.loads := by
  cases op with
  | common op => cases hmsg
  | scsiCmd c =>
      cases hmsg
      exact answerable_cmdLoads c _ _
  | tmfReq m => cases hmsg; exact ⟨_, rfl, rfl⟩
  | anReq m => cases hmsg; exact ⟨_, rfl, rfl⟩

theorem requests (i : Fin kMaxQueues) : target.Requests asCommon say i :=
  speaks.requests (by decide) fun _ _ hmsg _ => answerable hmsg

/-- A disk whose queues have 16 descriptors. -/
def disk : World kMaxQueues (Synth Unit) := ⟨fun _ _ => 16, [], threadBState target, []⟩

/-- The notification request goes to another queue, and the last command finds no room. -/
def diskOps : List VirtioOp :=
  [.common (.vqSetup 2 16), .scsiCmd ⟨2, 0, 0, 1, 0, 0, 0, .write10 ⟨false, false, 0, 1, 0⟩ [1]⟩,
    .anReq ⟨1, 0, 0, 2⟩, .scsiCmd ⟨10, 0, 0, 2, 0, 0, 0, .inquiry ⟨false, 0, 36⟩⟩,
    .scsiCmd ⟨2, 0, 0, 3, 0, 0, 0, .testUnitReady⟩, .common (.guestMemWrite 5 [1]),
    .scsiCmd ⟨2, 0, 0, 4, 0, 0, 0, .raw ⟨[0], [7], 1⟩⟩,
    .scsiCmd ⟨2, 0, 0, 5, 0, 0, 0, .testUnitReady⟩]

end VirtioCrash.Scsi
