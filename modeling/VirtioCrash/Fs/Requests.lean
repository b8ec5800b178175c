import VirtioCrash.Fs.RequestFormat
import VirtioCrash.Targets.RequestChannels

/-!
# The requests of a FUSE run

A request is an out buffer and room for its response, on one of the request queues. A high-priority
request is one buffer without a response, and the only kind of request that the device finds.
-/

namespace VirtioCrash.Fs

open StateProgram Bytes Decoder

/-- The header a high-priority request should have. -/
def hpHeaderOf (m : FuseHpReq) : InHeader where
  len := 40 + (m.payload.take 256).length
  opcode := m.opcode.toNat
  unique := m.unique.toNat
  nodeid := m.nodeid.toNat
  uid := 0
  gid := 0
  pid := 0
  padding := 0

private theorem fuseHpOut_eq (m : FuseHpReq) :
    fuseHpOut m = buildInHeader m.opcode m.unique m.nodeid 0 0 0
      (UInt32.ofNat (40 + (m.payload.take 256).length)) ++ m.payload.take 256 := by
  have hzeros : (List.replicate 40 (0 : UInt8)).length = 40 := List.length_replicate
  rw [fuseHpOut, List.drop_left' hzeros, List.length_append, hzeros]

private theorem fuseHpOut_length (m : FuseHpReq) : (fuseHpOut m).length < 2 ^ 32 := by
  have hpayload := List.length_take_le 256 m.payload
  rw [fuseHpOut_eq, List.length_append, buildInHeader_length]
  omega

private theorem decode_fuseHpOut (m : FuseHpReq) :
    decodeInHeader.run (fuseHpOut m) = some (hpHeaderOf m, m.payload.take 256) := by
  have hpayload := List.length_take_le 256 m.payload
  have hlen := Decodes.le32 (UInt32.ofNat (40 + (m.payload.take 256).length))
  rw [UInt32.toNat_ofNat', Nat.mod_eq_of_lt (by omega)] at hlen
  have hheader : Decodes decodeInHeader (buildInHeader m.opcode m.unique m.nodeid 0 0 0
      (UInt32.ofNat (40 + (m.payload.take 256).length))) (hpHeaderOf m) := by
    simp only [buildInHeader, List.append_assoc]
    apply hlen.bind
    apply (Decodes.le32 m.opcode).bind
    apply (Decodes.le64 m.unique).bind
    apply (Decodes.le64 m.nodeid).bind
    apply (Decodes.le32 0).bind
    apply (Decodes.le32 0).bind
    apply (Decodes.le32 0).bind
    exact (Decodes.le32 0).map _
  rw [fuseHpOut_eq]
  exact hheader (m.payload.take 256)

def say : VirtioOp → Option (Envelope kMaxQueues)
  | .common _ => none
  | .fuseRequest r =>
      some ⟨requestVq r.vqIdx, 3,
        outInLoads (fuseOut r) (List.replicate (inLen r.inBufSize).toNat 0)⟩
  | .fuseHpReq m => some (.lone kHpVq (.all (fuseHpOut m) false))

private theorem speaks : target.Speaks asCommon say where
  confined := confined
  reset := rfl
  common := by
    refine ⟨Plain.handlers, ⟨rfl, _, rfl⟩, ?_⟩
    intro op c hc
    cases op with
    | common op => cases hc; rfl
    | _ => cases hc
  mute op c hc := by
    cases op with
    | common op => rfl
    | _ => cases hc
  speaks op msg hmsg w hno := by
    cases op with
    | common op => cases hmsg
    | fuseRequest r =>
        cases hmsg
        exact submitted_guarded fun _ => delivered_reqResp _ _ _ _ _ hno
    | fuseHpReq m =>
        cases hmsg
        exact submitted_guarded fun _ => delivered_lone _ _ _ _ hno
  whole op msg hmsg := by
    cases op with
    | common op => cases hmsg
    | fuseRequest r =>
        cases hmsg
        apply whole_outIn
        · rw [← fuseOut_length_toNat]
          exact UInt32.toNat_lt _
        · rw [List.length_replicate]
          exact UInt32.toNat_lt _
    | fuseHpReq m =>
        cases hmsg
        intro l hl
        rw [List.mem_singleton.mp hl]
        exact Load.all_length (fuseHpOut_length m) false
  few op msg hmsg := by
    cases op with
    | common op => cases hmsg
    | fuseRequest r => cases hmsg; exact ⟨(by decide : 2 ≤ 3), (by decide : 3 ≤ 8)⟩
    | fuseHpReq m => cases hmsg; exact ⟨(by decide : 1 ≤ 1), (by decide : 1 ≤ 8)⟩
  silent op hc hmsg := by
    cases op with
    | common op => cases hc
    | _ => cases hmsg

theorem requests {i : Fin kMaxQueues} (hi : i ≠ kHpVq) : target.Requests asCommon say i := by
  apply speaks.requests (by decide)
  intro op msg hmsg hvq
  cases op with
  | common op => cases hmsg
  | fuseRequest r => cases hmsg; exact answerable_outIn _ _
  | fuseHpReq m => cases hmsg; exact absurd hvq.symm hi

/-- The device decodes the high-priority requests that were taken since the last reset, each with
the first 256 bytes of its payload. -/
theorem hp_requests :
    target.Arrives asCommon say kHpVq .fuseHpReq (fun l => decodeInHeader.run l.bytes)
      (fun m => some (hpHeaderOf m, m.payload.take 256)) := by
  apply speaks.arrives (by decide)
  intro op msg hmsg hvq
  cases op with
  | common op => cases hmsg
  | fuseRequest r =>
      cases hmsg
      have hlow : requestVq r.vqIdx ≠ kHpVq := by
        rw [requestVq]
        split
        · decide
        · rename_i hge
          intro hzero
          rw [hzero] at hge
          exact hge (by decide)
      exact absurd hvq hlow
  | fuseHpReq m =>
      cases hmsg
      refine ⟨m, _, rfl, rfl, ?_⟩
      rw [Load.all_eq (fuseHpOut_length m)]
      exact decode_fuseHpOut m

end VirtioCrash.Fs
