import VirtioCrash.Scsi.Harness
import VirtioCrash.Harness.Request

/-!
# The wire format of a SCSI request

`submit_scsi_cmd` stores the request before anything else and points the first descriptor of its
chain at it. Read by the documented layout, the CDB is found one byte late: the harness puts a
reserved byte between `crn` and the CDB.
-/

namespace VirtioCrash.Scsi

open StateProgram Bytes

/-- `virtio_scsi_cmd_req` as the grammar documents it: lun[8], le64 tag, u8 task_attr, u8 prio,
u8 crn, and the CDB directly after it. -/
structure CmdReq where
  lun : List UInt8
  tag : Nat
  taskAttr : List UInt8
  prio : List UInt8
  crn : List UInt8
  cdb : List UInt8
  deriving DecidableEq

def decodeCmdReq (buf : List UInt8) : CmdReq where
  lun := slice buf 0 8
  tag := ofLe (slice buf 8 8)
  taskAttr := slice buf 16 1
  prio := slice buf 17 1
  crn := slice buf 18 1
  cdb := slice buf 19 kCdbSize

/-- What a request for `c` should read as. -/
def cmdReqOf (c : ScsiCmd) : CmdReq where
  lun := encodeLun c.target c.lun
  tag := c.tag.toNat
  taskAttr := [(c.taskAttr &&& 7).toUInt8]
  prio := [(c.prio &&& 0xff).toUInt8]
  crn := [(c.crn &&& 0xff).toUInt8]
  cdb := cdbBytes c.cdb

/-- All CDB bytes are zero: TEST UNIT READY, no CDB at all, or a raw CDB of zeros. -/
def ZeroCdb : Cdb → Prop
  | .testUnitReady => True
  | .cdbNotSet => True
  | .raw m => ∀ b ∈ m.cdbBytes.take kCdbSize, b = 0
  | _ => False

instance (cdb : Cdb) : Decidable (ZeroCdb cdb) := by
  cases cdb with
  | testUnitReady => exact isTrue trivial
  | cdbNotSet => exact isTrue trivial
  | raw m => exact inferInstanceAs (Decidable (∀ b ∈ _, b = 0))
  | _ => exact isFalse id

private theorem packCdb_length (cdb : Cdb) : (packCdb cdb).bytes.length ≤ kCdbSize := by
  cases cdb with
  | raw m =>
      change (m.cdbBytes.take kCdbSize).length ≤ kCdbSize
      rw [List.length_take]
      exact Nat.min_le_left _ _
  | _ => simp [packCdb, packInquiry, packTestUnitReady, packReadCapacity10, packReadCapacity16,
      packRead10, packWrite10, packRead16, packWrite16, packModeSense6, packModeSelect6,
      packRequestSense, packReportLuns, packStartStopUnit, packSyncCache10, rw10Bytes, rw16Bytes,
      packBe16, packBe32, packBe64, kCdbSize]

theorem cdbBytes_length (cdb : Cdb) : (cdbBytes cdb).length = kCdbSize := by
  have hlen := packCdb_length cdb
  simp only [cdbBytes, List.length_append, List.length_replicate]
  omega

theorem encodeLun_length (target lun : UInt32) : (encodeLun target lun).length = 8 := rfl

private theorem zeroCdb_iff (cdb : Cdb) : ZeroCdb cdb ↔ ∀ b ∈ cdbBytes cdb, b = 0 := by
  have hpad : (∀ b ∈ cdbBytes cdb, b = 0) ↔ ∀ b ∈ (packCdb cdb).bytes, b = 0 := by
    simp only [cdbBytes, List.mem_append, List.mem_replicate]
    constructor
    · intro h b hb
      exact h b (Or.inl hb)
    · rintro h b (hb | ⟨-, rfl⟩)
      · exact h b hb
      · rfl
  rw [hpad]
  cases cdb with
  | testUnitReady => simp [ZeroCdb, packCdb, packTestUnitReady]
  | cdbNotSet => simp [ZeroCdb, packCdb, packTestUnitReady]
  | raw m => exact Iff.rfl
  | _ => simp [ZeroCdb, packCdb, packInquiry, packReadCapacity10, packReadCapacity16,
      packRead10, packWrite10, packRead16, packWrite16, packModeSense6, packModeSelect6,
      packRequestSense, packReportLuns, packStartStopUnit, packSyncCache10, rw10Bytes, rw16Bytes]

/-- A string equals its shift by one byte exactly when every byte is that byte. -/
private theorem shifted_eq_iff (z : UInt8) (bs : List UInt8) :
    (z :: bs).take bs.length = bs ↔ ∀ b ∈ bs, b = z := by
  induction bs generalizing z with
  | nil => simp
  | cons b bs ih =>
      rw [List.length_cons, List.take_succ_cons, List.cons.injEq, ih b]
      constructor
      · rintro ⟨rfl, hrest⟩ x hx
        rcases List.mem_cons.mp hx with rfl | hx
        · rfl
        · exact hrest x hx
      · intro h
        have hb : b = z := h b List.mem_cons_self
        refine ⟨hb.symm, ?_⟩
        intro x hx
        rw [hb]
        exact h x (List.mem_cons_of_mem b hx)

private theorem slice_scsiReq (c : ScsiCmd) (off k : Nat) (h : 16 ≤ off) :
    slice (scsiReq c) off k =
      slice ([(c.taskAttr &&& 7).toUInt8, c.prio.toUInt8, c.crn.toUInt8, 0] ++ cdbBytes c.cdb)
        (off - 16) k := by
  have hlen : (encodeLun c.target c.lun ++ le64 c.tag).length = 16 := by
    rw [List.length_append, encodeLun_length, le64_length]
  rw [scsiReq, List.append_assoc, slice_append_right _ _ _ _ (by omega), hlen]

private theorem decode_header (c : ScsiCmd) :
    decodeCmdReq (scsiReq c) = { cmdReqOf c with cdb := (0 :: cdbBytes c.cdb).take kCdbSize } := by
  have hlun : slice (scsiReq c) 0 8 = encodeLun c.target c.lun := by
    simp only [scsiReq, List.append_assoc]
    exact slice_zero_append (encodeLun c.target c.lun) _
  have htag : slice (scsiReq c) 8 8 = le64 c.tag := by
    have h := slice_zero_append (le64 c.tag)
      ([(c.taskAttr &&& 7).toUInt8, c.prio.toUInt8, c.crn.toUInt8, 0] ++ cdbBytes c.cdb)
    rw [le64_length] at h
    simp only [scsiReq, List.append_assoc]
    rw [slice_append_right _ _ _ _ (by rw [encodeLun_length]), encodeLun_length]
    exact h
  have hmask (v : UInt32) : (v &&& 0xff).toUInt8 = v.toUInt8 := by
    rw [UInt32.toUInt8_and]
    exact UInt8.and_neg_one
  simp only [decodeCmdReq, cmdReqOf, hlun, htag, ofLe_le64, hmask,
    slice_scsiReq c 16 1 (by decide), slice_scsiReq c 17 1 (by decide),
    slice_scsiReq c 18 1 (by decide), slice_scsiReq c 19 kCdbSize (by decide)]
  rfl

private theorem decodeCmdReq_scsiReq (c : ScsiCmd) :
    decodeCmdReq (scsiReq c) = cmdReqOf c ↔ ZeroCdb c.cdb := by
  have hshift := shifted_eq_iff 0 (cdbBytes c.cdb)
  rw [cdbBytes_length] at hshift
  rw [zeroCdb_iff, ← hshift, decode_header]
  constructor
  · intro h
    exact congrArg CmdReq.cdb h
  · intro h
    rw [h]
    rfl

private theorem afterRequest_placedFirst (c : ScsiCmd) {ps : List Placement} {id : UInt32} {b : Buf}
    {w : World kMaxQueues (Synth Unit)}
    (h : Staged ps id b (Fin.ofNat kMaxQueues c.vqIdx.toNat) 0 w) :
    Post (afterRequest c id) (fun _ => PlacedFirst ps b.gpa) w := by
  let vq := Fin.ofNat kMaxQueues c.vqIdx.toNat
  have hplace (id : UInt32) (deviceWritable chainNext : Bool) :
      Submits typedActs vq (placeBuf vq id deviceWritable chainNext : ScsiM UInt32) :=
    submits_placeBuf (by decide) vq id deviceWritable chainNext
  refine Post.ite (fun _ => ?_) fun _ => ?_
  · exact h.placedFirst
  refine (h.allocIf _ _ (by decide)).bind fun outId w1 h1 => ?_
  refine Post.ite (fun _ => ?_) fun _ => ?_
  · exact h1.placedFirst
  refine (h1.allocBuf _ _ (by decide)).bind fun respId w2 h2 => ?_
  refine Post.ite (fun _ => ?_) fun _ => ?_
  · exact h2.placedFirst
  refine (h2.allocIf _ _ (by decide)).bind fun inId w3 h3 => ?_
  refine Post.ite (fun _ => ?_) fun _ => ?_
  · exact h3.placedFirst
  refine h3.place (A := typedActs) false true fun _ => ?_
  refine Submits.bind (WithinFrom.ite (hplace _ _ _) (Within.pure _).from) fun _ => ?_
  refine Submits.bind (hplace _ _ _) fun _ => ?_
  refine Submits.bind (WithinFrom.ite (hplace _ _ _) (Within.pure _).from) fun _ => ?_
  exact (within_notify (by decide) _).from

theorem scsiReq_length (c : ScsiCmd) : (scsiReq c).length = 52 := by
  have hcdb := cdbBytes_length c.cdb
  simp only [scsiReq, List.length_append, encodeLun_length, le64_length, List.length_cons,
    List.length_nil, hcdb, kCdbSize]

private theorem firstBuffer_submitScsiCmd (c : ScsiCmd) (w : World kMaxQueues (Synth Unit))
    {buf : List UInt8} (hbuf : firstBuffer (submitScsiCmd c) w = some buf) : buf = scsiReq c := by
  let vq := Fin.ofNat kMaxQueues c.vqIdx.toNat
  apply firstBuffer_request vq (fun s => (s.vqs vq).nextDescIdx + 5 ≥ (s.vqs vq).size)
    (scsiReq c) 52 (afterRequest c)
  · exact scsiReq_length c
  · decide
  · intro w
    rfl
  · exact submits_afterRequest c
  · exact afterRequest_placedFirst c
  · exact hbuf

/-- The request in the first descriptor yields what the command asks for, read by the documented
layout, exactly when the bytes of its CDB are all zero. -/
theorem request_decodes_iff (c : ScsiCmd) (w : World kMaxQueues (Synth Unit)) (buf : List UInt8)
    (hbuf : firstBuffer (submitScsiCmd c) w = some buf) :
    decodeCmdReq buf = cmdReqOf c ↔ ZeroCdb c.cdb := by
  rw [firstBuffer_submitScsiCmd c w hbuf]
  exact decodeCmdReq_scsiReq c

/-- A world with queue 2 set up. -/
def readyWorld : World kMaxQueues (Synth Unit) :=
  runFromReset target [.common (.vqSetup 2 8)]
    ⟨fun _ _ => 8, [], threadBState target, []⟩

theorem request_decodes_testUnitReady :
    ∃ buf,
      firstBuffer (submitScsiCmd ⟨2, 0, 1, 7, 0, 0, 0, .testUnitReady⟩) readyWorld = some buf ∧
        (decodeCmdReq buf = cmdReqOf ⟨2, 0, 1, 7, 0, 0, 0, .testUnitReady⟩ ↔
          ZeroCdb .testUnitReady) :=
  ⟨scsiReq ⟨2, 0, 1, 7, 0, 0, 0, .testUnitReady⟩, by decide,
    request_decodes_iff ⟨2, 0, 1, 7, 0, 0, 0, .testUnitReady⟩ readyWorld _ (by decide)⟩

/-- The opcode of an INQUIRY is read as the second byte of the CDB. -/
theorem inquiry_decodes_shifted :
    ¬∀ (c : ScsiCmd) (w : World kMaxQueues (Synth Unit)) (buf : List UInt8),
      firstBuffer (submitScsiCmd c) w = some buf → decodeCmdReq buf = cmdReqOf c := by
  intro h
  have hdecode := h ⟨2, 0, 1, 7, 0, 0, 0, .inquiry ⟨false, 0, 36⟩⟩ readyWorld
    (scsiReq ⟨2, 0, 1, 7, 0, 0, 0, .inquiry ⟨false, 0, 36⟩⟩) (by decide)
  exact absurd hdecode (by decide)

end VirtioCrash.Scsi
