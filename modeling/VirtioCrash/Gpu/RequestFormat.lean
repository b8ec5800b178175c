import VirtioCrash.Gpu.Submission
import VirtioCrash.Lib.Decoder
import VirtioCrash.Lib.Tiling

/-!
# The wire format of the gpu commands

A command is a 24-byte header and the body of its type, read field by field in the order of the
comments above the `op_` functions. Every request the harness builds reads as its message, with the
number and the size of the backing entries clamped.
-/

namespace VirtioCrash.Gpu

open StateProgram Bytes Decoder BumpAllocator

/-- `virtio_gpu_ctrl_hdr`. -/
structure CtrlHdr where
  type : Nat
  flags : Nat
  fenceId : Nat
  ctxId : Nat
  padding : Nat
  deriving DecidableEq

/-- `virtio_gpu_rect`. -/
structure Rect where
  x : Nat
  y : Nat
  width : Nat
  height : Nat
  deriving DecidableEq

/-- An entry of a backing. -/
structure MemEntry where
  addr : Nat
  length : Nat
  padding : Nat
  deriving DecidableEq

/-- `virtio_gpu_update_cursor` behind its header, for both cursor commands. -/
structure Cursor where
  scanoutId : Nat
  x : Nat
  y : Nat
  posPadding : Nat
  resourceId : Nat
  hotX : Nat
  hotY : Nat
  padding : Nat
  deriving DecidableEq

/-- What follows the header of a command. -/
inductive CmdBody where
  | getDisplayInfo
  | resourceCreate2D (resourceId format width height : Nat)
  | resourceUnref (resourceId padding : Nat)
  | setScanout (r : Rect) (scanoutId resourceId : Nat)
  | resourceFlush (r : Rect) (resourceId padding : Nat)
  | transferToHost2D (r : Rect) (offset resourceId padding : Nat)
  | resourceAttachBacking (resourceId : Nat) (entries : List MemEntry)
  | resourceDetachBacking (resourceId padding : Nat)
  | getEdid (scanoutId padding : Nat)
  | resourceCreateBlob (resourceId blobMem blobFlags blobId size : Nat) (entries : List MemEntry)
  | updateCursor (c : Cursor)
  | moveCursor (c : Cursor)
  deriving DecidableEq

def decodeHdr : Decoder CtrlHdr := do
  let type ← le 4
  let flags ← le 4
  let fenceId ← le 8
  let ctxId ← le 4
  let padding ← le 4
  return { type, flags, fenceId, ctxId, padding }

def decodeRect : Decoder Rect := do
  let x ← le 4
  let y ← le 4
  let width ← le 4
  let height ← le 4
  return { x, y, width, height }

def decodeMemEntry : Decoder MemEntry := do
  let addr ← le 8
  let length ← le 4
  let padding ← le 4
  return { addr, length, padding }

def decodeCursor : Decoder Cursor := do
  let scanoutId ← le 4
  let x ← le 4
  let y ← le 4
  let posPadding ← le 4
  let resourceId ← le 4
  let hotX ← le 4
  let hotY ← le 4
  let padding ← le 4
  return { scanoutId, x, y, posPadding, resourceId, hotX, hotY, padding }

/-- One word and padding. -/
def decodePadded : Decoder (Nat × Nat) := do
  let v ← le 4
  let padding ← le 4
  return (v, padding)

def decodeCreate2D : Decoder CmdBody := do
  let resourceId ← le 4
  let format ← le 4
  let width ← le 4
  let height ← le 4
  return .resourceCreate2D resourceId format width height

def decodeSetScanout : Decoder CmdBody := do
  let r ← decodeRect
  let scanoutId ← le 4
  let resourceId ← le 4
  return .setScanout r scanoutId resourceId

def decodeFlush : Decoder CmdBody := do
  let r ← decodeRect
  let (resourceId, padding) ← decodePadded
  return .resourceFlush r resourceId padding

def decodeTransfer : Decoder CmdBody := do
  let r ← decodeRect
  let offset ← le 8
  let (resourceId, padding) ← decodePadded
  return .transferToHost2D r offset resourceId padding

def decodeAttachBacking : Decoder CmdBody := do
  let resourceId ← le 4
  let nrEntries ← le 4
  let entries ← decodeMemEntry.many nrEntries
  return .resourceAttachBacking resourceId entries

def decodeCreateBlob : Decoder CmdBody := do
  let resourceId ← le 4
  let blobMem ← le 4
  let blobFlags ← le 4
  let nrEntries ← le 4
  let blobId ← le 8
  let size ← le 8
  let entries ← decodeMemEntry.many nrEntries
  return .resourceCreateBlob resourceId blobMem blobFlags blobId size entries

/-- The body of a command, by its type word. -/
def decodeBody : Nat → Decoder CmdBody
  | 0x0100 => pure .getDisplayInfo
  | 0x0101 => decodeCreate2D
  | 0x0102 => decodePadded >>= fun p => pure (.resourceUnref p.1 p.2)
  | 0x0103 => decodeSetScanout
  | 0x0104 => decodeFlush
  | 0x0105 => decodeTransfer
  | 0x0106 => decodeAttachBacking
  | 0x0107 => decodePadded >>= fun p => pure (.resourceDetachBacking p.1 p.2)
  | 0x010a => decodePadded >>= fun p => pure (.getEdid p.1 p.2)
  | 0x010b => decodeCreateBlob
  | 0x0300 => decodeCursor >>= fun c => pure (.updateCursor c)
  | 0x0301 => decodeCursor >>= fun c => pure (.moveCursor c)
  | _ => failure

def decodeCmd : Decoder (CtrlHdr × CmdBody) := do
  let hdr ← decodeHdr
  let body ← decodeBody hdr.type
  return (hdr, body)

/-- What a request denotes, if nothing of it is left over. -/
def decodeRequest (req : List UInt8) : Option (CtrlHdr × CmdBody) := decodeCmd.whole req

/-- The header of a command of this type: a set fence decorates it. -/
def hdrOf (g : GpuDevice) (type : Nat) : CtrlHdr :=
  if g.fenceEnabled then ⟨type, 1, g.fenceId.toNat, g.fenceCtxId.toNat, 0⟩ else ⟨type, 0, 0, 0, 0⟩

def rectOf (r : GpuRect) : Rect := ⟨r.x.toNat, r.y.toNat, r.width.toNat, r.height.toNat⟩

/-- `std::clamp<uint32_t>(v, lo, hi)` over the integers. -/
def clamped (v : UInt32) (lo hi : Nat) : Nat := max lo (min v.toNat hi)

/-- `nr` entries of `esz` bytes, one after another from `gpa`. -/
def entriesAt (gpa nr esz : Nat) : List MemEntry :=
  (blocks gpa esz nr).map fun r => ⟨r.start, r.len, 0⟩

/-- The type and the body of the command an op should send, for a resource id and a backing. -/
def cmdOf (rid gpa : Nat) : VirtioOp → Option (UInt32 × CmdBody)
  | .gpuCreate2D m => some (cmdResourceCreate2D,
      .resourceCreate2D rid m.format.toNat m.width.toNat m.height.toNat)
  | .gpuResourceUnref _ => some (cmdResourceUnref, .resourceUnref rid 0)
  | .gpuAttachBacking m => some (cmdResourceAttachBacking, .resourceAttachBacking rid
      (entriesAt gpa (clamped m.numEntries 1 16) (clamped m.entrySize 1 4096)))
  | .gpuDetachBacking _ => some (cmdResourceDetachBacking, .resourceDetachBacking rid 0)
  | .gpuTransferToHost _ rect offset => some (cmdTransferToHost2D,
      .transferToHost2D (rectOf rect) offset.toNat rid 0)
  | .gpuResourceFlush _ rect => some (cmdResourceFlush, .resourceFlush (rectOf rect) rid 0)
  | .gpuSetScanout scanoutId _ rect => some (cmdSetScanout,
      .setScanout (rectOf rect) scanoutId.toNat rid)
  | .gpuGetDisplayInfo => some (cmdGetDisplayInfo, .getDisplayInfo)
  | .gpuGetEdid scanoutId => some (cmdGetEdid, .getEdid scanoutId.toNat 0)
  | .gpuUpdateCursor m => some (cmdUpdateCursor, .updateCursor
      ⟨m.scanoutId.toNat, m.x.toNat, m.y.toNat, 0, rid, m.hotX.toNat, m.hotY.toNat, 0⟩)
  | .gpuMoveCursor m => some (cmdMoveCursor, .moveCursor
      ⟨m.scanoutId.toNat, m.x.toNat, m.y.toNat, 0, rid, 0, 0, 0⟩)
  | .gpuCreateBlob m => some (cmdResourceCreateBlob, .resourceCreateBlob rid m.blobMem.toNat
      m.blobFlags.toNat m.blobId.toNat m.size.toNat
      (entriesAt gpa (clamped m.numEntries 1 16) (clamped m.entrySize 16 4096)))
  | .common _ | .gpuSetFenceState _ | .hostHotplugScanout _ => none

/-- The resource slot whose id an op sends. -/
def namedSlot : VirtioOp → Option (Fin kResourceSlots)
  | .gpuResourceUnref slotIdx | .gpuDetachBacking slotIdx | .gpuTransferToHost slotIdx _ _
  | .gpuResourceFlush slotIdx _ | .gpuSetScanout _ slotIdx _ => some (resourceSlot slotIdx)
  | .gpuAttachBacking m => some (resourceSlot m.resourceSlot)
  | .gpuUpdateCursor m => some (resourceSlot m.resourceSlot)
  | _ => none

/-- The op draws a new resource id. -/
def creates : VirtioOp → Bool
  | .gpuCreate2D _ | .gpuCreateBlob _ => true
  | _ => false

/-- The resource id that the request of an op carries. -/
def ridOf (g : GpuDevice) (op : VirtioOp) : UInt32 :=
  if creates op then g.nextResourceId
  else match namedSlot op with
    | some slot => g.rid slot
    | none => 0

theorem clamp_toNat {v lo hi : UInt32} (h : lo ≤ hi) :
    (clamp v lo hi).toNat = clamped v lo.toNat hi.toNat := by
  have hle := UInt32.le_iff_toNat_le.mp h
  rw [clamp, clamped]
  simp only [UInt32.lt_iff_toNat_lt]
  split
  · omega
  · split
    · omega
    · omega

theorem clamped_bounds (v : UInt32) {lo hi : Nat} (h : lo ≤ hi) :
    lo ≤ clamped v lo hi ∧ clamped v lo hi ≤ hi := by
  rw [clamped]
  omega

theorem clamp_le_sixteen (v : UInt32) : (clamp v 1 16).toNat ≤ 16 := by
  rw [clamp_toNat (by decide)]
  exact (clamped_bounds v (by decide)).2

theorem clamp_le_page (v : UInt32) {lo : UInt32} (h : lo ≤ 4096) :
    (clamp v lo 4096).toNat ≤ 4096 := by
  rw [clamp_toNat h]
  exact (clamped_bounds v (UInt32.le_iff_toNat_le.mp h)).2

theorem backing_le {nr esz : Nat} (hnr : nr ≤ 16) (hesz : esz ≤ 4096) : nr * esz ≤ 65536 :=
  Nat.mul_le_mul hnr hesz

theorem backing_toNat {nr esz : UInt32} (hnr : nr.toNat ≤ 16) (hesz : esz.toNat ≤ 4096) :
    (nr * esz).toNat = nr.toNat * esz.toNat := by
  have hle := backing_le hnr hesz
  rw [UInt32.toNat_mul, Nat.mod_eq_of_lt (by omega)]

private theorem decodes_packCtrlHdr (g : GpuDevice) (type : UInt32) :
    Decodes decodeHdr (packCtrlHdr g type) (hdrOf g type.toNat) := by
  simp only [packCtrlHdr, List.append_assoc, hdrOf]
  cases g.fenceEnabled with
  | true =>
      apply (Decodes.le32 type).bind
      apply (Decodes.le32 flagFence).bind
      apply (Decodes.le64 g.fenceId).bind
      apply (Decodes.le32 g.fenceCtxId).bind
      exact (Decodes.le32 0).map _
  | false =>
      apply (Decodes.le32 type).bind
      apply (Decodes.le32 0).bind
      apply (Decodes.le64 0).bind
      apply (Decodes.le32 0).bind
      exact (Decodes.le32 0).map _

theorem hdrOf_type (g : GpuDevice) (type : Nat) : (hdrOf g type).type = type := by
  rw [hdrOf]
  split
  · rfl
  · rfl

private theorem decodeRequest_eq (g : GpuDevice) (type : UInt32) {bs : List UInt8} {body : CmdBody}
    (h : Decodes (decodeBody type.toNat) bs body) :
    decodeRequest (packCtrlHdr g type ++ bs) = some (hdrOf g type.toNat, body) := by
  have hbody : Decodes (decodeBody (hdrOf g type.toNat).type) bs body := by
    rwa [hdrOf_type]
  apply Decodes.whole
  exact (decodes_packCtrlHdr g type).bind (hbody.map fun body => (hdrOf g type.toNat, body))

private theorem decodes_packRect (r : GpuRect) : Decodes decodeRect (packRect r) (rectOf r) := by
  simp only [packRect, List.append_assoc]
  apply (Decodes.le32 r.x).bind
  apply (Decodes.le32 r.y).bind
  apply (Decodes.le32 r.width).bind
  exact (Decodes.le32 r.height).map _

private theorem decodes_padded (v padding : UInt32) :
    Decodes decodePadded (le32 v ++ le32 padding) (v.toNat, padding.toNat) :=
  (Decodes.le32 v).bind ((Decodes.le32 padding).map (v.toNat, ·))

private theorem decodes_cursor (scanoutId x y posPadding rid hotX hotY padding : UInt32) :
    Decodes decodeCursor
      (le32 scanoutId ++ le32 x ++ le32 y ++ le32 posPadding ++ le32 rid ++ le32 hotX ++
        le32 hotY ++ le32 padding)
      ⟨scanoutId.toNat, x.toNat, y.toNat, posPadding.toNat, rid.toNat, hotX.toNat, hotY.toNat,
        padding.toNat⟩ := by
  simp only [List.append_assoc]
  apply (Decodes.le32 scanoutId).bind
  apply (Decodes.le32 x).bind
  apply (Decodes.le32 y).bind
  apply (Decodes.le32 posPadding).bind
  apply (Decodes.le32 rid).bind
  apply (Decodes.le32 hotX).bind
  apply (Decodes.le32 hotY).bind
  exact (Decodes.le32 padding).map _

private theorem entry_addr {gpa : UInt64} {nr esz : UInt32} (hnr : nr.toNat ≤ 16)
    (hesz : esz.toNat ≤ 4096) (hgpa : gpa.toNat + 65536 ≤ 2 ^ 64) {i : Nat} (hi : i < nr.toNat) :
    (gpa + (UInt32.ofNat i * esz).toUInt64).toNat = gpa.toNat + i * esz.toNat := by
  have hle : i * esz.toNat ≤ 15 * 4096 := Nat.mul_le_mul (by omega) hesz
  have hnat : (UInt32.ofNat i).toNat = i := by
    rw [UInt32.toNat_ofNat', Nat.mod_eq_of_lt (by omega)]
  rw [UInt64.toNat_add, UInt32.toNat_toUInt64, UInt32.toNat_mul, hnat,
    Nat.mod_eq_of_lt (show i * esz.toNat < 2 ^ 32 by omega), Nat.mod_eq_of_lt (by omega)]

theorem sgEntries_length (gpa : UInt64) (nr esz : UInt32) :
    (sgEntries gpa nr esz).length = 16 * nr.toNat := by
  rw [sgEntries, List.length_flatMap]
  simp [Nat.mul_comm]

private theorem decodes_sgEntries (gpa : UInt64) {nr esz : UInt32} (hnr : nr.toNat ≤ 16)
    (hesz : esz.toNat ≤ 4096) (hgpa : gpa.toNat + 65536 ≤ 2 ^ 64) :
    Decodes (decodeMemEntry.many nr.toNat) (sgEntries gpa nr esz)
      (entriesAt gpa.toNat nr.toNat esz.toNat) := by
  have hentry : ∀ i ∈ List.range nr.toNat, Decodes decodeMemEntry
      (le64 (gpa + (UInt32.ofNat i * esz).toUInt64) ++ le32 esz ++ le32 0)
      ⟨gpa.toNat + i * esz.toNat, esz.toNat, 0⟩ := by
    intro i hi
    have haddr := Decodes.le64 (gpa + (UInt32.ofNat i * esz).toUInt64)
    rw [entry_addr hnr hesz hgpa (List.mem_range.mp hi)] at haddr
    rw [List.append_assoc]
    apply haddr.bind
    apply (Decodes.le32 esz).bind
    exact (Decodes.le32 0).map _
  have hmany := Decodes.many hentry
  rw [List.length_range] at hmany
  rw [entriesAt, blocks, List.map_map]
  exact hmany

private theorem decodes_clampedEntries (gpa : UInt64) (nr esz : UInt32) {lo : UInt32}
    (hlo : lo ≤ 4096) (hgpa : gpa.toNat + 65536 ≤ 2 ^ 64) :
    Decodes (decodeMemEntry.many (clamp nr 1 16).toNat)
      (sgEntries gpa (clamp nr 1 16) (clamp esz lo 4096))
      (entriesAt gpa.toNat (clamped nr 1 16) (clamped esz lo.toNat 4096)) := by
  have hnr : (clamp nr 1 16).toNat = clamped nr 1 16 := clamp_toNat (by decide)
  have hesz : (clamp esz lo 4096).toNat = clamped esz lo.toNat 4096 := clamp_toNat hlo
  have hentries := decodes_sgEntries gpa (clamp_le_sixteen nr) (clamp_le_page esz hlo) hgpa
  rw [hesz] at hentries
  rw [← hnr]
  exact hentries

section Requests

variable (g : GpuDevice) {gpa : UInt64}

theorem decode_attachBackingReq (rid : UInt32) (m : GpuResourceAttachBacking)
    (hgpa : gpa.toNat + 65536 ≤ 2 ^ 64) :
    decodeRequest
        (attachBackingReq g rid (clamp m.numEntries 1 16) (clamp m.entrySize 1 4096) gpa) =
      some (hdrOf g cmdResourceAttachBacking.toNat, .resourceAttachBacking rid.toNat
        (entriesAt gpa.toNat (clamped m.numEntries 1 16) (clamped m.entrySize 1 4096))) := by
  have hentries := decodes_clampedEntries gpa m.numEntries m.entrySize
    (show 1 ≤ 4096 by decide) hgpa
  apply decodeRequest_eq
  change Decodes decodeAttachBacking _ _
  rw [List.append_assoc]
  apply (Decodes.le32 rid).bind
  apply (Decodes.le32 _).bind
  exact hentries.map _

private theorem decode_createBlobReq (rid : UInt32) (m : GpuResourceCreateBlob)
    (hgpa : gpa.toNat + 65536 ≤ 2 ^ 64) :
    decodeRequest
        (createBlobReq g rid (clamp m.numEntries 1 16) (clamp m.entrySize 16 4096) gpa m) =
      some (hdrOf g cmdResourceCreateBlob.toNat, .resourceCreateBlob rid.toNat m.blobMem.toNat
        m.blobFlags.toNat m.blobId.toNat m.size.toNat
        (entriesAt gpa.toNat (clamped m.numEntries 1 16) (clamped m.entrySize 16 4096))) := by
  have hentries := decodes_clampedEntries gpa m.numEntries m.entrySize
    (show 16 ≤ 4096 by decide) hgpa
  apply decodeRequest_eq
  change Decodes decodeCreateBlob _ _
  simp only [List.append_assoc]
  apply (Decodes.le32 rid).bind
  apply (Decodes.le32 m.blobMem).bind
  apply (Decodes.le32 m.blobFlags).bind
  apply (Decodes.le32 _).bind
  apply (Decodes.le64 m.blobId).bind
  apply (Decodes.le64 m.size).bind
  exact hentries.map _

/-- Every request an op builds reads as its message, behind the header of its type. -/
theorem decode_requestOf {op : VirtioOp} (hgpa : gpa.toNat + 65536 ≤ 2 ^ 64)
    {vq : Fin kMaxQueues} {req : List UInt8} {respLen : UInt32}
    (hreq : requestOf g gpa op = some (vq, req, respLen)) :
    ∃ type body, cmdOf (ridOf g op).toNat gpa.toNat op = some (type, body) ∧
      decodeRequest req = some (hdrOf g type.toNat, body) := by
  cases op with
  | common op => cases hreq
  | gpuCreate2D m =>
      cases hreq
      refine ⟨_, _, rfl, decodeRequest_eq g _ ?_⟩
      change Decodes decodeCreate2D _ _
      simp only [List.append_assoc]
      apply (Decodes.le32 _).bind
      apply (Decodes.le32 m.format).bind
      apply (Decodes.le32 m.width).bind
      exact (Decodes.le32 m.height).map _
  | gpuResourceUnref slotIdx =>
      cases hreq
      exact ⟨_, _, rfl, decodeRequest_eq g _ ((decodes_padded _ 0).map _)⟩
  | gpuAttachBacking m =>
      cases hreq
      exact ⟨_, _, rfl, decode_attachBackingReq g _ m hgpa⟩
  | gpuDetachBacking slotIdx =>
      cases hreq
      exact ⟨_, _, rfl, decodeRequest_eq g _ ((decodes_padded _ 0).map _)⟩
  | gpuTransferToHost slotIdx rect offset =>
      cases hreq
      refine ⟨_, _, rfl, decodeRequest_eq g _ ?_⟩
      change Decodes decodeTransfer _ _
      simp only [List.append_assoc]
      apply (decodes_packRect rect).bind
      apply (Decodes.le64 offset).bind
      exact (decodes_padded _ 0).map _
  | gpuResourceFlush slotIdx rect =>
      cases hreq
      refine ⟨_, _, rfl, decodeRequest_eq g _ ?_⟩
      change Decodes decodeFlush _ _
      rw [List.append_assoc]
      apply (decodes_packRect rect).bind
      exact (decodes_padded _ 0).map _
  | gpuSetScanout scanoutId slotIdx rect =>
      cases hreq
      refine ⟨_, _, rfl, decodeRequest_eq g _ ?_⟩
      change Decodes decodeSetScanout _ _
      rw [List.append_assoc]
      apply (decodes_packRect rect).bind
      apply (Decodes.le32 scanoutId).bind
      exact (Decodes.le32 _).map _
  | gpuGetDisplayInfo =>
      cases hreq
      have h := decodeRequest_eq g cmdGetDisplayInfo (Decodes.pure CmdBody.getDisplayInfo)
      rw [List.append_nil] at h
      exact ⟨_, _, rfl, h⟩
  | gpuGetEdid scanoutId =>
      cases hreq
      exact ⟨_, _, rfl, decodeRequest_eq g _ ((decodes_padded scanoutId 0).map _)⟩
  | gpuUpdateCursor m =>
      cases hreq
      exact ⟨_, _, rfl, decodeRequest_eq g _ ((decodes_cursor _ _ _ 0 _ _ _ 0).map _)⟩
  | gpuMoveCursor m =>
      cases hreq
      exact ⟨_, _, rfl, decodeRequest_eq g _ ((decodes_cursor _ _ _ 0 0 0 0 0).map _)⟩
  | gpuSetFenceState m => cases hreq
  | gpuCreateBlob m =>
      cases hreq
      exact ⟨_, _, rfl, decode_createBlobReq g _ m hgpa⟩
  | hostHotplugScanout m => cases hreq

end Requests

end VirtioCrash.Gpu
