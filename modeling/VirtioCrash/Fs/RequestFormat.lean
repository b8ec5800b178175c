import VirtioCrash.Fs.Harness
import VirtioCrash.Harness.Buffers
import VirtioCrash.Harness.Reached
import VirtioCrash.Lib.Decoder

/-!
# The wire format of the FUSE requests

A request is an `in` header, the fixed part of its opcode and the name or the data that follows it.
The header is written last, when the length of the rest is known.
-/

namespace VirtioCrash.Fs

open StateProgram Bytes Decoder

/-- A `fuse_in_header`. -/
structure InHeader where
  len : Nat
  opcode : Nat
  unique : Nat
  nodeid : Nat
  uid : Nat
  gid : Nat
  pid : Nat
  padding : Nat
  deriving DecidableEq

def decodeInHeader : Decoder InHeader := do
  let len ← le 4
  let opcode ← le 4
  let unique ← le 8
  let nodeid ← le 8
  let uid ← le 4
  let gid ← le 4
  let pid ← le 4
  let padding ← le 4
  return { len, opcode, unique, nodeid, uid, gid, pid, padding }

/-- The opcode of a request. -/
def opcodeOf : FuseOp → Nat
  | .kLookup _ => 1
  | .kGetattr _ => 3
  | .kSetattr _ => 4
  | .kMkdir _ => 9
  | .kUnlink _ => 10
  | .kRmdir _ => 11
  | .kOpen _ => 14
  | .kRead _ => 15
  | .kWrite _ => 16
  | .kRelease _ => 18
  | .kSetxattr _ => 21
  | .kGetxattr _ => 22
  | .kListxattr _ => 23
  | .kRemovexattr _ => 24
  | .kFlush _ => 25
  | .kInit _ => 26
  | .kIoctl _ => 39
  | .kRaw m => m.opcode.toNat
  | .opNotSet => 26

/-- The header a request of `len` bytes should have. -/
def inHeaderOf (r : FuseRequest) (len : Nat) : InHeader where
  len := len
  opcode := opcodeOf r.op
  unique := r.unique.toNat
  nodeid := r.nodeid.toNat
  uid := r.uid.toNat
  gid := r.gid.toNat
  pid := r.pid.toNat
  padding := 0

/-- No more than 256 bytes of a name, terminated. -/
def cName (name : List UInt8) : List UInt8 :=
  let n := name.take 256
  if n.getLast? = some 0 then n else n ++ [0]

/-- The same without the terminator. -/
def bareName (name : List UInt8) : List UInt8 :=
  let n := name.take 256
  if n.getLast? = some 0 then n.dropLast else n

/-- The name or the data of a request, and where in its arguments it starts. -/
def tailOf : FuseOp → Option (Nat × List UInt8)
  | .kLookup m => some (0, cName m.name)
  | .kMkdir m => some (8, cName m.name)
  | .kUnlink m => some (0, cName m.name)
  | .kRmdir m => some (0, cName m.name)
  | .kGetxattr m => some (8, cName m.name)
  | .kSetxattr m => some (8, cName m.name ++ m.value.take 4096)
  | .kRemovexattr m => some (0, cName m.name)
  | .kWrite m => some (40, m.data.take 4096)
  | .kIoctl m => some (32, m.inData.take 4096)
  | .kRaw m => some (0, m.payload.take 4096)
  | _ => none

/-- A byte string split at its first NUL. -/
def splitNul : List UInt8 → Option (List UInt8 × List UInt8)
  | [] => none
  | b :: bs => if b = 0 then some ([], bs) else (splitNul bs).map fun p => (b :: p.1, p.2)

private theorem nameTail_eq (name : List UInt8) : nameTail name = cName name := by
  have hlast : (name.take 256).getLast? = name[min name.length 256 - 1]? := by
    rw [List.getLast?_eq_getElem?, List.length_take, Nat.min_comm, List.getElem?_take,
      if_pos (by omega)]
  have htake : name.take (min name.length 256) = name.take 256 := by
    rw [Nat.min_comm, ← List.take_eq_take_min]
  have hempty : min name.length 256 = 0 → name[min name.length 256 - 1]? ≠ some 0 := by
    intro h
    have hnil : name = [] := List.length_eq_zero_iff.mp (by omega)
    simp [hnil]
  simp only [nameTail, cName, hlast, htake]
  by_cases hnul : name[min name.length 256 - 1]? = some 0
  · rw [if_pos hnul, if_neg, List.append_nil]
    rintro (h | h)
    · exact hempty h hnul
    · exact h hnul
  · rw [if_neg hnul, if_pos (Or.inr hnul)]

private theorem splitNul_of_free {name : List UInt8} (h : 0 ∉ name) (rest : List UInt8) :
    splitNul (name ++ 0 :: rest) = some (name, rest) := by
  induction name with
  | nil => rfl
  | cons b name ih =>
      have hb : b ≠ 0 := fun he => h (he ▸ List.mem_cons_self)
      rw [List.cons_append, splitNul, if_neg hb, ih fun hmem => h (List.mem_cons_of_mem b hmem)]
      rfl

private theorem cName_eq (name : List UInt8) : cName name = bareName name ++ [0] := by
  simp only [cName, bareName]
  split
  · rename_i hnul
    exact (List.dropLast_append_getLast? 0 hnul).symm
  · rfl

private theorem bareName_free {name : List UInt8} (h : 0 ∉ (name.take 256).dropLast) :
    0 ∉ bareName name := by
  simp only [bareName]
  split
  · exact h
  · rename_i hlast
    intro hmem
    have hne : name.take 256 ≠ [] := List.ne_nil_of_mem hmem
    rw [← List.dropLast_concat_getLast hne] at hmem
    rcases List.mem_append.mp hmem with hinit | hend
    · exact h hinit
    · apply hlast
      rw [List.getLast?_eq_some_getLast hne, ← List.mem_singleton.mp hend]

private theorem cName_length_le (name : List UInt8) : (cName name).length ≤ 257 := by
  simp only [cName]
  split
  · rw [List.length_take]
    omega
  · rw [List.length_append, List.length_take, List.length_singleton]
    omega

private theorem dataTail_eq (data : List UInt8) : dataTail data = data.take 4096 := by
  rw [dataTail, Nat.min_comm, ← List.take_eq_take_min]

/-- The words a request has between its header and its tail. -/
def fixedPart : FuseOp → List (List UInt8)
  | .kInit m => [le32 m.major, le32 m.minor, le32 m.maxReadahead, le32 m.flags]
  | .kGetattr m => [le32 m.getattrFlags, le32 0, le64 m.fh]
  | .kSetattr m => [le32 m.valid, le32 0, le64 m.fh, le64 m.size, le64 m.lockOwner, le64 m.atime,
      le64 m.mtime, le64 m.ctime, le32 0, le32 0, le32 0, le32 m.mode, le32 0, le32 m.uid,
      le32 m.gid]
  | .kOpen m => [le32 m.flags, le32 m.openFlags]
  | .kRead m => [le64 m.fh, le64 m.offset, le32 m.size, le32 m.readFlags, le64 m.lockOwner,
      le32 m.flags, le32 0]
  | .kWrite m => [le64 m.fh, le64 m.offset, le32 m.size, le32 m.writeFlags, le64 m.lockOwner,
      le32 m.flags, le32 0]
  | .kRelease m => [le64 m.fh, le32 m.flags, le32 m.releaseFlags, le64 m.lockOwner]
  | .kMkdir m => [le32 m.mode, le32 m.umask]
  | .kFlush m => [le64 m.fh, le32 m.unused, le32 m.padding, le64 m.lockOwner]
  | .kGetxattr m => [le32 m.size, le32 0]
  | .kSetxattr m => [le32 (UInt32.ofNat (min m.value.length 4096)), le32 m.flags]
  | .kListxattr m => [le32 m.size, le32 0]
  | .kIoctl m => [le64 m.fh, le32 m.flags, le32 m.cmd, le64 m.arg, le32 m.inSize, le32 m.outSize]
  | .opNotSet => [le32 7, le32 38, le32 0, le32 0]
  | _ => []

/-- The tail of a request, empty where it has none. -/
def tailBytes (op : FuseOp) : List UInt8 := ((tailOf op).map Prod.snd).getD []

private theorem valueTail (value : List UInt8) :
    value.take (UInt32.ofNat (min value.length 4096)).toNat = value.take 4096 := by
  rw [UInt32.toNat_ofNat', Nat.mod_eq_of_lt (by omega), Nat.min_comm, ← List.take_eq_take_min]

theorem packOp_bytes (op : FuseOp) :
    (packOp op).bytes = (fixedPart op).flatten ++ tailBytes op := by
  cases op with
  | kSetxattr m =>
      simp only [packOp, packSetxattr, valueTail]
      simp [fixedPart, tailBytes, tailOf, nameTail_eq]
  | _ =>
      simp [packOp, packInit, packLookup, packGetattr, packSetattr, packOpen, packRead, packWrite,
        packRelease, packMkdir, packUnlink, packRmdir, packFlush, packGetxattr, packListxattr,
        packRemovexattr, packIoctl, packRaw, packDefault, packName, fixedPart, tailBytes, tailOf,
        nameTail_eq, dataTail_eq]

private theorem packOp_opcode (op : FuseOp) : (packOp op).opcode.toNat = opcodeOf op := by
  cases op with
  | _ => rfl

private theorem tailOf_eq {op : FuseOp} {off : Nat} {tail : List UInt8}
    (h : tailOf op = some (off, tail)) :
    (fixedPart op).flatten.length = off ∧ tailBytes op = tail := by
  constructor
  · cases op with
    | _ =>
        cases h
        try simp [fixedPart]
  · rw [tailBytes, h]
    rfl

private theorem tailBytes_length_le (op : FuseOp) : (tailBytes op).length ≤ 4353 := by
  have hname := fun name => (cName_length_le name).trans (by decide : 257 ≤ 4353)
  have hdata (data : List UInt8) : (data.take 4096).length ≤ 4353 := by
    rw [List.length_take]
    omega
  cases op with
  | kLookup m => exact hname m.name
  | kMkdir m => exact hname m.name
  | kUnlink m => exact hname m.name
  | kRmdir m => exact hname m.name
  | kGetxattr m => exact hname m.name
  | kRemovexattr m => exact hname m.name
  | kWrite m => exact hdata m.data
  | kIoctl m => exact hdata m.inData
  | kRaw m => exact hdata m.payload
  | kSetxattr m =>
      have hlen := cName_length_le m.name
      change (cName m.name ++ m.value.take 4096).length ≤ 4353
      rw [List.length_append, List.length_take]
      omega
  | _ => exact Nat.zero_le _

private theorem fixedPart_length_le (op : FuseOp) : (fixedPart op).flatten.length ≤ 84 := by
  cases op with
  | _ => simp [fixedPart]

theorem buildInHeader_length (opcode : UInt32) (unique nodeid : UInt64)
    (uid gid pid totalLen : UInt32) :
    (buildInHeader opcode unique nodeid uid gid pid totalLen).length = 40 := by
  simp [buildInHeader]

private theorem fuseOut_eq (r : FuseRequest) :
    fuseOut r = buildInHeader (packOp r.op).opcode r.unique r.nodeid r.uid r.gid r.pid
      (UInt32.ofNat (fuseOut r).length) ++ (packOp r.op).bytes := by
  have hzeros : (List.replicate 40 (0 : UInt8)).length = 40 := List.length_replicate
  have hdrop : (List.replicate 40 0 ++ (packOp r.op).bytes).drop 40 = (packOp r.op).bytes :=
    List.drop_left' hzeros
  have hlen : (fuseOut r).length = (List.replicate 40 0 ++ (packOp r.op).bytes).length := by
    rw [fuseOut, hdrop, List.length_append, List.length_append, buildInHeader_length, hzeros]
  rw [hlen, fuseOut, hdrop]

theorem fuseOut_drop (r : FuseRequest) : (fuseOut r).drop 40 = (packOp r.op).bytes := by
  rw [fuseOut_eq]
  exact List.drop_left' (buildInHeader_length ..)

theorem fuseOut_length_toNat (r : FuseRequest) :
    (UInt32.ofNat (fuseOut r).length).toNat = (fuseOut r).length := by
  have hfixed := fixedPart_length_le r.op
  have htail := tailBytes_length_le r.op
  have hlen : (fuseOut r).length = 40 + (packOp r.op).bytes.length := by
    rw [fuseOut_eq, List.length_append, buildInHeader_length]
  rw [packOp_bytes, List.length_append] at hlen
  rw [UInt32.toNat_ofNat', Nat.mod_eq_of_lt (by omega)]

private theorem decodes_inHeader (r : FuseRequest) :
    Decodes decodeInHeader
      (buildInHeader (packOp r.op).opcode r.unique r.nodeid r.uid r.gid r.pid
        (UInt32.ofNat (fuseOut r).length))
      (inHeaderOf r (fuseOut r).length) := by
  have hlen := Decodes.le32 (UInt32.ofNat (fuseOut r).length)
  have hopcode := Decodes.le32 (packOp r.op).opcode
  rw [fuseOut_length_toNat] at hlen
  rw [packOp_opcode] at hopcode
  simp only [buildInHeader, List.append_assoc]
  apply hlen.bind
  apply hopcode.bind
  apply (Decodes.le64 r.unique).bind
  apply (Decodes.le64 r.nodeid).bind
  apply (Decodes.le32 r.uid).bind
  apply (Decodes.le32 r.gid).bind
  apply (Decodes.le32 r.pid).bind
  exact (Decodes.le32 0).map _

private theorem decode_fuseOut (r : FuseRequest) :
    decodeInHeader.run (fuseOut r) =
      some (inHeaderOf r (fuseOut r).length, (packOp r.op).bytes) := by
  have h := decodes_inHeader r (packOp r.op).bytes
  rwa [← fuseOut_eq] at h

private theorem sends_submitFuse (r : FuseRequest) (w : World kMaxQueues (Synth Unit)) :
    Sends 3 (requestVq r.vqIdx) [UInt32.ofNat (fuseOut r).length,
        UInt32.ofNat (List.replicate (inLen r.inBufSize).toNat (0 : UInt8)).length]
      [.ofBytes (fuseOut r) (UInt32.ofNat (fuseOut r).length) false,
        .ofBytes (List.replicate (inLen r.inBufSize).toNat 0)
          (UInt32.ofNat (List.replicate (inLen r.inBufSize).toNat (0 : UInt8)).length) true] w
      ((submitFuse r).run w).2 := by
  rw [submitFuse]
  apply sends_guarded
  intro _
  exact delivers_reqResp _ _ _ _ _ w

theorem sent_submitFuse (r : FuseRequest) {ops : List VirtioOp}
    {w : World kMaxQueues (Synth Unit)} (hw : Reached target ops w)
    (hsent : sent (submitFuse r) w ≠ []) :
    ∃ len resp, len.toNat = (fuseOut r).length ∧
      sent (submitFuse r) w = [⟨requestVq r.vqIdx, fuseOut r, len, false, true⟩, resp] := by
  have hlen := fuseOut_length_toNat r
  have hroom := (hw.poolInv confined (by decide)).le_end
  have hchain := ((sends_submitFuse r w).shipped hroom).resolve_left hsent
  rw [Load.ofBytes_self (by rw [hlen])] at hchain
  exact ⟨_, _, hlen, hchain⟩

/-- What is sent for a request: the documented header with the length of the buffer, which is also
that of the descriptor, and behind it the arguments, with the tail at their end. The arguments of a
SETXATTR split at the first NUL into the name and the value they announce. -/
theorem request_envelope (r : FuseRequest) {ops : List VirtioOp}
    {w : World kMaxQueues (Synth Unit)} (hw : Reached target ops w)
    (hsent : sent (submitFuse r) w ≠ []) :
    ∃ out resp args, sent (submitFuse r) w = [out, resp] ∧
      out.len.toNat = out.bytes.length ∧
      decodeInHeader.run out.bytes = some (inHeaderOf r out.bytes.length, args) ∧
      (∀ off tail, tailOf r.op = some (off, tail) →
        off ≤ args.length ∧ args.drop off = tail) ∧
      (∀ m, r.op = .kSetxattr m → 0 ∉ (m.name.take 256).dropLast →
        splitNul (args.drop 8) = some (bareName m.name, m.value.take 4096) ∧
          ofLe (args.take 4) = (m.value.take 4096).length) := by
  obtain ⟨len, resp, hlen, hchain⟩ := sent_submitFuse r hw hsent
  have htail : ∀ off tail, tailOf r.op = some (off, tail) →
      off ≤ (packOp r.op).bytes.length ∧ (packOp r.op).bytes.drop off = tail := by
    intro off tail h
    obtain ⟨hoff, htail⟩ := tailOf_eq h
    rw [packOp_bytes, htail]
    constructor
    · rw [List.length_append]
      omega
    · exact List.drop_left' hoff
  refine ⟨_, resp, (packOp r.op).bytes, hchain, hlen, decode_fuseOut r, htail, ?_⟩
  intro m hop hfree
  constructor
  · have hdrop := (htail 8 _ (by rw [hop]; rfl)).2
    rw [hdrop, cName_eq, List.append_assoc]
    exact splitNul_of_free (bareName_free hfree) _
  · have hsize : (packOp r.op).bytes.take 4 =
        le32 (UInt32.ofNat (min m.value.length 4096)) := by
      rw [hop, packOp, packSetxattr, List.append_assoc, List.append_assoc]
      exact List.take_left' (le32_length _)
    rw [hsize, ofLe_le32, UInt32.toNat_ofNat', Nat.mod_eq_of_lt (by omega), List.length_take,
      Nat.min_comm]

/-- A machine whose first request queue is set up. -/
def readyWorld : World kMaxQueues (Synth Unit) :=
  runFromReset target [.common (.vqSetup 2 8)]
    ⟨fun _ _ => 8, [], threadBState target, []⟩

theorem reached_readyWorld : Reached target [VirtioOp.common (.vqSetup 2 8)] readyWorld :=
  reached_runFromReset [VirtioOp.common (.vqSetup 2 8)] _

def requestOf (op : FuseOp) : FuseRequest where
  vqIdx := 0
  unique := 7
  nodeid := 1
  uid := 1000
  gid := 1000
  pid := 42
  inBufSize := 0
  op := op

/-- A SETXATTR whose name is terminated already. -/
theorem request_envelope_setxattr :
    ∃ out resp, ∃ args : List UInt8,
      sent (submitFuse (requestOf (.kSetxattr ⟨1, [97, 98, 0], [5, 6]⟩))) readyWorld =
        [out, resp] ∧
      splitNul (args.drop 8) = some ([97, 98], [5, 6]) ∧ ofLe (args.take 4) = 2 := by
  obtain ⟨out, resp, args, hchain, -, -, -, hsplit⟩ :=
    request_envelope (requestOf (.kSetxattr ⟨1, [97, 98, 0], [5, 6]⟩)) reached_readyWorld
      (by decide +kernel)
  exact ⟨out, resp, args, hchain, hsplit _ rfl (by decide)⟩

end VirtioCrash.Fs
