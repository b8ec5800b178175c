import VirtioCrash.Fs.RequestFormat

/-!
# The argument structs of the FUSE requests

The fixed part of a request against the struct of the ABI that its opcode stands for. That of a
SETATTR lacks its last word.
-/

namespace VirtioCrash.Fs

open StateProgram Bytes Decoder

/-- The widths of the fields in the argument struct of an opcode. -/
def abiLayout : Nat → Option (List Nat)
  -- major, minor, max_readahead, flags
  | 26 => some [4, 4, 4, 4]
  -- getattr_flags, dummy, fh
  | 3 => some [4, 4, 8]
  -- valid, padding, fh, size, lock_owner, atime, mtime, ctime, atimensec, mtimensec, ctimensec,
  -- mode, unused, uid, gid, unused
  | 4 => some [4, 4, 8, 8, 8, 8, 8, 8, 4, 4, 4, 4, 4, 4, 4, 4]
  -- flags, open_flags
  | 14 => some [4, 4]
  -- fh, offset, size, read_flags or write_flags, lock_owner, flags, padding
  | 15 => some [8, 8, 4, 4, 8, 4, 4]
  | 16 => some [8, 8, 4, 4, 8, 4, 4]
  -- fh, flags, release_flags, lock_owner
  | 18 => some [8, 4, 4, 8]
  -- fh, unused, padding, lock_owner
  | 25 => some [8, 4, 4, 8]
  -- mode, umask
  | 9 => some [4, 4]
  -- size, padding; size, flags for SETXATTR
  | 22 => some [4, 4]
  | 21 => some [4, 4]
  | 23 => some [4, 4]
  -- fh, flags, cmd, arg, in_size, out_size
  | 39 => some [8, 4, 4, 8, 4, 4]
  -- a name only
  | 1 => some []
  | 10 => some []
  | 11 => some []
  | 24 => some []
  | _ => none

/-- The values of these fields for a message: 0 where it has no field. -/
def abiFields : FuseOp → List Nat
  | .kInit m => [m.major.toNat, m.minor.toNat, m.maxReadahead.toNat, m.flags.toNat]
  | .kGetattr m => [m.getattrFlags.toNat, 0, m.fh.toNat]
  | .kSetattr m => [m.valid.toNat, 0, m.fh.toNat, m.size.toNat, m.lockOwner.toNat, m.atime.toNat,
      m.mtime.toNat, m.ctime.toNat, 0, 0, 0, m.mode.toNat, 0, m.uid.toNat, m.gid.toNat, 0]
  | .kOpen m => [m.flags.toNat, m.openFlags.toNat]
  | .kRead m => [m.fh.toNat, m.offset.toNat, m.size.toNat, m.readFlags.toNat, m.lockOwner.toNat,
      m.flags.toNat, 0]
  | .kWrite m => [m.fh.toNat, m.offset.toNat, m.size.toNat, m.writeFlags.toNat, m.lockOwner.toNat,
      m.flags.toNat, 0]
  | .kRelease m => [m.fh.toNat, m.flags.toNat, m.releaseFlags.toNat, m.lockOwner.toNat]
  | .kMkdir m => [m.mode.toNat, m.umask.toNat]
  | .kFlush m => [m.fh.toNat, m.unused.toNat, m.padding.toNat, m.lockOwner.toNat]
  | .kGetxattr m => [m.size.toNat, 0]
  | .kSetxattr m => [min m.value.length 4096, m.flags.toNat]
  | .kListxattr m => [m.size.toNat, 0]
  | .kIoctl m => [m.fh.toNat, m.flags.toNat, m.cmd.toNat, m.arg.toNat, m.inSize.toNat,
      m.outSize.toNat]
  | _ => []

/-- The arguments are the struct of the opcode with the fields of the message, then the tail. -/
def MatchesAbi (op : FuseOp) (args : List UInt8) : Prop :=
  ∃ layout, abiLayout (opcodeOf op) = some layout ∧
    (fields layout).run args = some (abiFields op, tailBytes op)

section MatchesAbi

variable {op : FuseOp}

private theorem abiLayout_eq (hraw : ∀ m, op ≠ .kRaw m) (hset : op ≠ .opNotSet)
    (hop : ∀ m, op ≠ .kSetattr m) :
    abiLayout (opcodeOf op) = some ((fixedPart op).map List.length) := by
  cases op with
  | kRaw m => exact absurd rfl (hraw m)
  | opNotSet => exact absurd rfl hset
  | kSetattr m => exact absurd rfl (hop m)
  | _ => rfl

private theorem abiFields_eq (hraw : ∀ m, op ≠ .kRaw m) (hset : op ≠ .opNotSet)
    (hop : ∀ m, op ≠ .kSetattr m) : abiFields op = (fixedPart op).map ofLe := by
  cases op with
  | kRaw m => exact absurd rfl (hraw m)
  | opNotSet => exact absurd rfl hset
  | kSetattr m => exact absurd rfl (hop m)
  | kSetxattr m =>
      have hsize : (UInt32.ofNat (min m.value.length 4096)).toNat = min m.value.length 4096 := by
        rw [UInt32.toNat_ofNat', Nat.mod_eq_of_lt (by omega)]
      simp only [abiFields, fixedPart, List.map_cons, List.map_nil, ofLe_le32, hsize]
  | _ => simp [abiFields, fixedPart]

private theorem matchesAbi_packOp (hraw : ∀ m, op ≠ .kRaw m) (hset : op ≠ .opNotSet)
    (hop : ∀ m, op ≠ .kSetattr m) : MatchesAbi op (packOp op).bytes := by
  refine ⟨_, abiLayout_eq hraw hset hop, ?_⟩
  rw [packOp_bytes, abiFields_eq hraw hset hop]
  exact Decodes.fields (fixedPart op) (tailBytes op)

private theorem not_matchesAbi_setattr (m : FuseSetattr) :
    ¬MatchesAbi (.kSetattr m) (packOp (.kSetattr m)).bytes := by
  rintro ⟨layout, hlayout, hrun⟩
  cases hlayout
  obtain ⟨k, hk, hsum⟩ := Uses.fields _ _ _ _ hrun
  have hlen : (packOp (.kSetattr m)).bytes.length = 84 := by
    simp [packOp, packSetattr]
  rw [hlen] at hk
  simp at hsum
  omega

end MatchesAbi

/-- What is sent for a typed message matches the ABI exactly when it is not a SETATTR. -/
theorem request_abi_iff (r : FuseRequest) (hraw : ∀ m, r.op ≠ .kRaw m) (hset : r.op ≠ .opNotSet)
    {ops : List VirtioOp} {w : World kMaxQueues (Synth Unit)} (hw : Reached target ops w)
    (hsent : sent (submitFuse r) w ≠ []) :
    ∃ out resp, sent (submitFuse r) w = [out, resp] ∧
      (MatchesAbi r.op (out.bytes.drop 40) ↔ ∀ m, r.op ≠ .kSetattr m) := by
  obtain ⟨len, resp, -, hchain⟩ := sent_submitFuse r hw hsent
  refine ⟨_, resp, hchain, ?_⟩
  rw [fuseOut_drop]
  constructor
  · intro hmatch m hop
    rw [hop] at hmatch
    exact not_matchesAbi_setattr m hmatch
  · intro hop
    exact matchesAbi_packOp hraw hset hop

theorem request_abi_getattr :
    ∃ out resp, sent (submitFuse (requestOf (.kGetattr ⟨1, 3⟩))) readyWorld = [out, resp] ∧
      MatchesAbi (.kGetattr ⟨1, 3⟩) (out.bytes.drop 40) := by
  obtain ⟨out, resp, hchain, hiff⟩ :=
    request_abi_iff (requestOf (.kGetattr ⟨1, 3⟩)) nofun nofun reached_readyWorld
      (by decide +kernel)
  exact ⟨out, resp, hchain, hiff.mpr nofun⟩

/-- The struct of a SETATTR is one word short. -/
theorem request_abi_setattr :
    ¬∀ (r : FuseRequest) (ops : List VirtioOp) (w : World kMaxQueues (Synth Unit)),
      (∀ m, r.op ≠ .kRaw m) → r.op ≠ .opNotSet → Reached target ops w →
        sent (submitFuse r) w ≠ [] →
          ∃ out resp, sent (submitFuse r) w = [out, resp] ∧
            MatchesAbi r.op (out.bytes.drop 40) := by
  intro hall
  let r := requestOf (.kSetattr ⟨8, 1, 4096, 0, 0, 0, 0, 0o644, 0, 0⟩)
  have hsent : sent (submitFuse r) readyWorld ≠ [] := by decide +kernel
  obtain ⟨out, resp, hchain, hmatch⟩ := hall r _ _ nofun nofun reached_readyWorld hsent
  obtain ⟨len, resp', -, hchain'⟩ := sent_submitFuse r reached_readyWorld hsent
  rw [hchain] at hchain'
  rw [(List.cons.inj hchain').1, fuseOut_drop] at hmatch
  exact not_matchesAbi_setattr _ hmatch

end VirtioCrash.Fs
