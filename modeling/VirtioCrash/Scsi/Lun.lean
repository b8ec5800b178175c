import VirtioCrash.Scsi.Harness

/-!
# The LUN encoding

`encode_lun` spreads a LUN over two bytes: its low six bits go behind the format tag, its high byte
into the byte after it. The flat-space rule reads the two bytes as one big-endian number, so the
parts come back the other way round and bits 6 and 7 are lost.
-/

namespace VirtioCrash.Scsi

open Bytes

/-- Target and LUN by the SAM flat-space rule: byte 1, and the low 14 bits of bytes 2 and 3. -/
def decodeLun (lun8 : List UInt8) : Nat × Nat :=
  ((lun8.getD 1 0).toNat, ((lun8.getD 2 0).toNat <<< 8 ||| (lun8.getD 3 0).toNat) &&& 0x3fff)

private theorem lunTag_toNat (lun : UInt32) :
    ((0x40 : UInt8) ||| (lun &&& 0x3f).toUInt8).toNat = 64 + lun.toNat % 64 := by
  have hlow : (lun &&& 0x3f).toUInt8.toNat = lun.toNat % 64 := by
    rw [UInt32.toNat_toUInt8, and_mask_toNat lun 0x3f 6 rfl]
    omega
  have hlt : lun.toNat % 64 < 2 ^ 6 := Nat.mod_lt _ (by decide)
  have hor := Nat.two_pow_add_eq_or_of_lt hlt 1
  rw [UInt8.toNat_or, hlow]
  exact hor.symm

private theorem lunHigh_toNat (lun : UInt32) (hlun : lun.toNat < 16384) :
    (lun >>> 8).toUInt8.toNat = lun.toNat / 256 := by
  rw [toUInt8_shiftRight_toNat lun 8 (by decide)]
  simp only [UInt32.reduceToNat]
  omega

private theorem decodeLun_encodeLun (target lun : UInt32) (htarget : target.toNat < 256)
    (hlun : lun.toNat < 16384) :
    decodeLun (encodeLun target lun) =
      (target.toNat, lun.toNat % 64 * 256 + lun.toNat / 256) := by
  have hbyte : target.toUInt8.toNat = target.toNat := by
    rw [UInt32.toNat_toUInt8, Nat.mod_eq_of_lt htarget]
  have hhigh : lun.toNat / 256 < 2 ^ 8 := by omega
  have hmask : 0x3fff = 2 ^ 14 - 1 := rfl
  change (target.toUInt8.toNat, _) = _
  rw [hbyte]
  congr 1
  change (((0x40 : UInt8) ||| (lun &&& 0x3f).toUInt8).toNat <<< 8 ||| (lun >>> 8).toUInt8.toNat) &&&
    0x3fff = _
  rw [lunTag_toNat, lunHigh_toNat lun hlun, ← Nat.shiftLeft_add_eq_or_of_lt hhigh, hmask,
    Nat.and_two_pow_sub_one_eq_mod, Nat.shiftLeft_eq]
  omega

/-- Two LUNs have one encoding when they differ in bits 6 and 7 only. -/
private theorem encodeLun_eq_iff {target target' lun lun' : UInt32} (htarget : target.toNat < 256)
    (htarget' : target'.toNat < 256) (hlun : lun.toNat < 16384) (hlun' : lun'.toNat < 16384) :
    encodeLun target lun = encodeLun target' lun' ↔
      target = target' ∧ lun.toNat % 64 = lun'.toNat % 64 ∧ lun.toNat / 256 = lun'.toNat / 256 := by
  simp only [encodeLun, List.cons.injEq, and_true, true_and]
  rw [← UInt8.toNat_inj, ← UInt8.toNat_inj, ← UInt8.toNat_inj, lunTag_toNat, lunTag_toNat,
    lunHigh_toNat lun hlun, lunHigh_toNat lun' hlun', UInt32.toNat_toUInt8, UInt32.toNat_toUInt8,
    Nat.mod_eq_of_lt htarget, Nat.mod_eq_of_lt htarget', UInt32.toNat_inj,
    Nat.add_left_cancel_iff]

/-- A LUN comes back exactly when its two bytes are equal, and two of them are told apart exactly
when they differ in more than bits 6 and 7. -/
theorem lun_roundTrip_iff (target lun : UInt32) (htarget : target.toNat < 256)
    (hlun : lun.toNat < 16384) :
    (decodeLun (encodeLun target lun) = (target.toNat, lun.toNat) ↔
      lun.toNat % 256 = lun.toNat / 256) ∧
    ∀ target' lun' : UInt32, target'.toNat < 256 → lun'.toNat < 16384 →
      (encodeLun target lun ≠ encodeLun target' lun' ↔
        target ≠ target' ∨ lun.toNat % 64 ≠ lun'.toNat % 64 ∨
          lun.toNat / 256 ≠ lun'.toNat / 256) := by
  constructor
  · rw [decodeLun_encodeLun target lun htarget hlun, Prod.mk.injEq]
    omega
  · intro target' lun' htarget' hlun'
    rw [ne_eq, encodeLun_eq_iff htarget htarget' hlun hlun']
    tauto

theorem lun_roundTrip_257 :
    decodeLun (encodeLun 3 257) = (3, 257) ∧ encodeLun 3 257 ≠ encodeLun 3 258 := by
  have h := lun_roundTrip_iff 3 257 (by decide) (by decide)
  exact ⟨h.1.mpr (by decide), (h.2 3 258 (by decide) (by decide)).mpr (by decide)⟩

/-- LUN 1 reads as LUN 256, and LUN 64 has the encoding of LUN 0. -/
theorem lun_one_misread :
    ¬((∀ target lun : UInt32, target.toNat < 256 → lun.toNat < 16384 →
        decodeLun (encodeLun target lun) = (target.toNat, lun.toNat)) ∧
      ∀ target lun target' lun' : UInt32, target.toNat < 256 → lun.toNat < 16384 →
        target'.toNat < 256 → lun'.toNat < 16384 →
          encodeLun target lun = encodeLun target' lun' → target = target' ∧ lun = lun') := by
  rintro ⟨hround, -⟩
  exact absurd (hround 0 1 (by decide) (by decide)) (by decide)

end VirtioCrash.Scsi
