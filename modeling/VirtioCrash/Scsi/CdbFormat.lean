import VirtioCrash.Scsi.RequestFormat

/-!
# The CDB formats

A reference decoder for the fourteen typed CDBs: the opcode in byte 0 (with the service action for
0x9e), big-endian fields and flag bits at the offsets of that opcode, and the bits of the CDB that
each opcode has a meaning for. The packed CDBs decode to the fields of their message.
-/

namespace VirtioCrash.Scsi

open Bytes

/-- A decoded CDB: its kind and its fields, each as wide as it is on the wire. -/
inductive CdbFields where
  | inquiry (evpd : Bool) (pageCode allocLen : Nat)
  | testUnitReady
  | readCapacity10 (lba : Nat) (pmi : Bool)
  | readCapacity16 (lba allocLen : Nat) (pmi : Bool)
  | read10 (dpo fua : Bool) (lba transferLen group : Nat)
  | write10 (dpo fua : Bool) (lba transferLen group : Nat)
  | read16 (dpo fua : Bool) (lba transferLen group : Nat)
  | write16 (dpo fua : Bool) (lba transferLen group : Nat)
  | modeSense6 (dbd : Bool) (pc pageCode subpage allocLen : Nat)
  | modeSelect6 (pf sp : Bool) (paramLen : Nat)
  | requestSense (desc : Bool) (allocLen : Nat)
  | reportLuns (selectReport allocLen : Nat)
  | startStopUnit (immed : Bool) (power : Nat) (loej start : Bool)
  | syncCache10 (immed : Bool) (lba numBlocks : Nat)
  deriving DecidableEq

def byteAt (cdb : List UInt8) (off : Nat) : Nat := (cdb.getD off 0).toNat

def bitAt (cdb : List UInt8) (off i : Nat) : Bool := (byteAt cdb off).testBit i

/-- `width` bits of a byte from bit `lo` on. -/
def bitsAt (cdb : List UInt8) (off lo width : Nat) : Nat := byteAt cdb off / 2 ^ lo % 2 ^ width

/-- The big-endian number in `k` bytes. -/
def beAt (cdb : List UInt8) (off k : Nat) : Nat := ofBe (slice cdb off k)

def decodeCdb (cdb : List UInt8) : Option CdbFields :=
  match cdb.getD 0 0 with
  | 0x12 => some (.inquiry (bitAt cdb 1 0) (byteAt cdb 2) (beAt cdb 3 2))
  | 0x00 => some .testUnitReady
  | 0x25 => some (.readCapacity10 (beAt cdb 2 4) (bitAt cdb 8 0))
  | 0x9e =>
      if bitsAt cdb 1 0 5 = 0x10 then
        some (.readCapacity16 (beAt cdb 2 8) (beAt cdb 10 4) (bitAt cdb 14 0))
      else none
  | 0x28 =>
      some (.read10 (bitAt cdb 1 4) (bitAt cdb 1 3) (beAt cdb 2 4) (beAt cdb 7 2)
        (bitsAt cdb 6 0 5))
  | 0x2a =>
      some (.write10 (bitAt cdb 1 4) (bitAt cdb 1 3) (beAt cdb 2 4) (beAt cdb 7 2)
        (bitsAt cdb 6 0 5))
  | 0x88 =>
      some (.read16 (bitAt cdb 1 4) (bitAt cdb 1 3) (beAt cdb 2 8) (beAt cdb 10 4)
        (bitsAt cdb 14 0 5))
  | 0x8a =>
      some (.write16 (bitAt cdb 1 4) (bitAt cdb 1 3) (beAt cdb 2 8) (beAt cdb 10 4)
        (bitsAt cdb 14 0 5))
  | 0x1a =>
      some (.modeSense6 (bitAt cdb 1 3) (bitsAt cdb 2 6 2) (bitsAt cdb 2 0 6) (byteAt cdb 3)
        (byteAt cdb 4))
  | 0x15 => some (.modeSelect6 (bitAt cdb 1 4) (bitAt cdb 1 0) (byteAt cdb 4))
  | 0x03 => some (.requestSense (bitAt cdb 1 0) (byteAt cdb 4))
  | 0xa0 => some (.reportLuns (byteAt cdb 2) (beAt cdb 6 4))
  | 0x1b =>
      some (.startStopUnit (bitAt cdb 1 0) (bitsAt cdb 4 4 4) (bitAt cdb 4 1) (bitAt cdb 4 0))
  | 0x35 => some (.syncCache10 (bitAt cdb 1 1) (beAt cdb 2 4) (beAt cdb 7 2))
  | _ => none

/-- The bits of the CDB that its kind gives a meaning to, byte by byte; the bytes behind them have
none. -/
def CdbFields.usageMap : CdbFields → List UInt8
  | .inquiry .. => [0xff, 0x01, 0xff, 0xff, 0xff]
  | .testUnitReady => [0xff]
  | .readCapacity10 .. => [0xff, 0, 0xff, 0xff, 0xff, 0xff, 0, 0, 0x01]
  | .readCapacity16 .. =>
      [0xff, 0x1f, 0xff, 0xff, 0xff, 0xff, 0xff, 0xff, 0xff, 0xff, 0xff, 0xff, 0xff, 0xff, 0x01]
  | .read10 .. | .write10 .. => [0xff, 0x18, 0xff, 0xff, 0xff, 0xff, 0x1f, 0xff, 0xff]
  | .read16 .. | .write16 .. =>
      [0xff, 0x18, 0xff, 0xff, 0xff, 0xff, 0xff, 0xff, 0xff, 0xff, 0xff, 0xff, 0xff, 0xff, 0x1f]
  | .modeSense6 .. => [0xff, 0x08, 0xff, 0xff, 0xff]
  | .modeSelect6 .. => [0xff, 0x11, 0, 0, 0xff]
  | .requestSense .. => [0xff, 0x01, 0, 0, 0xff]
  | .reportLuns .. => [0xff, 0, 0xff, 0, 0, 0, 0xff, 0xff, 0xff, 0xff]
  | .startStopUnit .. => [0xff, 0x01, 0, 0, 0xf3]
  | .syncCache10 .. => [0xff, 0x02, 0xff, 0xff, 0xff, 0xff, 0, 0xff, 0xff]

/-- All bits that the map does not name are zero. -/
def ZeroOutside : List UInt8 → List UInt8 → Prop
  | [], cdb => ∀ b ∈ cdb, b = 0
  | mask :: map, b :: cdb => b &&& ~~~mask = 0 ∧ ZeroOutside map cdb
  | _ :: _, [] => False

/-- The fields of a message as its CDB should carry them; the raw and the missing CDB have none. -/
def wireFields : Cdb → Option CdbFields
  | .inquiry m => some (.inquiry m.evpd (m.pageCode.toNat % 256) (m.allocLen.toNat % 65536))
  | .testUnitReady => some .testUnitReady
  | .readCapacity10 m => some (.readCapacity10 m.lba.toNat m.pmi)
  | .readCapacity16 m => some (.readCapacity16 m.lba.toNat m.allocLen.toNat m.pmi)
  | .read10 m =>
      some (.read10 m.dpo m.fua m.lba.toNat (m.transferLen.toNat % 65536) (m.group.toNat % 32))
  | .write10 m _ =>
      some (.write10 m.dpo m.fua m.lba.toNat (m.transferLen.toNat % 65536) (m.group.toNat % 32))
  | .read16 m => some (.read16 m.dpo m.fua m.lba.toNat m.transferLen.toNat (m.group.toNat % 32))
  | .write16 m _ => some (.write16 m.dpo m.fua m.lba.toNat m.transferLen.toNat (m.group.toNat % 32))
  | .modeSense6 m =>
      some (.modeSense6 m.dbd (m.pc.toNat % 4) (m.pageCode.toNat % 64) (m.subpage.toNat % 256)
        (m.allocLen.toNat % 256))
  | .modeSelect6 m => some (.modeSelect6 m.pf m.sp (m.paramLen.toNat % 256))
  | .requestSense m => some (.requestSense m.desc (m.allocLen.toNat % 256))
  | .reportLuns m => some (.reportLuns (m.selectReport.toNat % 256) m.allocLen.toNat)
  | .startStopUnit m => some (.startStopUnit m.immed (m.power.toNat % 16) m.loej m.start)
  | .syncCache10 m => some (.syncCache10 m.immed m.lba.toNat (m.numBlocks.toNat % 65536))
  | .raw _ => none
  | .cdbNotSet => none

private theorem ofBe_packBe16 (v : UInt32) : ofBe (packBe16 v.toUInt16) = v.toNat % 65536 := by
  have hhigh : (v.toUInt16 >>> 8).toUInt8.toNat = v.toNat % 65536 / 256 := by
    rw [UInt16.toNat_toUInt8, UInt16.toNat_shiftRight, UInt32.toNat_toUInt16,
      Nat.shiftRight_eq_div_pow]
    change v.toNat % 2 ^ 16 / 2 ^ 8 % 2 ^ 8 = _
    omega
  have hlow : v.toUInt16.toUInt8.toNat = v.toNat % 65536 % 256 := by
    rw [UInt16.toNat_toUInt8, UInt32.toNat_toUInt16]
  change v.toUInt16.toUInt8.toNat + 256 * ((v.toUInt16 >>> 8).toUInt8.toNat + 256 * 0) = _
  rw [hhigh, hlow]
  omega

private theorem ofBe_packBe32 (v : UInt32) : ofBe (packBe32 v) = v.toNat := by
  have hv := v.toNat_lt
  have h24 := toUInt8_shiftRight_toNat v 24 (by decide)
  have h16 := toUInt8_shiftRight_toNat v 16 (by decide)
  have h8 := toUInt8_shiftRight_toNat v 8 (by decide)
  change v.toUInt8.toNat + 256 * ((v >>> 8).toUInt8.toNat + 256 * ((v >>> 16).toUInt8.toNat +
    256 * ((v >>> 24).toUInt8.toNat + 256 * 0))) = _
  rw [h24, h16, h8, UInt32.toNat_toUInt8]
  simp only [UInt32.reduceToNat]
  omega

private theorem ofBe_packBe64 (v : UInt64) : ofBe (packBe64 v) = v.toNat := by
  have hv := v.toNat_lt
  rw [packBe64, ofBe_append, ofBe_packBe32, ofBe_packBe32, UInt64.toNat_toUInt32,
    UInt64.toNat_toUInt32, UInt64.toNat_shiftRight]
  simp only [UInt64.reduceToNat, Nat.shiftRight_eq_div_pow]
  change v.toNat % 2 ^ 32 + 256 ^ 4 * (v.toNat / 2 ^ 32 % 2 ^ 32) = _
  omega

private theorem pageByte_toNat (pc pageCode : UInt32) :
    (((pc &&& 0x3) <<< 6) ||| (pageCode &&& 0x3f)).toUInt8.toNat =
      pc.toNat % 4 * 64 + pageCode.toNat % 64 := by
  have hpc := and_mask_toNat pc 0x3 2 rfl
  have hpage := and_mask_toNat pageCode 0x3f 6 rfl
  have hlt : pageCode.toNat % 2 ^ 6 < 2 ^ 6 := Nat.mod_lt _ (by decide)
  rw [UInt32.toNat_toUInt8, UInt32.toNat_or, UInt32.toNat_shiftLeft, hpc, hpage]
  have hsmall : (pc.toNat % 2 ^ 2) <<< 6 < 2 ^ 32 := by
    rw [Nat.shiftLeft_eq]
    omega
  have hor := Nat.shiftLeft_add_eq_or_of_lt hlt (pc.toNat % 2 ^ 2)
  change ((pc.toNat % 2 ^ 2) <<< 6 % 2 ^ 32 ||| pageCode.toNat % 2 ^ 6) % 2 ^ 8 = _
  rw [Nat.mod_eq_of_lt hsmall, ← hor, Nat.shiftLeft_eq]
  omega

private theorem groupByte_toNat (group : UInt32) :
    (group &&& 0x1f).toUInt8.toNat = group.toNat % 32 := by
  rw [UInt32.toNat_toUInt8, and_mask_toNat group 0x1f 5 rfl]
  omega

private theorem powerHalf_toNat (power : UInt32) :
    ((power &&& 0xf) <<< 4).toUInt8.toNat = (power.toNat % 16) <<< 4 := by
  rw [UInt32.toNat_toUInt8, UInt32.toNat_shiftLeft, and_mask_toNat power 0xf 4 rfl]
  change (power.toNat % 2 ^ 4) <<< 4 % 2 ^ 32 % 2 ^ 8 = _
  rw [Nat.shiftLeft_eq, Nat.shiftLeft_eq]
  omega

private theorem powerByte_toNat (power : UInt32) (loej start : Bool) :
    (((power &&& 0xf) <<< 4).toUInt8 ||| flag loej 0x02 ||| flag start 0x01).toNat =
      power.toNat % 16 * 16 + (if loej then 2 else 0) + if start then 1 else 0 := by
  have hor (low : Nat) (hlow : low < 2 ^ 4) :
      (power.toNat % 16) <<< 4 ||| low = power.toNat % 16 * 16 + low := by
    rw [← Nat.shiftLeft_add_eq_or_of_lt hlow, Nat.shiftLeft_eq]
  rw [UInt8.toNat_or, UInt8.toNat_or, powerHalf_toNat, Nat.or_assoc]
  cases loej <;> cases start
  · exact hor 0 (by decide)
  · exact hor 1 (by decide)
  · exact hor 2 (by decide)
  · exact hor 3 (by decide)

private theorem testBit_flag (b : Bool) : (flag b 1).toNat.testBit 0 = b := by
  cases b <;> rfl

private theorem testBit_dpoFua (dpo fua : Bool) :
    (flag dpo 0x10 ||| flag fua 0x08).toNat.testBit 4 = dpo ∧
      (flag dpo 0x10 ||| flag fua 0x08).toNat.testBit 3 = fua := by
  cases dpo <;> cases fua <;> decide

theorem rw10_fields (opcode : UInt8) (m : CdbRead10) (pad : List UInt8) :
    let cdb := rw10Bytes opcode m ++ pad
    bitAt cdb 1 4 = m.dpo ∧ bitAt cdb 1 3 = m.fua ∧ beAt cdb 2 4 = m.lba.toNat ∧
      beAt cdb 7 2 = m.transferLen.toNat % 65536 ∧ bitsAt cdb 6 0 5 = m.group.toNat % 32 := by
  obtain ⟨hdpo, hfua⟩ := testBit_dpoFua m.dpo m.fua
  refine ⟨hdpo, hfua, ofBe_packBe32 m.lba, ofBe_packBe16 m.transferLen, ?_⟩
  change (m.group &&& 0x1f).toUInt8.toNat / 2 ^ 0 % 2 ^ 5 = _
  rw [groupByte_toNat]
  omega

theorem rw16_fields (opcode : UInt8) (m : CdbRead16) (pad : List UInt8) :
    let cdb := rw16Bytes opcode m ++ pad
    bitAt cdb 1 4 = m.dpo ∧ bitAt cdb 1 3 = m.fua ∧ beAt cdb 2 8 = m.lba.toNat ∧
      beAt cdb 10 4 = m.transferLen.toNat ∧ bitsAt cdb 14 0 5 = m.group.toNat % 32 := by
  obtain ⟨hdpo, hfua⟩ := testBit_dpoFua m.dpo m.fua
  refine ⟨hdpo, hfua, ofBe_packBe64 m.lba, ofBe_packBe32 m.transferLen, ?_⟩
  change (m.group &&& 0x1f).toUInt8.toNat / 2 ^ 0 % 2 ^ 5 = _
  rw [groupByte_toNat]
  omega

private theorem decodeCdb_cdbBytes (cdb : Cdb) {fields : CdbFields}
    (h : wireFields cdb = some fields) : decodeCdb (cdbBytes cdb) = some fields := by
  rw [← h]
  cases cdb with
  | inquiry m =>
      change some (CdbFields.inquiry ((flag m.evpd 1).toNat.testBit 0) m.pageCode.toUInt8.toNat
        (ofBe (packBe16 m.allocLen.toUInt16))) = _
      rw [testBit_flag, ofBe_packBe16, UInt32.toNat_toUInt8]
      rfl
  | testUnitReady => rfl
  | readCapacity10 m =>
      change some (CdbFields.readCapacity10 (ofBe (packBe32 m.lba))
        ((flag m.pmi 1).toNat.testBit 0)) = _
      rw [testBit_flag, ofBe_packBe32]
      rfl
  | readCapacity16 m =>
      have hbyte : byteAt (cdbBytes (.readCapacity16 m)) 1 = 0x10 := rfl
      have haction : bitsAt (cdbBytes (.readCapacity16 m)) 1 0 5 = 0x10 := by
        rw [bitsAt, hbyte]
        rfl
      change (if bitsAt (cdbBytes (.readCapacity16 m)) 1 0 5 = 0x10 then
        some (CdbFields.readCapacity16 (ofBe (packBe64 m.lba)) (ofBe (packBe32 m.allocLen))
          ((flag m.pmi 1).toNat.testBit 0)) else none) = _
      rw [if_pos haction, testBit_flag, ofBe_packBe64, ofBe_packBe32]
      rfl
  | read10 m =>
      obtain ⟨h1, h2, h3, h4, h5⟩ := rw10_fields 0x28 m (List.replicate 22 0)
      change some (CdbFields.read10 _ _ _ _ _) = some (CdbFields.read10 _ _ _ _ _)
      rw [← h1, ← h2, ← h3, ← h4, ← h5]
      rfl
  | write10 m data =>
      obtain ⟨h1, h2, h3, h4, h5⟩ := rw10_fields 0x2a m (List.replicate 22 0)
      change some (CdbFields.write10 _ _ _ _ _) = some (CdbFields.write10 _ _ _ _ _)
      rw [← h1, ← h2, ← h3, ← h4, ← h5]
      rfl
  | read16 m =>
      obtain ⟨h1, h2, h3, h4, h5⟩ := rw16_fields 0x88 m (List.replicate 16 0)
      change some (CdbFields.read16 _ _ _ _ _) = some (CdbFields.read16 _ _ _ _ _)
      rw [← h1, ← h2, ← h3, ← h4, ← h5]
      rfl
  | write16 m data =>
      obtain ⟨h1, h2, h3, h4, h5⟩ := rw16_fields 0x8a m (List.replicate 16 0)
      change some (CdbFields.write16 _ _ _ _ _) = some (CdbFields.write16 _ _ _ _ _)
      rw [← h1, ← h2, ← h3, ← h4, ← h5]
      rfl
  | modeSense6 m =>
      have hdbd : (flag m.dbd 0x08).toNat.testBit 3 = m.dbd := by cases m.dbd <;> decide
      have hpage := pageByte_toNat m.pc m.pageCode
      have hpc : (m.pc.toNat % 4 * 64 + m.pageCode.toNat % 64) / 2 ^ 6 % 2 ^ 2 =
          m.pc.toNat % 4 := by
        omega
      have hcode : (m.pc.toNat % 4 * 64 + m.pageCode.toNat % 64) / 2 ^ 0 % 2 ^ 6 =
          m.pageCode.toNat % 64 := by
        omega
      simp only [wireFields, decodeCdb, cdbBytes, packCdb, packModeSense6]
      change some (CdbFields.modeSense6 ((flag m.dbd 0x08).toNat.testBit 3)
        ((((m.pc &&& 0x3) <<< 6) ||| (m.pageCode &&& 0x3f)).toUInt8.toNat / 2 ^ 6 % 2 ^ 2)
        ((((m.pc &&& 0x3) <<< 6) ||| (m.pageCode &&& 0x3f)).toUInt8.toNat / 2 ^ 0 % 2 ^ 6)
        m.subpage.toUInt8.toNat m.allocLen.toUInt8.toNat) = _
      rw [hdbd, hpage, hpc, hcode, UInt32.toNat_toUInt8, UInt32.toNat_toUInt8]
  | modeSelect6 m =>
      have hbits : (flag m.pf 0x10 ||| flag m.sp 0x01).toNat.testBit 4 = m.pf ∧
          (flag m.pf 0x10 ||| flag m.sp 0x01).toNat.testBit 0 = m.sp := by
        cases m.pf <;> cases m.sp <;> decide
      change some (CdbFields.modeSelect6 ((flag m.pf 0x10 ||| flag m.sp 0x01).toNat.testBit 4)
        ((flag m.pf 0x10 ||| flag m.sp 0x01).toNat.testBit 0) m.paramLen.toUInt8.toNat) = _
      rw [hbits.1, hbits.2, UInt32.toNat_toUInt8]
      rfl
  | requestSense m =>
      change some (CdbFields.requestSense ((flag m.desc 1).toNat.testBit 0)
        m.allocLen.toUInt8.toNat) = _
      rw [testBit_flag, UInt32.toNat_toUInt8]
      rfl
  | reportLuns m =>
      change some (CdbFields.reportLuns m.selectReport.toUInt8.toNat
        (ofBe (packBe32 m.allocLen))) = _
      rw [ofBe_packBe32, UInt32.toNat_toUInt8]
      rfl
  | startStopUnit m =>
      have hpower := powerByte_toNat m.power m.loej m.start
      generalize hb : ((m.power &&& 0xf) <<< 4).toUInt8 ||| flag m.loej 0x02 |||
        flag m.start 0x01 = b at hpower
      have hbits : b.toNat / 2 ^ 4 % 2 ^ 4 = m.power.toNat % 16 ∧ b.toNat.testBit 1 = m.loej ∧
          b.toNat.testBit 0 = m.start := by
        rw [Nat.testBit_eq_decide_div_mod_eq, Nat.testBit_eq_decide_div_mod_eq, hpower]
        cases m.loej <;> cases m.start <;> simp <;> omega
      have hcdb : decodeCdb (cdbBytes (.startStopUnit m)) =
          some (CdbFields.startStopUnit ((flag m.immed 1).toNat.testBit 0)
            (b.toNat / 2 ^ 4 % 2 ^ 4) (b.toNat.testBit 1) (b.toNat.testBit 0)) := by
        rw [← hb]
        rfl
      rw [hcdb, testBit_flag, hbits.1, hbits.2.1, hbits.2.2]
      rfl
  | syncCache10 m =>
      have himmed : (flag m.immed 0x02).toNat.testBit 1 = m.immed := by cases m.immed <;> decide
      change some (CdbFields.syncCache10 ((flag m.immed 0x02).toNat.testBit 1)
        (ofBe (packBe32 m.lba)) (ofBe (packBe16 m.numBlocks.toUInt16))) = _
      rw [himmed, ofBe_packBe32, ofBe_packBe16]
      rfl
  | raw m => cases h
  | cdbNotSet => cases h

section ZeroOutside

private theorem and_not_ff (b : UInt8) : b &&& ~~~255 = 0 := UInt8.and_zero

private theorem flag_outside (b : Bool) (v mask : UInt8) (h : v &&& ~~~mask = 0) :
    flag b v &&& ~~~mask = 0 := by
  cases b
  · exact UInt8.zero_and
  · exact h

private theorem or_outside {x y mask : UInt8} (hx : x &&& ~~~mask = 0) (hy : y &&& ~~~mask = 0) :
    (x ||| y) &&& ~~~mask = 0 := by
  apply UInt8.toBitVec_inj.mp
  rw [UInt8.toBitVec_and, UInt8.toBitVec_or, BitVec.and_or_distrib_right, ← UInt8.toBitVec_and,
    ← UInt8.toBitVec_and, hx, hy]
  rfl

private theorem group_outside (group : UInt8) : group &&& 0x1f &&& ~~~0x1f = 0 := by
  rw [UInt8.and_assoc]
  exact UInt8.and_zero

private theorem dpoFua_outside (dpo fua : Bool) :
    (flag dpo 0x10 ||| flag fua 0x08) &&& ~~~0x18 = 0 :=
  or_outside (flag_outside dpo _ _ rfl) (flag_outside fua _ _ rfl)

private theorem power_outside (power : UInt32) :
    ((power &&& 0xf) <<< 4).toUInt8 &&& ~~~0xf3 = 0 := by
  -- the other bits are two of the low half, which the shift leaves empty
  have hlow : (power.toNat % 16) <<< 4 &&& (2 ^ 4 - 1) = 0 := by
    rw [Nat.and_two_pow_sub_one_eq_mod, Nat.shiftLeft_eq, Nat.mul_mod_left]
  apply UInt8.toNat_inj.mp
  rw [UInt8.toNat_and, powerHalf_toNat]
  change (power.toNat % 16) <<< 4 &&& ((2 ^ 4 - 1) &&& 12) = 0
  rw [← Nat.and_assoc, hlow, Nat.zero_and]

private theorem zeroOutside_cdbBytes (cdb : Cdb) {fields : CdbFields}
    (h : wireFields cdb = some fields) : ZeroOutside fields.usageMap (cdbBytes cdb) := by
  cases cdb with
  | inquiry m =>
      cases h
      have hevpd := flag_outside m.evpd 1 1 rfl
      simp [cdbBytes, packCdb, packInquiry, packBe16, ZeroOutside, CdbFields.usageMap, kCdbSize,
        and_not_ff, hevpd]
  | testUnitReady =>
      cases h
      simp [cdbBytes, packCdb, packTestUnitReady, ZeroOutside, CdbFields.usageMap, kCdbSize]
  | readCapacity10 m =>
      cases h
      have hpmi := flag_outside m.pmi 1 1 rfl
      simp [cdbBytes, packCdb, packReadCapacity10, packBe32, ZeroOutside, CdbFields.usageMap,
        kCdbSize, and_not_ff, hpmi]
  | readCapacity16 m =>
      cases h
      have haction : (0x10 : UInt8) &&& ~~~0x1f = 0 := rfl
      have hpmi := flag_outside m.pmi 1 1 rfl
      simp [cdbBytes, packCdb, packReadCapacity16, packBe64, packBe32, ZeroOutside,
        CdbFields.usageMap, kCdbSize, and_not_ff, haction, hpmi]
  | read10 m =>
      cases h
      have hflags := dpoFua_outside m.dpo m.fua
      simp [cdbBytes, packCdb, packRead10, rw10Bytes, packBe32, packBe16, ZeroOutside,
        CdbFields.usageMap, kCdbSize, and_not_ff, hflags, group_outside]
  | write10 m data =>
      cases h
      have hflags := dpoFua_outside m.dpo m.fua
      simp [cdbBytes, packCdb, packWrite10, rw10Bytes, packBe32, packBe16, ZeroOutside,
        CdbFields.usageMap, kCdbSize, and_not_ff, hflags, group_outside]
  | read16 m =>
      cases h
      have hflags := dpoFua_outside m.dpo m.fua
      simp [cdbBytes, packCdb, packRead16, rw16Bytes, packBe64, packBe32, ZeroOutside,
        CdbFields.usageMap, kCdbSize, and_not_ff, hflags, group_outside]
  | write16 m data =>
      cases h
      have hflags := dpoFua_outside m.dpo m.fua
      simp [cdbBytes, packCdb, packWrite16, rw16Bytes, packBe64, packBe32, ZeroOutside,
        CdbFields.usageMap, kCdbSize, and_not_ff, hflags, group_outside]
  | modeSense6 m =>
      cases h
      have hdbd := flag_outside m.dbd 0x08 0x08 rfl
      simp [cdbBytes, packCdb, packModeSense6, ZeroOutside, CdbFields.usageMap, kCdbSize,
        and_not_ff, hdbd]
  | modeSelect6 m =>
      cases h
      have hflags := or_outside (flag_outside m.pf 0x10 0x11 rfl)
        (flag_outside m.sp 0x01 0x11 rfl)
      simp [cdbBytes, packCdb, packModeSelect6, ZeroOutside, CdbFields.usageMap, kCdbSize,
        and_not_ff, hflags]
  | requestSense m =>
      cases h
      have hdesc := flag_outside m.desc 1 1 rfl
      simp [cdbBytes, packCdb, packRequestSense, ZeroOutside, CdbFields.usageMap, kCdbSize,
        and_not_ff, hdesc]
  | reportLuns m =>
      cases h
      simp [cdbBytes, packCdb, packReportLuns, packBe32, ZeroOutside, CdbFields.usageMap, kCdbSize,
        and_not_ff]
  | startStopUnit m =>
      cases h
      have himmed := flag_outside m.immed 1 1 rfl
      have hpower := or_outside (or_outside (power_outside m.power)
        (flag_outside m.loej 0x02 0xf3 rfl))
        (flag_outside m.start 0x01 0xf3 rfl)
      simpa [cdbBytes, packCdb, packStartStopUnit, ZeroOutside, CdbFields.usageMap, kCdbSize,
        and_not_ff, himmed] using hpower
  | syncCache10 m =>
      cases h
      have himmed := flag_outside m.immed 0x02 0x02 rfl
      simp [cdbBytes, packCdb, packSyncCache10, packBe32, packBe16, ZeroOutside,
        CdbFields.usageMap, kCdbSize, and_not_ff, himmed]
  | raw m => cases h
  | cdbNotSet => cases h

end ZeroOutside

/-- The CDB of every typed message has 32 bytes, decodes to the message's kind and fields and is
zero elsewhere; so messages that differ in a field on the wire have different CDBs. -/
theorem cdb_decodes (cdb : Cdb) (fields : CdbFields) (h : wireFields cdb = some fields) :
    (cdbBytes cdb).length = 32 ∧ decodeCdb (cdbBytes cdb) = some fields ∧
      ZeroOutside fields.usageMap (cdbBytes cdb) ∧
      ∀ cdb' fields', wireFields cdb' = some fields' → fields ≠ fields' →
        cdbBytes cdb ≠ cdbBytes cdb' := by
  refine ⟨cdbBytes_length cdb, decodeCdb_cdbBytes cdb h, zeroOutside_cdbBytes cdb h, ?_⟩
  intro cdb' fields' h' hne heq
  have hdecode := decodeCdb_cdbBytes cdb h
  rw [heq, decodeCdb_cdbBytes cdb' h'] at hdecode
  exact hne (Option.some.inj hdecode).symm

theorem cdb_decodes_read10 :
    decodeCdb (cdbBytes (.read10 ⟨true, false, 0x12345678, 0x10002, 0x23⟩)) =
      some (.read10 true false 0x12345678 2 3) :=
  (cdb_decodes (.read10 ⟨true, false, 0x12345678, 0x10002, 0x23⟩) _ rfl).2.1

end VirtioCrash.Scsi
