import VirtioCrash.Harness.Confined

/-!
# Absolute writes

`op_memwrite_absolute` keeps a guest-physical address that fits the buffer pool and maps any other
one into the pool by its remainder modulo the space that is left. The arithmetic is modulo `2^64`;
it never wraps, so the address stored at is the one of the same clamp over the integers.
-/

namespace VirtioCrash

open StateProgram

variable {n : Nat} {ξ : Type}

/-- The clamp over the integers: `len` bytes at `gpa`, brought into `[base, kBufPoolEnd)`. -/
def clampedGpa (base gpa len : Nat) : Nat :=
  if base ≤ gpa ∧ gpa + len ≤ kBufPoolEndNat then gpa
  else base + gpa % (kBufPoolEndNat - base - len)

/-- A clamped range is inside the pool when there is room for it and one more byte. -/
theorem clampedGpa_inside {base len : Nat} (gpa : Nat) (hroom : base + len < kBufPoolEndNat) :
    base ≤ clampedGpa base gpa len ∧ clampedGpa base gpa len + len ≤ kBufPoolEndNat := by
  rw [clampedGpa]
  split
  · assumption
  · have hmod := Nat.mod_lt gpa (y := kBufPoolEndNat - base - len) (by omega)
    omega

/-- The 64-bit values `op_memwrite_absolute` computes on its way are those of the integers. -/
structure ClampExact (n : Nat) (gpa : UInt64) (len : UInt32) : Prop where
  limit : (kBufPoolEnd - len.toUInt64).toNat + len.toNat = kBufPoolEndNat
  span : (kBufPoolEnd - kBufPoolBase n - len.toUInt64).toNat + len.toNat +
    (kBufPoolBase n).toNat = kBufPoolEndNat
  span_ne_zero : kBufPoolEnd - kBufPoolBase n - len.toUInt64 ≠ 0
  remapped : (kBufPoolBase n + gpa % (kBufPoolEnd - kBufPoolBase n - len.toUInt64)).toNat =
    (kBufPoolBase n).toNat +
      gpa.toNat % (kBufPoolEndNat - (kBufPoolBase n).toNat - len.toNat)

private theorem clampExact (hn : n ≤ 16) (gpa : UInt64) {len : UInt32} (hlen : len.toNat ≤ 4096) :
    ClampExact n gpa len := by
  have hbase := kBufPoolBase_toNat hn
  have hend : kBufPoolEnd.toNat = 0x47F00000 := rfl
  have hlen64 : len.toUInt64.toNat = len.toNat := UInt32.toNat_toUInt64 len
  have hlimit : (kBufPoolEnd - len.toUInt64).toNat = 0x47F00000 - len.toNat := by
    rw [UInt64.toNat_sub_of_le _ _ (by rw [UInt64.le_iff_toNat_le, hlen64, hend]; omega), hend,
      hlen64]
  have hpool : (kBufPoolEnd - kBufPoolBase n).toNat = 0xF00000 - n * 0x3000 := by
    rw [UInt64.toNat_sub_of_le _ _ (by rw [UInt64.le_iff_toNat_le, hbase, hend]; omega), hend,
      hbase]
    omega
  have hspan : (kBufPoolEnd - kBufPoolBase n - len.toUInt64).toNat =
      0xF00000 - n * 0x3000 - len.toNat := by
    rw [UInt64.toNat_sub_of_le _ _ (by rw [UInt64.le_iff_toNat_le, hpool, hlen64]; omega), hpool,
      hlen64]
  have hmod := Nat.mod_lt gpa.toNat (y := 0xF00000 - n * 0x3000 - len.toNat) (by omega)
  constructor
  · rw [hlimit, kBufPoolEndNat]
    omega
  · rw [hspan, hbase, kBufPoolEndNat]
    omega
  · intro hzero
    have hval := congrArg UInt64.toNat hzero
    rw [hspan, UInt64.toNat_zero] at hval
    omega
  · have hroom : kBufPoolEndNat - (kBufPoolBase n).toNat - len.toNat =
        0xF00000 - n * 0x3000 - len.toNat := by
      rw [hbase, kBufPoolEndNat]
      omega
    rw [UInt64.toNat_add, UInt64.toNat_mod, hspan, hroom, hbase]
    omega

/-- The clamp always yields an address, the one of the clamp over the integers. -/
theorem clampGpa_eq (hn : n ≤ 16) (gpa : UInt64) {len : UInt32} (hlen : len.toNat ≤ 4096) :
    ∃ a, clampGpa n gpa len = some a ∧
      a.toNat = clampedGpa (kBufPoolBase n).toNat gpa.toNat len.toNat := by
  have hexact := clampExact hn gpa hlen
  have hout : (gpa < kBufPoolBase n ∨ gpa > kBufPoolEnd - len.toUInt64) ↔
      ¬((kBufPoolBase n).toNat ≤ gpa.toNat ∧ gpa.toNat + len.toNat ≤ kBufPoolEndNat) := by
    have hlimit := hexact.limit
    rw [gt_iff_lt, UInt64.lt_iff_toNat_lt, UInt64.lt_iff_toNat_lt]
    omega
  rw [clampGpa, clampedGpa]
  by_cases hin : (kBufPoolBase n).toNat ≤ gpa.toNat ∧ gpa.toNat + len.toNat ≤ kBufPoolEndNat
  · rw [if_neg (fun h => hout.mp h hin), if_pos hin]
    exact ⟨gpa, rfl, rfl⟩
  · rw [if_pos (hout.mpr hin), if_neg hin]
    simp only [if_neg hexact.span_ne_zero]
    exact ⟨_, rfl, hexact.remapped⟩

/-- An absolute write of `data` for `gpa`: it stores the first 4096 bytes of the data in the buffer
pool, at `gpa` itself when they fit there. -/
structure WritesClamped (gpa : UInt64) (data : List UInt8) (a : UInt64) (w w' : World n ξ) :
    Prop where
  exact : ClampExact n gpa (UInt32.ofNat (min data.length 4096))
  event : w' = w.emit (.memWrite a (data.take 4096))
  length : (data.take 4096).length = min data.length 4096
  addr : a.toNat = clampedGpa (kBufPoolBase n).toNat gpa.toNat (min data.length 4096)
  inside : (kBufPoolBase n).toNat ≤ a.toNat ∧
    a.toNat + min data.length 4096 ≤ kBufPoolEnd.toNat
  kept : (kBufPoolBase n).toNat ≤ gpa.toNat →
    gpa.toNat + min data.length 4096 ≤ kBufPoolEnd.toNat → a = gpa

theorem opMemwriteAbsolute_clamped (hn : n ≤ 16) (gpa : UInt64) {data : List UInt8}
    (hdata : data ≠ []) (w : World n ξ) :
    ∃ a, WritesClamped gpa data a w ((opMemwriteAbsolute gpa data).run w).2 := by
  have hlen : (UInt32.ofNat (min data.length 4096)).toNat = min data.length 4096 := by
    rw [UInt32.toNat_ofNat']
    omega
  have hsmall : (UInt32.ofNat (min data.length 4096)).toNat ≤ 4096 := by
    rw [hlen]
    exact Nat.min_le_right _ _
  obtain ⟨a, ha, haddr⟩ := clampGpa_eq hn gpa hsmall
  rw [hlen] at haddr
  have hroom : (kBufPoolBase n).toNat + min data.length 4096 < kBufPoolEndNat := by
    rw [kBufPoolBase_toNat hn, kBufPoolEndNat]
    omega
  have hrun : ((opMemwriteAbsolute gpa data).run w).2 = w.emit (.memWrite a (data.take 4096)) := by
    have htake : data.take (min data.length 4096) = data.take 4096 := by
      rw [List.take_eq_take_iff]
      omega
    simp [opMemwriteAbsolute, hdata, ha, hlen, htake, qtestMemwrite, emit]
    rfl
  refine ⟨a, clampExact hn gpa hsmall, hrun, ?_, haddr, ?_, ?_⟩
  · rw [List.length_take]
    omega
  · rw [haddr]
    exact clampedGpa_inside gpa.toNat hroom
  · intro hlow hhigh
    apply UInt64.toNat_inj.mp
    rw [haddr, clampedGpa, if_pos ⟨hlow, hhigh⟩]

end VirtioCrash
