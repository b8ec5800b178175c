import Mathlib.Data.Nat.ModEq
import Mathlib.Data.List.Basic
import Mathlib.Tactic.Ring

/-!
# Byte strings

Little-endian words as byte lists with their decoder, the decoder of big-endian ones, and reading
from the middle of a buffer (`slice`), so that a packed structure is decoded field by field.
-/

namespace Bytes

/-- The `k` low bytes of `v`, least significant first. -/
def leBytes : Nat → Nat → List UInt8
  | 0, _ => []
  | k + 1, v => UInt8.ofNat (v % 256) :: leBytes k (v / 256)

/-- The number a little-endian byte string stands for. -/
def ofLe : List UInt8 → Nat
  | [] => 0
  | b :: bs => b.toNat + 256 * ofLe bs

@[simp] theorem leBytes_length (k v : Nat) : (leBytes k v).length = k := by
  induction k generalizing v with
  | zero => rfl
  | succ k ih => simp [leBytes, ih]

theorem ofLe_leBytes (k v : Nat) : ofLe (leBytes k v) = v % 256 ^ k := by
  induction k generalizing v with
  | zero => simp [leBytes, ofLe, Nat.mod_one]
  | succ k ih =>
      have hb : (UInt8.ofNat (v % 256)).toNat = v % 256 := by
        simp
      rw [leBytes, ofLe, ih, hb, pow_succ, mul_comm (256 ^ k) 256, Nat.mod_mul]

def le16 (v : UInt16) : List UInt8 := leBytes 2 v.toNat
def le32 (v : UInt32) : List UInt8 := leBytes 4 v.toNat
def le64 (v : UInt64) : List UInt8 := leBytes 8 v.toNat

@[simp] theorem le16_length (v : UInt16) : (le16 v).length = 2 := leBytes_length _ _
@[simp] theorem le32_length (v : UInt32) : (le32 v).length = 4 := leBytes_length _ _
@[simp] theorem le64_length (v : UInt64) : (le64 v).length = 8 := leBytes_length _ _

@[simp] theorem ofLe_le16 (v : UInt16) : ofLe (le16 v) = v.toNat := by
  have hv := v.toNat_lt
  rw [le16, ofLe_leBytes, Nat.mod_eq_of_lt (by omega)]

@[simp] theorem ofLe_le32 (v : UInt32) : ofLe (le32 v) = v.toNat := by
  have hv := v.toNat_lt
  rw [le32, ofLe_leBytes, Nat.mod_eq_of_lt (by omega)]

@[simp] theorem ofLe_le64 (v : UInt64) : ofLe (le64 v) = v.toNat := by
  have hv := v.toNat_lt
  rw [le64, ofLe_leBytes, Nat.mod_eq_of_lt (by omega)]

theorem ofLe_append (as bs : List UInt8) :
    ofLe (as ++ bs) = ofLe as + 256 ^ as.length * ofLe bs := by
  induction as with
  | nil => simp [ofLe]
  | cons a as ih =>
      rw [List.cons_append, ofLe, ofLe, ih, List.length_cons, pow_succ]
      ring

theorem ofLe_lt (bs : List UInt8) : ofLe bs < 256 ^ bs.length := by
  induction bs with
  | nil => simp [ofLe]
  | cons b bs ih =>
      have hb := b.toNat_lt
      simp only [ofLe, List.length_cons, pow_succ]
      omega

/-- A byte string is determined by its length and the number it stands for. -/
theorem ofLe_injective {bs cs : List UInt8} (hlen : bs.length = cs.length)
    (h : ofLe bs = ofLe cs) : bs = cs := by
  induction bs generalizing cs with
  | nil => exact (List.length_eq_zero_iff.mp hlen.symm).symm
  | cons b bs ih =>
      cases cs with
      | nil => simp at hlen
      | cons c cs =>
          have hb := b.toNat_lt
          have hc := c.toNat_lt
          simp only [ofLe] at h
          have hbc : b = c := UInt8.toNat_inj.mp (by omega)
          have htail : ofLe bs = ofLe cs := by
            subst hbc
            omega
          rw [hbc, ih (by simpa using hlen) htail]

/-- The number a big-endian byte string stands for. -/
def ofBe (bs : List UInt8) : Nat := ofLe bs.reverse

theorem ofBe_append (as bs : List UInt8) :
    ofBe (as ++ bs) = ofBe bs + 256 ^ bs.length * ofBe as := by
  rw [ofBe, List.reverse_append, ofLe_append, List.length_reverse]
  rfl

theorem and_mask_toNat (v m : UInt32) (k : Nat) (hm : m.toNat = 2 ^ k - 1) :
    (v &&& m).toNat = v.toNat % 2 ^ k := by
  rw [UInt32.toNat_and, hm, Nat.and_two_pow_sub_one_eq_mod]

theorem toUInt8_shiftRight_toNat (v s : UInt32) (hs : s.toNat < 32) :
    (v >>> s).toUInt8.toNat = v.toNat / 2 ^ s.toNat % 256 := by
  rw [UInt32.toNat_toUInt8, UInt32.toNat_shiftRight, Nat.mod_eq_of_lt hs,
    Nat.shiftRight_eq_div_pow]

theorem min_toNat (a b : UInt32) : (min a b).toNat = min a.toNat b.toNat := by
  change (if a ≤ b then a else b).toNat = _
  rw [apply_ite UInt32.toNat]
  simp only [UInt32.le_iff_toNat_le]
  split
  · omega
  · omega

theorem max_toNat (a b : UInt32) : (max a b).toNat = max a.toNat b.toNat := by
  change (if a ≤ b then b else a).toNat = _
  rw [apply_ite UInt32.toNat]
  simp only [UInt32.le_iff_toNat_le]
  split
  · omega
  · omega

/-- The `k` bytes of the buffer from `off`. -/
def slice (buf : List UInt8) (off k : Nat) : List UInt8 :=
  (buf.drop off).take k

theorem slice_append_left (as bs : List UInt8) (off k : Nat) (h : off + k ≤ as.length) :
    slice (as ++ bs) off k = slice as off k := by
  rw [slice, slice, List.drop_append_of_le_length (by omega), List.take_append_of_le_length]
  rw [List.length_drop]
  omega

theorem slice_append_right (as bs : List UInt8) (off k : Nat) (h : as.length ≤ off) :
    slice (as ++ bs) off k = slice bs (off - as.length) k := by
  rw [slice, slice, List.drop_append, List.drop_eq_nil_of_le h, List.nil_append]

theorem slice_zero_append (as bs : List UInt8) : slice (as ++ bs) 0 as.length = as := by
  rw [slice, List.drop_zero, List.take_left]

end Bytes
