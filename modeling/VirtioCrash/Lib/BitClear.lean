import Mathlib.Data.Nat.Log
import Mathlib.Data.Nat.Bitwise

/-!
# Clearing low bits down to the highest one

`while (x && (x & (x - 1))) x &= x - 1` clears the lowest set bit until one bit is left. With at
least as much fuel as the number has bits, the loop ends at the largest power of two below it.
-/

namespace BitClear

/-- The loop, with a bound on its passes. -/
def clearLoop : Nat → Nat → Nat
  | 0, x => x
  | fuel + 1, x => if x ≠ 0 ∧ x &&& (x - 1) ≠ 0 then clearLoop fuel (x &&& (x - 1)) else x

private theorem dvd_clear {x j : Nat} (hx : x ≠ 0) (hj : 2 ^ j ∣ x) :
    2 ^ (j + 1) ∣ x &&& (x - 1) := by
  obtain ⟨m, rfl⟩ := hj
  have hpos : 0 < 2 ^ j := Nat.two_pow_pos j
  rw [Nat.dvd_iff_mod_eq_zero, Nat.and_mod_two_pow]
  have hdouble : 2 ^ (j + 1) = 2 ^ j * 2 := pow_succ 2 j
  rcases Nat.even_or_odd' m with ⟨k, hk | hk⟩
  · have hzero : 2 ^ j * m % 2 ^ (j + 1) = 0 := by
      rw [hk, hdouble, ← mul_assoc]
      exact Nat.mul_mod_right _ _
    rw [hzero, Nat.zero_and]
  · have hself : 2 ^ j * m % 2 ^ (j + 1) = 2 ^ j := by
      rw [hk, hdouble, Nat.mul_mod_mul_left]
      simp [Nat.add_mod]
    have hpred : (2 ^ j * m - 1) % 2 ^ (j + 1) = 2 ^ j - 1 := by
      have hsplit : 2 ^ j * m - 1 = 2 ^ j - 1 + 2 ^ (j + 1) * k := by
        rw [hk, hdouble, mul_assoc, mul_add, mul_one]
        omega
      rw [hsplit, Nat.add_mul_mod_self_left]
      exact Nat.mod_eq_of_lt (by omega)
    rw [hself, hpred, Nat.and_two_pow_sub_one_eq_mod, Nat.mod_self]

private theorem log2_clear {x : Nat} (hx : x ≠ 0) (h : x &&& (x - 1) ≠ 0) :
    (x &&& (x - 1)).log2 = x.log2 := by
  have hpow : ¬x.isPowerOfTwo := fun hp => h ((Nat.and_sub_one_eq_zero_iff_isPowerOfTwo hx).mpr hp)
  have hbit := Nat.and_sub_one_testBit_log2 hx hpow
  have hle : x &&& (x - 1) ≤ x := Nat.and_le_left
  have hlt := Nat.lt_log2_self (n := x)
  rw [Nat.log2_eq_iff h]
  exact ⟨Nat.ge_two_pow_of_testBit hbit, by omega⟩

private theorem clearLoop_eq_of_dvd (fuel : Nat) {x j : Nat} (hx : x ≠ 0) (hj : 2 ^ j ∣ x)
    (hlt : x < 2 ^ (fuel + j)) : clearLoop fuel x = 2 ^ x.log2 := by
  induction fuel generalizing x j with
  | zero =>
      have hle := Nat.le_of_dvd (Nat.pos_of_ne_zero hx) hj
      rw [Nat.zero_add] at hlt
      omega
  | succ fuel ih =>
      rw [clearLoop]
      by_cases h : x &&& (x - 1) = 0
      · obtain ⟨k, hk⟩ := (Nat.and_sub_one_eq_zero_iff_isPowerOfTwo hx).mp h
        simp only [h, ne_eq, not_true_eq_false, and_false, if_false]
        rw [hk, Nat.log2_two_pow]
      · have hle : x &&& (x - 1) ≤ x := Nat.and_le_left
        have hfuel : fuel + (j + 1) = fuel + 1 + j := by omega
        rw [if_pos ⟨hx, h⟩, ih h (dvd_clear hx hj) (by rw [hfuel]; exact hle.trans_lt hlt),
          log2_clear hx h]

/-- With fuel for every bit, the loop leaves the highest bit of the number. -/
theorem clearLoop_eq {fuel x : Nat} (hx : x ≠ 0) (hlt : x < 2 ^ fuel) :
    clearLoop fuel x = 2 ^ x.log2 :=
  clearLoop_eq_of_dvd fuel (j := 0) hx (by simp) (by simpa using hlt)

end BitClear
