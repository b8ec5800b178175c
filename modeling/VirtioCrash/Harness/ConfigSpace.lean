import VirtioCrash.Harness.Common

/-!
# The words of a config write

`ConfigWrite` stores its data word by word until the data or the 256 bytes of config space run out.
-/

namespace VirtioCrash

open Bytes

/-- Word `k` of the data, at its place behind offset `off` of the config space. -/
def configWord (off : Nat) (data : List UInt8) (k : Nat) : UInt64 × UInt32 :=
  (rConfig + UInt64.ofNat (off + 4 * k), UInt32.ofNat (ofLe (slice data (4 * k) 4)))

/-- How many words of the data are whole and end in the config space. -/
def fittingWords (off : Nat) (data : List UInt8) : Nat :=
  min (data.length / 4) ((0x100 - off) / 4)

/-- The write loop passes over exactly the words that fit, in their order. -/
theorem configWords_eq (off i : Nat) (data : List UInt8) :
    configWords off i data =
      (List.range (fittingWords (off + i) data)).map (configWord (off + i) data) := by
  fun_induction configWords off i data with
  | case1 i b0 b1 b2 b3 rest hfit ih =>
      have hcount : fittingWords (off + i) (b0 :: b1 :: b2 :: b3 :: rest) =
          fittingWords (off + (i + 4)) rest + 1 := by
        simp only [fittingWords, List.length_cons]
        omega
      have hnext (k : Nat) : configWord (off + i) (b0 :: b1 :: b2 :: b3 :: rest) (k + 1) =
          configWord (off + (i + 4)) rest k := by
        have hsum : off + i + 4 * (k + 1) = off + (i + 4) + 4 * k := by omega
        rw [configWord, configWord, hsum, Nat.mul_succ]
        rfl
      rw [hcount, List.range_succ_eq_map, List.map_cons, List.map_map, ih]
      congr 1
      apply List.map_congr_left
      intro k _
      exact (hnext k).symm
  | case2 i b0 b1 b2 b3 rest hfit =>
      have hcount : fittingWords (off + i) (b0 :: b1 :: b2 :: b3 :: rest) = 0 := by
        simp only [fittingWords]
        omega
      simp [hcount]
  | case3 data i hshort =>
      have hlen : data.length < 4 := by
        match data, hshort with
        | [], _ => simp
        | [_], _ => simp
        | [_, _], _ => simp
        | [_, _, _], _ => simp
        | b0 :: b1 :: b2 :: b3 :: rest, hshort => exact (hshort b0 b1 b2 b3 rest rfl).elim
      have hcount : fittingWords (off + i) data = 0 := by
        simp only [fittingWords]
        omega
      simp [hcount]

theorem configWords_off (off i : Nat) (data : List UInt8) :
    ∀ word ∈ configWords off i data, ∃ k, k + 4 ≤ 0x100 ∧ word.1 = rConfig + UInt64.ofNat k := by
  intro word hword
  rw [configWords_eq, List.mem_map] at hword
  obtain ⟨k, hk, rfl⟩ := hword
  have hfit := List.mem_range.mp hk
  rw [fittingWords] at hfit
  exact ⟨off + i + 4 * k, by omega, rfl⟩

end VirtioCrash
