import VirtioCrash.Lib.Bytes
import VirtioCrash.Lib.TextNumber

/-!
# Memory in text

`qtest_memwrite_real` writes bytes as pairs of digits, `qtest_memread_real` reads them with
`hex2nib`, which takes an upper-case letter for a negative number. The decoded byte is the one that
is meant exactly when the letter does no harm.
-/

namespace VirtioCrash.Qtest

open TextNumber

/-- `"%02x"` -/
def hexByte (b : UInt8) : List Char :=
  [Nat.digitChar (b.toNat / 16), Nat.digitChar (b.toNat % 16)]

/-- The digits of `qtest_memwrite_real`. -/
def hexBytes (data : List UInt8) : List Char := data.flatMap hexByte

/-- `ch - 'a'` is negative for an upper-case letter. -/
def hex2nib (ch : Char) : Int :=
  if '0' ≤ ch ∧ ch ≤ '9' then ch.toNat - '0'.toNat
  else if 'a' ≤ ch ∧ ch ≤ 'f' then 10 + (ch.toNat - 'a'.toNat)
  else if 'A' ≤ ch ∧ ch ≤ 'F' then 10 + ((ch.toNat : Int) - 'a'.toNat)
  else -1

/-- A character of a C string, up to the one that ends it. -/
def charAt (s : List Char) (k : Nat) : Option Char :=
  if k < s.length then s[k]? else if k = s.length then some '\x00' else none

/-- The low byte of a number that may be negative. -/
def lowByte (v : Int) : UInt8 := UInt8.ofNat (v % 256).toNat

/-- `ptr[i] = hex2nib(hi) << 4; ptr[i] |= hex2nib(lo)` -/
def nibbles (hi lo : Char) : UInt8 := lowByte (hex2nib hi * 16) ||| lowByte (hex2nib lo)

/-- The bytes `qtest_memread_real` makes of the second word of a response, if it stays inside. -/
def memreadBytes (word : List Char) (size : Nat) : Option (List UInt8) :=
  (List.range size).mapM fun i => do
    let hi ← charAt word (2 + i * 2)
    let lo ← charAt word (2 + i * 2 + 1)
    return nibbles hi lo

private theorem nibbles_hexByte (b : UInt8) :
    nibbles (Nat.digitChar (b.toNat / 16)) (Nat.digitChar (b.toNat % 16)) = b := by
  have hall : ∀ k : Fin 256, nibbles (Nat.digitChar (k / 16)) (Nat.digitChar (k % 16)) =
      UInt8.ofNat k := by decide +kernel
  have hb := hall ⟨b.toNat, b.toNat_lt⟩
  rw [UInt8.ofNat_toNat] at hb
  exact hb

/-- The characters of a hexadecimal number. -/
def hexChars : List Char :=
  ['0', '1', '2', '3', '4', '5', '6', '7', '8', '9', 'a', 'b', 'c', 'd', 'e', 'f',
    'A', 'B', 'C', 'D', 'E', 'F']

/-- The byte two digits stand for. -/
def byteOf (hi lo : Char) : UInt8 :=
  UInt8.ofNat (16 * (digitValue hi).getD 0 + (digitValue lo).getD 0)

/-- The lower digit is no upper-case letter, or the upper one has the bits such a letter sets. -/
def Harmless (hi lo : Char) : Prop := ¬('A' ≤ lo ∧ lo ≤ 'F') ∨ 14 ≤ (digitValue hi).getD 0

instance (hi lo : Char) : Decidable (Harmless hi lo) := inferInstanceAs (Decidable (_ ∨ _))

private theorem nibbles_iff {hi lo : Char} (hhi : hi ∈ hexChars) (hlo : lo ∈ hexChars) :
    nibbles hi lo = byteOf hi lo ↔ Harmless hi lo := by
  have hall : (hexChars.all fun hi => hexChars.all fun lo =>
      decide (nibbles hi lo = byteOf hi lo ↔ Harmless hi lo)) = true := by
    decide +kernel
  exact of_decide_eq_true (List.all_eq_true.mp (List.all_eq_true.mp hall hi hhi) lo hlo)

/-- The digits of the bytes in a response. -/
def digitsText (pairs : List (Char × Char)) : List Char := pairs.flatMap fun p => [p.1, p.2]

private theorem digitsText_getElem? {pairs : List (Char × Char)} {i : Nat} {p : Char × Char}
    (h : pairs[i]? = some p) :
    (digitsText pairs)[i * 2]? = some p.1 ∧ (digitsText pairs)[i * 2 + 1]? = some p.2 := by
  induction pairs generalizing i with
  | nil => simp at h
  | cons q pairs ih =>
      cases i with
      | zero =>
          cases h
          exact ⟨rfl, rfl⟩
      | succ i =>
          rw [Nat.succ_mul]
          exact ih h

private theorem mapM_of_forall {α β : Type} {f : α → Option β} {g : α → β} {as : List α}
    (h : ∀ a ∈ as, f a = some (g a)) : as.mapM f = some (as.map g) := by
  induction as with
  | nil => rfl
  | cons a as ih =>
      rw [List.mapM_cons, h a List.mem_cons_self,
        ih fun a' ha' => h a' (List.mem_cons_of_mem a ha')]
      rfl

private theorem memreadBytes_digits (pairs : List (Char × Char)) (more : List Char) :
    memreadBytes ('0' :: 'x' :: (digitsText pairs ++ more)) pairs.length =
      some (pairs.map fun p => nibbles p.1 p.2) := by
  have hlen : (digitsText pairs).length = 2 * pairs.length := by
    simp [digitsText, List.length_flatMap, Nat.mul_comm]
  have hchar {k : Nat} {c : Char} (hk : (digitsText pairs)[k]? = some c) :
      charAt ('0' :: 'x' :: (digitsText pairs ++ more)) (2 + k) = some c := by
    obtain ⟨hlt, -⟩ := List.getElem?_eq_some_iff.mp hk
    rw [charAt, if_pos (by simp; omega), Nat.add_comm 2 k]
    change (digitsText pairs ++ more)[k]? = some c
    rw [List.getElem?_append_left hlt, hk]
  have hread : ∀ i ∈ List.range pairs.length,
      (do
        let hi ← charAt ('0' :: 'x' :: (digitsText pairs ++ more)) (2 + i * 2)
        let lo ← charAt ('0' :: 'x' :: (digitsText pairs ++ more)) (2 + i * 2 + 1)
        return nibbles hi lo) = some ((pairs.map fun p => nibbles p.1 p.2).getD i 0) := by
    intro i hi
    obtain ⟨p, hp⟩ : ∃ p, pairs[i]? = some p :=
      ⟨_, List.getElem?_eq_getElem (List.mem_range.mp hi)⟩
    obtain ⟨hfst, hsnd⟩ := digitsText_getElem? hp
    rw [hchar hfst, Nat.add_assoc, hchar hsnd, List.getD_eq_getElem?_getD, List.getElem?_map, hp]
    rfl
  rw [memreadBytes, mapM_of_forall hread]
  congr 1
  apply List.ext_getElem?
  intro i
  rw [List.getElem?_map]
  rcases Nat.lt_or_ge i pairs.length with hi | hi
  · simp [hi]
  · simp [hi]

/-- What `qtest_memwrite_real` writes, `qtest_memread_real` reads. -/
theorem memreadBytes_hexBytes (data : List UInt8) (more : List Char) :
    memreadBytes ('0' :: 'x' :: (hexBytes data ++ more)) data.length = some data := by
  have h := memreadBytes_digits
    (data.map fun b => (Nat.digitChar (b.toNat / 16), Nat.digitChar (b.toNat % 16))) more
  rw [List.length_map, List.map_map, digitsText, List.flatMap_map] at h
  have hid : data.map ((fun p => nibbles p.1 p.2) ∘ fun b : UInt8 =>
      (Nat.digitChar (b.toNat / 16), Nat.digitChar (b.toNat % 16))) = data := by
    exact (List.map_congr_left fun b _ => nibbles_hexByte b).trans (List.map_id data)
  rw [hid] at h
  exact h

/-- The bytes of a response are those that its digits stand for exactly when no upper-case letter
is the lower digit of a byte below `0xe0`; those in lower case always are. -/
theorem memread_text_iff :
    (∀ (pairs : List (Char × Char)) (more : List Char),
      (∀ p ∈ pairs, p.1 ∈ hexChars ∧ p.2 ∈ hexChars) →
        (memreadBytes ('0' :: 'x' :: (digitsText pairs ++ more)) pairs.length =
            some (pairs.map fun p => byteOf p.1 p.2) ↔ ∀ p ∈ pairs, Harmless p.1 p.2)) ∧
    ∀ (data : List UInt8) (more : List Char),
      memreadBytes ('0' :: 'x' :: (hexBytes data ++ more)) data.length = some data := by
  refine ⟨?_, memreadBytes_hexBytes⟩
  intro pairs more hpairs
  rw [memreadBytes_digits, Option.some_inj, List.map_inj_left]
  constructor
  · intro h p hp
    exact (nibbles_iff (hpairs p hp).1 (hpairs p hp).2).mp (h p hp)
  · intro h p hp
    exact (nibbles_iff (hpairs p hp).1 (hpairs p hp).2).mpr (h p hp)

/-- `2A` is read as `0xea`. -/
example : memreadBytes ['0', 'x', '2', 'A'] 1 = some [0xea] := by decide

end VirtioCrash.Qtest
