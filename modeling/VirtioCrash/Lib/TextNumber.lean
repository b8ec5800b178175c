import Mathlib.Data.List.Basic

/-!
# Numbers in text

Reading whole words as numbers the way `strtoull` does in base 0, and the two formats `%d` and
`0x%x` that such a reader takes back.
-/

namespace TextNumber

def digitValue (c : Char) : Option Nat :=
  if '0' ≤ c ∧ c ≤ '9' then some (c.toNat - '0'.toNat)
  else if 'a' ≤ c ∧ c ≤ 'f' then some (10 + (c.toNat - 'a'.toNat))
  else if 'A' ≤ c ∧ c ≤ 'F' then some (10 + (c.toNat - 'A'.toNat))
  else none

/-- A digit of the base. -/
def digit? (base : Nat) (c : Char) : Option Nat := (digitValue c).filter fun v => v < base

/-- One more digit. -/
def push? (base acc : Nat) (c : Char) : Option Nat := (digit? base c).map fun v => acc * base + v

/-- A word of digits, none of them missing. -/
def digits? (base : Nat) (cs : List Char) : Option Nat :=
  if cs = [] then none else cs.foldlM (push? base) 0

theorem digit_digitChar {base d : Nat} (hbase : base ≤ 16) (hd : d < base) :
    digit? base d.digitChar = some d := by
  have hvalue : ∀ k : Fin 16, digitValue (Nat.digitChar k) = some (k : Nat) := by decide
  have hk := hvalue ⟨d, by omega⟩
  rw [digit?, hk, Option.filter_some, if_pos (by simpa using hd)]

private theorem foldlM_toDigits {base : Nat} (hone : 1 < base) (hbase : base ≤ 16) (n : Nat) :
    (Nat.toDigits base n).foldlM (push? base) 0 = some n := by
  induction n using Nat.strongRecOn with
  | ind n ih =>
      rw [Nat.toDigits_eq_if hone]
      split
      · rename_i hlt
        simp [push?, digit_digitChar hbase hlt]
      · rename_i hge
        have hless : n / base < n := Nat.div_lt_self (by omega) hone
        have hmod := Nat.mod_lt n (by omega : base > 0)
        rw [List.foldlM_append, ih _ hless]
        simp [push?, digit_digitChar hbase hmod, Nat.div_add_mod']

private theorem digits_toDigits {base : Nat} (hone : 1 < base) (hbase : base ≤ 16) (n : Nat) :
    digits? base (Nat.toDigits base n) = some n := by
  rw [digits?, if_neg Nat.toDigits_ne_nil, foldlM_toDigits hone hbase]

theorem mem_toDigits {base : Nat} (hone : 1 < base) {n : Nat} {c : Char}
    (h : c ∈ Nat.toDigits base n) : ∃ d < base, c = Nat.digitChar d := by
  induction n using Nat.strongRecOn with
  | ind n ih =>
      rw [Nat.toDigits_eq_if hone] at h
      split at h
      · rename_i hlt
        exact ⟨n, hlt, List.mem_singleton.mp h⟩
      · rename_i hge
        rcases List.mem_append.mp h with h | h
        · exact ih _ (Nat.div_lt_self (by omega) hone) h
        · exact ⟨n % base, Nat.mod_lt n (by omega), List.mem_singleton.mp h⟩

private theorem digits_padded {base : Nat} (hone : 1 < base) (hbase : base ≤ 16) (zeros n : Nat) :
    digits? base (List.replicate zeros '0' ++ Nat.toDigits base n) = some n := by
  have hzero : push? base 0 '0' = some 0 := by
    have hdigit := digit_digitChar hbase (by omega : 0 < base)
    change digit? base '0' = some 0 at hdigit
    rw [push?, hdigit, Option.map_some, Nat.zero_mul]
  have hzeros : (List.replicate zeros '0').foldlM (push? base) 0 = some 0 := by
    induction zeros with
    | zero => rfl
    | succ zeros ih =>
        rw [List.replicate_succ, List.foldlM_cons, hzero]
        exact ih
  rw [digits?, if_neg (List.append_ne_nil_of_right_ne_nil _ Nat.toDigits_ne_nil),
    List.foldlM_append, hzeros]
  exact foldlM_toDigits hone hbase n

/-- `0x` stands for hexadecimal and another leading zero for octal. -/
def unsigned? : List Char → Option Nat
  | '0' :: 'x' :: cs => digits? 16 cs
  | '0' :: 'X' :: cs => digits? 16 cs
  | '0' :: cs => digits? 8 ('0' :: cs)
  | cs => digits? 10 cs

def isSpace (c : Char) : Bool :=
  c = ' ' || c = '\t' || c = '\n' || c = '\r' || c = '\x0b' || c = '\x0c'

/-- With a sign, and behind white space. -/
def integer? (cs : List Char) : Option Int :=
  match cs.dropWhile isSpace with
  | '-' :: cs => (unsigned? cs).map fun n => -(n : Int)
  | '+' :: cs => (unsigned? cs).map fun n => (n : Int)
  | cs => (unsigned? cs).map fun n => (n : Int)

/-- `%d` of a number that is not negative. -/
def decimal (n : Nat) : List Char := Nat.toDigits 10 n

/-- `0x%x` -/
def hex (n : Nat) : List Char := '0' :: 'x' :: Nat.toDigits 16 n

private theorem decimal_head {n : Nat} (hn : 0 < n) : ∃ c cs, decimal n = c :: cs ∧ c ≠ '0' := by
  induction n using Nat.strongRecOn with
  | ind n ih =>
      rw [decimal, Nat.toDigits_eq_if (by decide)]
      split
      · rename_i hlt
        have hne : ∀ k : Fin 10, 0 < (k : Nat) → Nat.digitChar k ≠ '0' := by decide
        exact ⟨_, [], rfl, hne ⟨n, hlt⟩ hn⟩
      · obtain ⟨c, cs, hcs, hc⟩ := ih (n / 10) (by omega) (by omega)
        rw [decimal] at hcs
        exact ⟨c, _, by rw [hcs, List.cons_append], hc⟩

theorem unsigned_decimal (n : Nat) : unsigned? (decimal n) = some n := by
  rcases Nat.eq_zero_or_pos n with rfl | hn
  · decide
  · obtain ⟨c, cs, hcs, hc⟩ := decimal_head hn
    have hdigits := digits_toDigits (by decide : 1 < 10) (by decide) n
    rw [← decimal, hcs] at hdigits
    rw [hcs, unsigned?]
    · exact hdigits
    · intro cs' h
      exact hc (List.cons.inj h).1
    · intro cs' h
      exact hc (List.cons.inj h).1
    · intro cs' h
      exact hc (List.cons.inj h).1

private theorem ne_of_isDigit {c d : Char} (hc : c.isDigit = true) (hd : d.isDigit = false) :
    c ≠ d := by
  intro h
  rw [h, hd] at hc
  cases hc

theorem integer_decimal (n : Nat) : integer? (decimal n) = some (n : Int) := by
  obtain ⟨c, cs, hcs⟩ := List.exists_cons_of_ne_nil (Nat.toDigits_ne_nil (n := n) (b := 10))
  have hdigit : c.isDigit = true := by
    apply Nat.isDigit_of_mem_toDigits (b := 10) (n := n) (by decide) (by decide)
    rw [hcs]
    exact List.mem_cons_self
  have hspace : isSpace c = false := by
    simp [isSpace, ne_of_isDigit hdigit]
  have hread := unsigned_decimal n
  rw [decimal, hcs] at hread ⊢
  rw [integer?, List.dropWhile_cons_of_neg (by rw [hspace]; decide)]
  split
  · rename_i heq
    exact absurd (List.cons.inj heq).1 (ne_of_isDigit hdigit rfl)
  · rename_i heq
    exact absurd (List.cons.inj heq).1 (ne_of_isDigit hdigit rfl)
  · rw [hread]
    rfl

theorem unsigned_padded (zeros n : Nat) :
    unsigned? ('0' :: 'x' :: (List.replicate zeros '0' ++ Nat.toDigits 16 n)) = some n :=
  digits_padded (by decide) (by decide) zeros n

theorem integer_padded (zeros n : Nat) :
    integer? ('0' :: 'x' :: (List.replicate zeros '0' ++ Nat.toDigits 16 n)) = some (n : Int) := by
  have hread := unsigned_padded zeros n
  rw [integer?, List.dropWhile_cons_of_neg (by decide)]
  split
  · rename_i heq
    exact absurd (List.cons.inj heq).1 (by decide)
  · rename_i heq
    exact absurd (List.cons.inj heq).1 (by decide)
  · rw [hread]
    rfl

end TextNumber
