import Mathlib.Data.List.Basic

/-!
# Base64

The encoding of bytes in groups of four characters, of which the last may be padded, and the decoder
that takes it back.
-/

namespace Base64

/-- The character of a group of six bits. -/
def sextetChar (v : Nat) : Char :=
  if v < 26 then Char.ofNat ('A'.toNat + v)
  else if v < 52 then Char.ofNat ('a'.toNat + (v - 26))
  else if v < 62 then Char.ofNat ('0'.toNat + (v - 52))
  else if v = 62 then '+'
  else '/'

def sextet? (c : Char) : Option Nat :=
  if 'A' ≤ c ∧ c ≤ 'Z' then some (c.toNat - 'A'.toNat)
  else if 'a' ≤ c ∧ c ≤ 'z' then some (c.toNat - 'a'.toNat + 26)
  else if '0' ≤ c ∧ c ≤ '9' then some (c.toNat - '0'.toNat + 52)
  else if c = '+' then some 62
  else if c = '/' then some 63
  else none

/-- The number three bytes make up. -/
def groupOf (a b c : UInt8) : Nat := a.toNat * 65536 + b.toNat * 256 + c.toNat

/-- The characters of a number of 24 bits. -/
def groupChars (v : Nat) : List Char :=
  [sextetChar (v / 262144), sextetChar (v / 4096 % 64), sextetChar (v / 64 % 64),
    sextetChar (v % 64)]

def encode : List UInt8 → List Char
  | [] => []
  | [a] => (groupChars (groupOf a 0 0)).take 2 ++ ['=', '=']
  | [a, b] => (groupChars (groupOf a b 0)).take 3 ++ ['=']
  | a :: b :: c :: rest => groupChars (groupOf a b c) ++ encode rest

/-- The bytes of four characters; padding stands for no bits and for a byte less. -/
def decodeGroup (c₀ c₁ c₂ c₃ : Char) : List UInt8 :=
  let sextet c := (sextet? c).getD 0
  let v := sextet c₀ * 262144 + sextet c₁ * 4096 + sextet c₂ * 64 + sextet c₃
  [UInt8.ofNat (v / 65536), UInt8.ofNat (v / 256), UInt8.ofNat v].take
    (if c₂ = '=' then 1 else if c₃ = '=' then 2 else 3)

def decode : List Char → List UInt8
  | c₀ :: c₁ :: c₂ :: c₃ :: rest => decodeGroup c₀ c₁ c₂ c₃ ++ decode rest
  | _ => []

private theorem sextet_sextetChar {v : Nat} (h : v < 64) : (sextet? (sextetChar v)).getD 0 = v := by
  have hall : ∀ k : Fin 64, (sextet? (sextetChar k)).getD 0 = k := by decide
  exact hall ⟨v, h⟩

private theorem sextetChar_ne_pad {v : Nat} (h : v < 64) : sextetChar v ≠ '=' := by
  have hall : ∀ k : Fin 64, sextetChar k ≠ '=' := by decide
  exact hall ⟨v, h⟩

private theorem sextets_sum {v : Nat} (h : v < 16777216) :
    v / 262144 < 64 ∧
      v / 262144 * 262144 + v / 4096 % 64 * 4096 + v / 64 % 64 * 64 + v % 64 = v := by
  omega

private theorem groupOf_lt (a b c : UInt8) : groupOf a b c < 16777216 := by
  have ha := a.toNat_lt
  have hb := b.toNat_lt
  have hc := c.toNat_lt
  rw [groupOf]
  omega

private theorem bytes_groupOf (a b c : UInt8) :
    [UInt8.ofNat (groupOf a b c / 65536), UInt8.ofNat (groupOf a b c / 256),
      UInt8.ofNat (groupOf a b c)] = [a, b, c] := by
  have ha := a.toNat_lt
  have hb := b.toNat_lt
  have hc := c.toNat_lt
  have hbyte {v : Nat} {u : UInt8} (h : v % 256 = u.toNat) : UInt8.ofNat v = u := by
    apply UInt8.toNat_inj.mp
    rw [UInt8.toNat_ofNat', h]
  rw [hbyte (u := a) (by rw [groupOf]; omega), hbyte (u := b) (by rw [groupOf]; omega),
    hbyte (u := c) (by rw [groupOf]; omega)]

private theorem decodeGroup_groupChars (a b c : UInt8) :
    decodeGroup (sextetChar (groupOf a b c / 262144)) (sextetChar (groupOf a b c / 4096 % 64))
      (sextetChar (groupOf a b c / 64 % 64)) (sextetChar (groupOf a b c % 64)) = [a, b, c] := by
  obtain ⟨htop, hsum⟩ := sextets_sum (groupOf_lt a b c)
  have hlow (v : Nat) : v % 64 < 64 := Nat.mod_lt v (by decide)
  rw [decodeGroup, if_neg (sextetChar_ne_pad (hlow _)), if_neg (sextetChar_ne_pad (hlow _))]
  dsimp only
  rw [sextet_sextetChar htop, sextet_sextetChar (hlow _), sextet_sextetChar (hlow _),
    sextet_sextetChar (hlow _), hsum]
  exact bytes_groupOf a b c

private theorem sextet_pad : (sextet? '=').getD 0 = 0 := by decide

private theorem decodeGroup_one (a : UInt8) :
    decodeGroup (sextetChar (groupOf a 0 0 / 262144)) (sextetChar (groupOf a 0 0 / 4096 % 64))
      '=' '=' = [a] := by
  have ha := a.toNat_lt
  have hsum : groupOf a 0 0 / 262144 * 262144 + groupOf a 0 0 / 4096 % 64 * 4096 + 0 * 64 + 0 =
      groupOf a 0 0 := by
    change (a.toNat * 65536 + 0 * 256 + 0) / 262144 * 262144 +
      (a.toNat * 65536 + 0 * 256 + 0) / 4096 % 64 * 4096 + 0 * 64 + 0 =
        a.toNat * 65536 + 0 * 256 + 0
    omega
  rw [decodeGroup, if_pos rfl]
  dsimp only
  rw [sextet_sextetChar (sextets_sum (groupOf_lt a 0 0)).1,
    sextet_sextetChar (Nat.mod_lt _ (by decide)), sextet_pad, hsum, bytes_groupOf]
  rfl

private theorem decodeGroup_two (a b : UInt8) :
    decodeGroup (sextetChar (groupOf a b 0 / 262144)) (sextetChar (groupOf a b 0 / 4096 % 64))
      (sextetChar (groupOf a b 0 / 64 % 64)) '=' = [a, b] := by
  have ha := a.toNat_lt
  have hb := b.toNat_lt
  have hlow (v : Nat) : v % 64 < 64 := Nat.mod_lt v (by decide)
  have hsum : groupOf a b 0 / 262144 * 262144 + groupOf a b 0 / 4096 % 64 * 4096 +
      groupOf a b 0 / 64 % 64 * 64 + 0 = groupOf a b 0 := by
    change (a.toNat * 65536 + b.toNat * 256 + 0) / 262144 * 262144 +
      (a.toNat * 65536 + b.toNat * 256 + 0) / 4096 % 64 * 4096 +
      (a.toNat * 65536 + b.toNat * 256 + 0) / 64 % 64 * 64 + 0 =
        a.toNat * 65536 + b.toNat * 256 + 0
    omega
  rw [decodeGroup, if_neg (sextetChar_ne_pad (hlow _)), if_pos rfl]
  dsimp only
  rw [sextet_sextetChar (sextets_sum (groupOf_lt a b 0)).1, sextet_sextetChar (hlow _),
    sextet_sextetChar (hlow _), sextet_pad, hsum, bytes_groupOf]
  rfl

theorem decode_encode (bs : List UInt8) : decode (encode bs) = bs := by
  induction bs using encode.induct with
  | case1 => rfl
  | case2 a =>
      change decodeGroup _ _ _ _ ++ [] = _
      rw [decodeGroup_one]
      rfl
  | case3 a b =>
      change decodeGroup _ _ _ _ ++ [] = _
      rw [decodeGroup_two]
      rfl
  | case4 a b c rest ih =>
      change decodeGroup _ _ _ _ ++ decode (encode rest) = _
      rw [decodeGroup_groupChars, ih]
      rfl

theorem encode_ne_nil {bs : List UInt8} (h : bs ≠ []) : encode bs ≠ [] := by
  intro hnil
  have hdecode := decode_encode bs
  rw [hnil] at hdecode
  exact h hdecode.symm

theorem forall_mem_encode {P : Char → Prop} (hpad : P '=') (hchar : ∀ v < 64, P (sextetChar v))
    (bs : List UInt8) : ∀ c ∈ encode bs, P c := by
  have hgroup (a b c : UInt8) : ∀ d ∈ groupChars (groupOf a b c), P d := by
    have hlow (v : Nat) : P (sextetChar (v % 64)) := hchar _ (Nat.mod_lt v (by decide))
    simp only [groupChars, List.forall_mem_cons]
    exact ⟨hchar _ (sextets_sum (groupOf_lt a b c)).1, hlow _, hlow _, hlow _, by simp⟩
  induction bs using encode.induct with
  | case1 => exact List.forall_mem_nil P
  | case2 a =>
      intro d hd
      rcases List.mem_append.mp hd with hd | hd
      · exact hgroup a 0 0 d (List.mem_of_mem_take hd)
      · rcases List.mem_pair.mp hd with rfl | rfl
        · exact hpad
        · exact hpad
  | case3 a b =>
      intro d hd
      rcases List.mem_append.mp hd with hd | hd
      · exact hgroup a b 0 d (List.mem_of_mem_take hd)
      · rw [List.mem_singleton.mp hd]
        exact hpad
  | case4 a b c rest ih =>
      intro d hd
      rcases List.mem_append.mp hd with hd | hd
      · exact hgroup a b c d hd
      · exact ih d hd

/-- The encoding that is given with the alphabet. -/
example : encode [0x4d, 0x61, 0x6e, 0x4d, 0x61] = "TWFuTWE=".toList := by decide +kernel

end Base64
