import Mathlib.Data.List.Basic

/-!
# Byte strings in text format

The inside of a double-quoted string of the protobuf text format: a printable character stands for
its own byte, and a backslash with one to three octal digits, taken greedily, for one byte. A
spelling is self-delimiting when the reader takes it for its byte whatever follows; a text made of
such spellings is read byte by byte.
-/

namespace TextLiteral

def isOctalDigit (c : Char) : Bool :=
  48 ≤ c.toNat && c.toNat ≤ 55

def octalValue (c : Char) : Nat :=
  c.toNat - 48

def isPrintable (c : Char) : Bool :=
  32 ≤ c.toNat && c.toNat ≤ 126

/-- Characters that stand for themselves. -/
def isPlain (c : Char) : Bool :=
  isPrintable c && c != '"' && c != '\\'

/-- Where the reader is: between spellings, behind a backslash, or behind `n` digits that make `v`
so far. -/
inductive Position where
  | between
  | escape
  | octal (n v : Nat)

/-- Read from a position to the end of the text. -/
def readFrom : Position → List Char → Option (List UInt8)
  | .between, [] => some []
  | .between, c :: cs =>
      if c = '\\' then readFrom .escape cs
      else if isPlain c then (readFrom .between cs).map (UInt8.ofNat c.toNat :: ·)
      else none
  | .escape, [] => none
  | .escape, c :: cs =>
      if isOctalDigit c then readFrom (.octal 1 (octalValue c)) cs else none
  | .octal _ v, [] => some [UInt8.ofNat v]
  | .octal n v, c :: cs =>
      if n < 3 && isOctalDigit c then readFrom (.octal (n + 1) (8 * v + octalValue c)) cs
      -- the escape ends here, and `c` is read as between two spellings
      else if c = '\\' then (readFrom .escape cs).map (UInt8.ofNat v :: ·)
      else if isPlain c then
        (readFrom .between cs).map fun bs => UInt8.ofNat v :: UInt8.ofNat c.toNat :: bs
      else none

/-- The bytes that the inside of a quoted string denotes. -/
def readInside (cs : List Char) : Option (List UInt8) :=
  readFrom .between cs

/-- `cs` is read as the byte `x`, whatever follows. -/
def Spells (cs : List Char) (x : UInt8) : Prop :=
  ∀ rest, readFrom .between (cs ++ rest) = (readFrom .between rest).map (x :: ·)

theorem spells_plain {c : Char} (h : isPlain c) : Spells [c] (UInt8.ofNat c.toNat) := by
  intro rest
  have hc : c ≠ '\\' := by
    intro hc
    simp [isPlain, hc] at h
  simp only [List.singleton_append, readFrom, hc, h, ↓reduceIte]

private theorem readFrom_octal_three (v : Nat) (rest : List Char) :
    readFrom (.octal 3 v) rest = (readFrom .between rest).map (UInt8.ofNat v :: ·) := by
  cases rest with
  | nil => rfl
  | cons c cs =>
      simp only [readFrom, Nat.lt_irrefl, decide_false, Bool.false_and, Bool.false_eq_true,
        ↓reduceIte]
      split
      · rfl
      · split
        · rw [Option.map_map]
          rfl
        · rfl

theorem spells_octal {d₁ d₂ d₃ : Char} (h₁ : isOctalDigit d₁) (h₂ : isOctalDigit d₂)
    (h₃ : isOctalDigit d₃) :
    Spells ['\\', d₁, d₂, d₃]
      (UInt8.ofNat (8 * (8 * octalValue d₁ + octalValue d₂) + octalValue d₃)) := by
  intro rest
  rw [← readFrom_octal_three]
  simp [readFrom, h₁, h₂, h₃]

-- Two digits are not enough: a digit that follows would join them.
example : readInside ['\\', '1', '2', '3'] = some [0o123] := rfl

/-- A text made of self-delimiting spellings is read byte by byte. -/
theorem readInside_flatMap {f : UInt8 → List Char} (hf : ∀ x, Spells (f x) x) (b : List UInt8) :
    readInside (b.flatMap f) = some b := by
  induction b with
  | nil => rfl
  | cons x b ih =>
      rw [List.flatMap_cons, readInside, hf x, ← readInside, ih]
      rfl

/-- Every backslash of the text starts an escape of three octal digits. -/
def OctalOnly (cs : List Char) : Prop :=
  ∀ pre post, cs = pre ++ '\\' :: post →
    ∃ d₁ d₂ d₃ rest, post = d₁ :: d₂ :: d₃ :: rest ∧
      isOctalDigit d₁ ∧ isOctalDigit d₂ ∧ isOctalDigit d₃

theorem octalOnly_of_notMem {cs : List Char} (h : '\\' ∉ cs) : OctalOnly cs := by
  intro pre post hcs
  exact absurd (by simp [hcs]) h

theorem OctalOnly.append {cs cs' : List Char} (h : OctalOnly cs) (h' : OctalOnly cs') :
    OctalOnly (cs ++ cs') := by
  intro pre post heq
  rcases List.append_eq_append_iff.mp heq with ⟨as, rfl, h₂⟩ | ⟨bs, h₁, h₂⟩
  · exact h' as post h₂
  · cases bs with
    | nil => exact h' [] post h₂.symm
    | cons c bs =>
        obtain ⟨rfl, rfl⟩ := List.cons_eq_cons.mp h₂
        obtain ⟨d₁, d₂, d₃, rest, rfl, hd⟩ := h pre bs h₁
        exact ⟨d₁, d₂, d₃, rest ++ cs', rfl, hd⟩

theorem octalOnly_octal {d₁ d₂ d₃ : Char} (h₁ : isOctalDigit d₁) (h₂ : isOctalDigit d₂)
    (h₃ : isOctalDigit d₃) : OctalOnly ['\\', d₁, d₂, d₃] := by
  have hd : '\\' ∉ [d₁, d₂, d₃] := by
    intro hmem
    simp only [List.mem_cons, List.not_mem_nil, or_false] at hmem
    rcases hmem with rfl | rfl | rfl
    · exact absurd h₁ (by decide)
    · exact absurd h₂ (by decide)
    · exact absurd h₃ (by decide)
  intro pre post heq
  cases pre with
  | nil =>
      obtain ⟨-, rfl⟩ := List.cons_eq_cons.mp heq
      exact ⟨d₁, d₂, d₃, [], rfl, h₁, h₂, h₃⟩
  | cons c pre =>
      obtain ⟨-, hpost⟩ := List.cons_eq_cons.mp heq
      exact absurd (by rw [hpost]; simp) hd

theorem octalOnly_flatMap {f : UInt8 → List Char} (hf : ∀ x, OctalOnly (f x)) (b : List UInt8) :
    OctalOnly (b.flatMap f) := by
  induction b with
  | nil => exact octalOnly_of_notMem List.not_mem_nil
  | cons x b ih => exact (hf x).append ih

end TextLiteral
