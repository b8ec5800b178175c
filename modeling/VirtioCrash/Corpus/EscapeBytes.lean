import Mathlib.Data.UInt
import Mathlib.Data.Nat.Digits.Defs
import VirtioCrash.Lib.TextLiteral

/-!
# Byte strings of the seed corpora

`escape_bytes` of the corpus generators in `scripts/oss-fuzz/`: the ten generators carry the same
function, and every bytes field of a seed is its output between double quotes. The text is read
back to the same bytes, and nothing in it could end the string or be taken for another escape.
-/

namespace VirtioCrash.Corpus

open TextLiteral

/-- `'%03o' % n`. -/
def percent03o (n : Nat) : String :=
  String.ofList (List.leftpad 3 '0' (Nat.toDigits 8 n))

/-- What the loop of `escape_bytes` appends for one byte. -/
def escapeByte (x : UInt8) : String :=
  if 32 ≤ x.toNat ∧ x.toNat < 127 ∧ x.toNat ∉ ['"'.toNat, '\\'.toNat] then
    String.singleton (Char.ofNat x.toNat)
  else "\\" ++ percent03o x.toNat

def escapeBytes (b : List UInt8) : String :=
  String.join (b.map escapeByte)

private theorem toList_escapeBytes (b : List UInt8) :
    (escapeBytes b).toList = b.flatMap fun x => (escapeByte x).toList := by
  rw [escapeBytes, String.toList_join, List.flatMap_map]

/-- The two kinds of spelling `escape_bytes` writes for `x`. -/
inductive Spelling (x : UInt8) : List Char → Prop
  | plain (c : Char) : isPlain c → UInt8.ofNat c.toNat = x → Spelling x [c]
  | octal (d₁ d₂ d₃ : Char) : isOctalDigit d₁ → isOctalDigit d₂ → isOctalDigit d₃ →
      UInt8.ofNat (8 * (8 * octalValue d₁ + octalValue d₂) + octalValue d₃) = x →
      Spelling x ['\\', d₁, d₂, d₃]

private theorem isPlain_ofNat : ∀ n : Fin 256, 32 ≤ n.val → n.val < 127 →
    n.val ∉ ['"'.toNat, '\\'.toNat] →
    isPlain (Char.ofNat n) ∧ (Char.ofNat n).toNat = n := by
  decide +kernel

private theorem toDigits_byte : ∀ n : Fin 256, List.leftpad 3 '0' (Nat.toDigits 8 n) =
    [Nat.digitChar (n / 64), Nat.digitChar (n / 8 % 8), Nat.digitChar (n % 8)] := by
  decide +kernel

private theorem digitChar_octal : ∀ d : Fin 8,
    isOctalDigit (Nat.digitChar d) ∧ octalValue (Nat.digitChar d) = d := by
  decide

private theorem escapeByte_spelling (x : UInt8) : Spelling x (escapeByte x).toList := by
  have hx : x.toNat < 256 := x.toNat_lt
  rw [escapeByte]
  split
  · next h =>
    obtain ⟨hplain, hval⟩ := isPlain_ofNat ⟨x.toNat, hx⟩ h.1 h.2.1 h.2.2
    rw [String.toList_singleton]
    apply Spelling.plain _ hplain
    rw [hval]
    exact UInt8.ofNat_toNat
  · have hdigits := toDigits_byte ⟨x.toNat, hx⟩
    obtain ⟨h₁, v₁⟩ := digitChar_octal ⟨x.toNat / 64, by omega⟩
    obtain ⟨h₂, v₂⟩ := digitChar_octal ⟨x.toNat / 8 % 8, by omega⟩
    obtain ⟨h₃, v₃⟩ := digitChar_octal ⟨x.toNat % 8, by omega⟩
    dsimp only at hdigits h₁ v₁ h₂ v₂ h₃ v₃
    have hval : 8 * (8 * (x.toNat / 64) + x.toNat / 8 % 8) + x.toNat % 8 = x.toNat := by omega
    rw [String.toList_append, percent03o, hdigits, String.toList_ofList, String.toList_ofList]
    apply Spelling.octal _ _ _ h₁ h₂ h₃
    rw [v₁, v₂, v₃, hval]
    exact UInt8.ofNat_toNat

private theorem Spelling.spells {x : UInt8} {cs : List Char} (h : Spelling x cs) : Spells cs x := by
  cases h with
  | plain c hc hx => exact hx ▸ spells_plain hc
  | octal d₁ d₂ d₃ h₁ h₂ h₃ hx => exact hx ▸ spells_octal h₁ h₂ h₃

private theorem Spelling.octalOnly {x : UInt8} {cs : List Char} (h : Spelling x cs) :
    OctalOnly cs := by
  cases h with
  | plain c hc =>
      apply octalOnly_of_notMem
      intro hmem
      rw [← List.mem_singleton.mp hmem] at hc
      exact absurd hc (by decide)
  | octal d₁ d₂ d₃ h₁ h₂ h₃ => exact octalOnly_octal h₁ h₂ h₃

private theorem Spelling.printable {x : UInt8} {cs : List Char} (h : Spelling x cs) {c : Char}
    (hc : c ∈ cs) : c ≠ '"' ∧ 32 ≤ c.toNat ∧ c.toNat ≤ 126 := by
  have hdigit : ∀ {d : Char}, isOctalDigit d → d ≠ '"' ∧ 32 ≤ d.toNat ∧ d.toNat ≤ 126 := by
    intro d hd
    simp only [isOctalDigit, Bool.and_eq_true, decide_eq_true_eq] at hd
    constructor
    · rintro rfl
      exact absurd hd (by decide)
    · omega
  cases h with
  | plain c' hplain =>
      rw [List.mem_singleton.mp hc]
      simp only [isPlain, isPrintable, Bool.and_eq_true, decide_eq_true_eq, bne_iff_ne] at hplain
      exact ⟨hplain.1.2, hplain.1.1⟩
  | octal d₁ d₂ d₃ h₁ h₂ h₃ =>
      simp only [List.mem_cons, List.not_mem_nil, or_false] at hc
      rcases hc with rfl | rfl | rfl | rfl
      · decide
      · exact hdigit h₁
      · exact hdigit h₂
      · exact hdigit h₃

/-- A text that is one quoted string: nothing ends it early, and its only escapes are octal. -/
structure QuotedText (cs : List Char) : Prop where
  noQuote : '"' ∉ cs
  noNewline : '\n' ∉ cs
  printable : ∀ c ∈ cs, 32 ≤ c.toNat ∧ c.toNat ≤ 126
  octalOnly : OctalOnly cs

private theorem escapeBytes_chars {b : List UInt8} {c : Char} (hc : c ∈ (escapeBytes b).toList) :
    c ≠ '"' ∧ 32 ≤ c.toNat ∧ c.toNat ≤ 126 := by
  rw [toList_escapeBytes, List.mem_flatMap] at hc
  obtain ⟨x, -, hx⟩ := hc
  exact (escapeByte_spelling x).printable hx

theorem escapeBytes_roundTrip (b : List UInt8) :
    readInside (escapeBytes b).toList = some b ∧ QuotedText (escapeBytes b).toList := by
  constructor
  · rw [toList_escapeBytes]
    exact readInside_flatMap (fun x => (escapeByte_spelling x).spells) b
  · constructor
    · intro h
      exact (escapeBytes_chars h).1 rfl
    · intro h
      exact absurd (escapeBytes_chars h).2.1 (by decide)
    · intro c hc
      exact (escapeBytes_chars hc).2
    · rw [toList_escapeBytes]
      exact octalOnly_flatMap (fun x => (escapeByte_spelling x).octalOnly) b

end VirtioCrash.Corpus
