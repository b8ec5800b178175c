import Mathlib.Data.List.Infix

/-!
# Formatted text

Replacing a substring everywhere in a text and zero-padded decimals, as the `replace` and `%0wd` of
scripting languages do them, on lists of characters. A number can be read off the end of a text
behind a mark that is no digit.
-/

namespace TextFormat

/-- The scan of `replaceAll`; the first `skip` characters belong to a match that was replaced. -/
def replaceFrom (pat new : List Char) : Nat → List Char → List Char
  | _, [] => []
  | skip + 1, _ :: cs => replaceFrom pat new skip cs
  | 0, c :: cs =>
      if pat.isPrefixOf (c :: cs) then new ++ replaceFrom pat new (pat.length - 1) cs
      else c :: replaceFrom pat new 0 cs

/-- The text with `new` for every occurrence of `pat`, from left to right. -/
def replaceAll (pat new s : List Char) : List Char := replaceFrom pat new 0 s

private theorem replaceFrom_skip {pat new s : List Char} {skip : Nat} (h : s.length ≤ skip) :
    replaceFrom pat new skip s = [] := by
  induction s generalizing skip with
  | nil => simp [replaceFrom]
  | cons c cs ih =>
      cases skip with
      | zero => simp at h
      | succ skip => exact ih (by simpa using h)

private theorem not_prefix_append {c d : Char} {ps s : List Char} (hc : c ∉ ps)
    (hs : ¬(c :: ps) <:+: d :: s) : ¬(c :: ps) <+: (d :: s) ++ c :: ps := by
  intro hpre
  rcases List.prefix_or_prefix_of_prefix hpre (List.prefix_append (d :: s) (c :: ps)) with h | h
  · exact hs h.isInfix
  · -- the pattern would go on into its own copy behind the text
    obtain ⟨rest, hrest⟩ := h
    rw [← hrest, List.prefix_append_right_inj] at hpre
    rcases rest with _ | ⟨e, rest⟩
    · rw [List.append_nil] at hrest
      exact hs (hrest ▸ List.infix_rfl)
    · rw [hrest, List.cons_prefix_cons] at hpre
      rw [List.cons_append, List.cons.injEq] at hrest
      apply hc
      rw [← hrest.2, ← hpre.1]
      exact List.mem_append_right s List.mem_cons_self

theorem replaceAll_suffix {c : Char} {ps stem : List Char} (new : List Char) (hc : c ∉ ps)
    (hstem : ¬(c :: ps) <:+: stem) :
    replaceAll (c :: ps) new (stem ++ c :: ps) = stem ++ new := by
  rw [replaceAll]
  induction stem with
  | nil =>
      rw [List.nil_append, List.nil_append, replaceFrom, if_pos (by simp),
        replaceFrom_skip (by simp), List.append_nil]
  | cons d s ih =>
      have hno := not_prefix_append hc hstem
      rw [← List.isPrefixOf_iff_prefix, List.cons_append] at hno
      rw [List.cons_append, replaceFrom, if_neg hno, List.cons_append,
        ih fun h => hstem (h.trans (List.suffix_cons d s).isInfix)]

/-- `"%0wd" % n`. -/
def zeroPadded (width n : Nat) : List Char := List.leftpad width '0' (Nat.toDigits 10 n)

theorem zeroPadded_injective {width m n : Nat} (h : zeroPadded width m = zeroPadded width n) :
    m = n := by
  have hread (k : Nat) : Nat.ofDigitChars 10 (zeroPadded width k) 0 = k := by
    rw [zeroPadded, List.leftpad, Nat.ofDigitChars_append, Nat.ofDigitChars_replicate_zero,
      Nat.mul_zero, Nat.ofDigitChars_ten_toDigits]
  rw [← hread m, h, hread n]

theorem isDigit_of_mem_zeroPadded {width n : Nat} {c : Char} (h : c ∈ zeroPadded width n) :
    c.isDigit = true := by
  rw [zeroPadded, List.leftpad, List.mem_append] at h
  rcases h with hzero | hdigit
  · rw [List.eq_of_mem_replicate hzero]
    rfl
  · exact Nat.isDigit_of_mem_toDigits (by decide) (by decide) hdigit

theorem zeroPadded_ne_nil (width n : Nat) : zeroPadded width n ≠ [] := by
  intro h
  have hnil := (List.append_eq_nil_iff.mp h).2
  exact absurd hnil (by simp)

theorem append_digits_inj {s t ds es : List Char} {c : Char} (hc : c.isDigit = false)
    (hds : ∀ d ∈ ds, d.isDigit = true) (hes : ∀ e ∈ es, e.isDigit = true)
    (h : s ++ c :: ds = t ++ c :: es) : s = t ∧ ds = es := by
  have hlast {s ds : List Char} (hds : ∀ d ∈ ds, d.isDigit = true) :
      (s ++ c :: ds).reverse.takeWhile Char.isDigit = ds.reverse := by
    rw [List.reverse_append, List.reverse_cons, List.append_assoc,
      List.takeWhile_append_of_pos (by simpa using hds), List.singleton_append,
      List.takeWhile_cons_of_neg (by simp [hc]), List.append_nil]
  have hdigits : ds = es := by
    rw [← List.reverse_inj, ← hlast hds, h, hlast hes]
  subst hdigits
  exact ⟨List.append_cancel_right h, rfl⟩

end TextFormat
