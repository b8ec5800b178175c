import Mathlib.Data.List.Perm.Basic
import Mathlib.Data.Stream.Init

/-!
# Random draws

A source of random numbers is the stream of what it returns; a function that draws from it is a
state program over the rest of the stream. What holds for every stream holds for every outcome of
the draws, and every outcome comes from some stream.
-/

namespace Draws

open Stream'

variable {α : Type}

/-- A computation that draws random numbers. -/
abbrev Random (α : Type) := StateM (Stream' Nat) α

/-- A number below `n`. -/
def below (n : Nat) (h : 0 < n) : Random (Fin n) :=
  fun src => (⟨src.head % n, Nat.mod_lt _ h⟩, src.tail)

/-- A number from `lo` on, below `hi`. -/
def randrange (lo hi : Nat) (h : lo < hi) : Random {i : Nat // lo ≤ i ∧ i < hi} := do
  let k ← below (hi - lo) (by omega)
  return ⟨lo + k, by omega, by omega⟩

/-- A number from `lo` to `hi`. -/
def randint (lo hi : Nat) (h : lo ≤ hi) : Random {i : Nat // lo ≤ i ∧ i < hi + 1} :=
  randrange lo (hi + 1) (by omega)

/-- One of the elements of a list. -/
def choice (xs : List α) (h : 0 < xs.length) : Random α := do
  let i ← below xs.length h
  return xs[i]

/-- The passes of the shuffle from position `i` down: each of them swaps the element there with one
at or before it. -/
def shuffleFrom : Nat → List α → Random (List α)
  | 0, xs => pure xs
  | i + 1, xs => do
      let j ← below (i + 2) (by omega)
      shuffleFrom i (xs.swap (i + 1) j)

/-- The list in random order. -/
def shuffle (xs : List α) : Random (List α) := shuffleFrom (xs.length - 1) xs

private theorem shuffleFrom_perm (i : Nat) (xs : List α) (src : Stream' Nat) :
    ((shuffleFrom i xs).run src).1.Perm xs := by
  induction i generalizing xs src with
  | zero => exact List.Perm.refl xs
  | succ i ih => exact (ih _ _).trans (List.swap_perm xs _ _)

theorem shuffle_perm (xs : List α) (src : Stream' Nat) : ((shuffle xs).run src).1.Perm xs :=
  shuffleFrom_perm _ xs src

private theorem take_perm_of_drop_eq {xs ys : List α} (k : Nat) (hperm : xs.Perm ys)
    (hdrop : xs.drop k = ys.drop k) : (xs.take k).Perm (ys.take k) := by
  have hsplit : (xs.take k ++ xs.drop k).Perm (ys.take k ++ xs.drop k) := by
    rwa [List.take_append_drop, hdrop, List.take_append_drop]
  exact (List.perm_append_right_iff _).mp hsplit

/-- Every permutation of the first `i + 1` elements is an outcome of the passes from `i` down. -/
private theorem exists_shuffleFrom_eq (i : Nat) {xs ys : List α} (hi : i < xs.length)
    (hperm : xs.Perm ys) (hdrop : xs.drop (i + 1) = ys.drop (i + 1)) :
    ∃ src, ((shuffleFrom i xs).run src).1 = ys := by
  induction i generalizing xs with
  | zero =>
      obtain ⟨x, xs, rfl⟩ := List.exists_cons_of_length_pos hi
      obtain ⟨y, ys, rfl⟩ := List.exists_cons_of_length_pos (hperm.length_eq ▸ hi)
      have htake := take_perm_of_drop_eq 1 hperm hdrop
      have hhead : x = y := by simpa using htake
      have htail : xs = ys := hdrop
      exact ⟨Stream'.const 0, by rw [hhead, htail]; rfl⟩
  | succ i ih =>
      have hlen := hperm.length_eq
      have hi' : i + 1 < ys.length := hlen ▸ hi
      -- the element that has to end up at position `i + 1` is at or before it
      have hmem : ys[i + 1] ∈ xs.take (i + 2) := by
        rw [(take_perm_of_drop_eq (i + 2) hperm hdrop).mem_iff, List.mem_take_iff_getElem]
        exact ⟨i + 1, by omega, rfl⟩
      obtain ⟨j, hj, hget⟩ := List.mem_take_iff_getElem.mp hmem
      have hswap : (xs.swap (i + 1) j).drop (i + 1) = ys.drop (i + 1) := by
        rw [List.drop_eq_getElem_cons (by simpa using hi),
          List.drop_eq_getElem_cons hi']
        congr 1
        · rw [List.getElem_swap_left_of_lt (by omega), hget]
        · rw [← hdrop]
          apply List.ext_getElem (by simp)
          intro k hk hk'
          simp only [List.getElem_drop]
          exact List.getElem_swap_of_ne (by omega) (by omega) _
      obtain ⟨src, hsrc⟩ := ih (by simp; omega) ((List.swap_perm xs _ _).trans hperm) hswap
      have hdraw : j % (i + 2) = j := Nat.mod_eq_of_lt (by omega)
      refine ⟨Stream'.cons j src, ?_⟩
      rw [← hsrc]
      change ((shuffleFrom i (xs.swap (i + 1) (j % (i + 2)))).run src).1 = _
      rw [hdraw]

/-- The outcomes of a shuffle are exactly the permutations. -/
theorem exists_shuffle_eq_iff (xs ys : List α) :
    (∃ src, ((shuffle xs).run src).1 = ys) ↔ xs.Perm ys := by
  constructor
  · rintro ⟨src, rfl⟩
    exact (shuffle_perm xs src).symm
  · intro hperm
    rcases xs with _ | ⟨x, xs⟩
    · exact ⟨Stream'.const 0, (List.nil_perm.mp hperm).symm⟩
    · have hlen := hperm.length_eq
      apply exists_shuffleFrom_eq _ (by simp) hperm
      rw [List.drop_eq_nil_of_le (by simp), List.drop_eq_nil_of_le (by simp [← hlen])]

end Draws
