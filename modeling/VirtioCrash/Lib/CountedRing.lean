import Mathlib.Data.Nat.ModEq
import Mathlib.Data.List.Basic
import Mathlib.Logic.Function.Basic
import Mathlib.Logic.Relation

/-!
# Rings addressed by counters

A ring of `size` slots between one producer and one consumer, each with a counter that only grows:
element number `k` goes to slot `k % size`. While no more than `size` elements are outstanding, the
consumer reads what was published, in order and each of them once.
-/

namespace CountedRing

theorem slot_ne {size j k : Nat} (hjk : j < k) (hlap : k < j + size) : j % size ≠ k % size := by
  intro h
  have hdvd : size ∣ k - j := (Nat.modEq_iff_dvd' hjk.le).mp h
  have hle := Nat.le_of_dvd (by omega) hdvd
  omega

variable {α : Type}

theorem getElem?_concat_cases {xs : List α} {x y : α} {k : Nat} (h : (xs ++ [x])[k]? = some y) :
    (k < xs.length ∧ xs[k]? = some y) ∨ (k = xs.length ∧ y = x) := by
  have hlt := (List.getElem?_eq_some_iff.mp h).1
  rw [List.length_append, List.length_singleton] at hlt
  rcases (Nat.le_of_lt_succ hlt).lt_or_eq with hold | rfl
  · rw [List.getElem?_append_left hold] at h
    exact Or.inl ⟨hold, h⟩
  · rw [List.getElem?_concat_length, Option.some.injEq] at h
    exact Or.inr ⟨rfl, h.symm⟩

/-- The slots, and what went in and came out of them so far. -/
structure Ring (α : Type) where
  slots : Nat → α
  published : List α
  read : List α

inductive Step (size : Nat) : Ring α → Ring α → Prop
  | publish (r : Ring α) (x : α) (hroom : r.published.length < r.read.length + size) :
      Step size r
        { r with
          slots := Function.update r.slots (r.published.length % size) x
          published := r.published ++ [x] }
  | consume (r : Ring α) (hmore : r.read.length < r.published.length) :
      Step size r { r with read := r.read ++ [r.slots (r.read.length % size)] }

/-- The elements that were not read yet are all in their slots. -/
structure Sound (size : Nat) (r : Ring α) : Prop where
  room : r.published.length ≤ r.read.length + size
  inOrder : r.read <+: r.published
  kept : ∀ k x, r.read.length ≤ k → r.published[k]? = some x → r.slots (k % size) = x

theorem sound_start (size : Nat) (slots : Nat → α) : Sound size ⟨slots, [], []⟩ where
  room := Nat.zero_le _
  inOrder := List.prefix_rfl
  kept k x _ hx := by simp at hx

theorem Sound.step {size : Nat} {r r' : Ring α} (hs : Step size r r') (h : Sound size r) :
    Sound size r' := by
  cases hs with
  | publish x hroom =>
      refine ⟨?_, h.inOrder.trans (List.prefix_append _ _), ?_⟩
      · rw [List.length_append, List.length_singleton]
        exact hroom
      · intro k y hk hy
        rcases getElem?_concat_cases hy with ⟨hlt, hy⟩ | ⟨rfl, rfl⟩
        · have hread : r.read.length ≤ k := hk
          have hlap : r.published.length < k + size := by omega
          have hother := Function.update_of_ne (slot_ne hlt hlap) x r.slots
          exact hother.trans (h.kept k y hread hy)
        · exact Function.update_self _ y r.slots
  | consume hmore =>
      have hnext : r.published[r.read.length]? = some (r.slots (r.read.length % size)) := by
        rw [List.getElem?_eq_getElem hmore]
        exact congrArg some (h.kept _ _ le_rfl (List.getElem?_eq_getElem hmore)).symm
      refine ⟨?_, ?_, ?_⟩
      · have hroom := h.room
        change r.published.length ≤ (r.read ++ [_]).length + size
        rw [List.length_append, List.length_singleton]
        omega
      · obtain ⟨rest, hrest⟩ := h.inOrder
        rw [← hrest, List.getElem?_append_right le_rfl, Nat.sub_self] at hnext
        rcases rest with _ | ⟨y, rest⟩
        · simp at hnext
        · refine ⟨rest, ?_⟩
          rw [← hrest, ← Option.some.inj hnext, List.append_assoc]
          rfl
      · intro k x hk hx
        rw [List.length_append, List.length_singleton] at hk
        exact h.kept k x (by omega) hx

/-- Whatever was published and consumed so far, in whatever turns. -/
theorem sound_of_steps {size : Nat} {slots : Nat → α} {r : Ring α}
    (h : Relation.ReflTransGen (Step size) ⟨slots, [], []⟩ r) : Sound size r := by
  induction h with
  | refl => exact sound_start size slots
  | tail _ hlast ih => exact ih.step hlast

/-- Counters of both sides that are cut to `bound` tell when the consumer has read everything. -/
theorem Sound.drained_iff {size : Nat} {r : Ring α} (h : Sound size r) (bound : Nat)
    (hbound : size < bound) :
    r.read.length % bound = r.published.length % bound ↔ r.read = r.published := by
  constructor
  · intro hmod
    have hle := h.inOrder.length_le
    have hroom := h.room
    apply h.inOrder.eq_of_length
    by_contra hne
    have hslot : r.read.length % bound ≠ r.published.length % bound :=
      slot_ne (by omega) (by omega)
    exact hslot hmod
  · intro heq
    rw [heq]

end CountedRing
