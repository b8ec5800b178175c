import Mathlib.Data.List.Range
import VirtioCrash.Lib.BumpAllocator

/-!
# Tilings

A list of ranges tiles an interval when each starts where the one before it stops, from the lower
end of the interval to the upper one.
-/

namespace BumpAllocator

/-- The ranges follow one another from `a` to `b`. -/
def Tiles : Nat → List Range → Nat → Prop
  | a, [], b => a = b
  | a, r :: rs, b => r.start = a ∧ Tiles r.stop rs b

/-- `count` ranges of `size` each, one after another from `a`. -/
def blocks (a size count : Nat) : List Range :=
  (List.range count).map fun i => ⟨a + i * size, size⟩

namespace Tiles

variable {a b c : Nat} {rs ss : List Range}

theorem append (h : Tiles a rs b) (h' : Tiles b ss c) : Tiles a (rs ++ ss) c := by
  induction rs generalizing a with
  | nil =>
      subst h
      exact h'
  | cons r rs ih => exact ⟨h.1, ih h.2⟩

theorem le (h : Tiles a rs b) : a ≤ b := by
  induction rs generalizing a with
  | nil => exact Nat.le_of_eq h
  | cons r rs ih =>
      have hrest := ih h.2
      have hstart := h.1
      simp only [Range.stop] at hrest
      omega

theorem inside (h : Tiles a rs b) {r : Range} (hr : r ∈ rs) : a ≤ r.start ∧ r.stop ≤ b := by
  induction rs generalizing a with
  | nil => cases hr
  | cons s rs ih =>
      have hstart := h.1
      rcases List.mem_cons.mp hr with rfl | hr
      · exact ⟨Nat.le_of_eq hstart.symm, le h.2⟩
      · have hin := ih h.2 hr
        simp only [Range.stop] at hin ⊢
        omega

/-- No two tiles overlap. -/
theorem disjoint (h : Tiles a rs b) : rs.Pairwise Range.Disjoint := by
  induction rs generalizing a with
  | nil => exact List.Pairwise.nil
  | cons r rs ih =>
      apply List.Pairwise.cons
      · intro s hs
        exact Or.inl (inside h.2 hs).1
      · exact ih h.2

end Tiles

theorem tiles_blocks (a size count : Nat) : Tiles a (blocks a size count) (a + count * size) := by
  induction count with
  | zero => simp [blocks, Tiles]
  | succ count ih =>
      rw [blocks, List.range_succ, List.map_append]
      apply ih.append
      refine ⟨rfl, ?_⟩
      change a + count * size + size = a + (count + 1) * size
      rw [Nat.add_mul, Nat.one_mul, Nat.add_assoc]

end BumpAllocator
