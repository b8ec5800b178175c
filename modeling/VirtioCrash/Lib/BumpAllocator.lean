import Mathlib.Data.List.Pairwise
import Mathlib.Data.Nat.Basic

/-!
# Bump allocation

A bump allocator hands out the range at its pointer and moves the pointer past it. `Packed` is
what holds of its pointer and of everything it handed out.
-/

namespace BumpAllocator

structure Range where
  start : Nat
  len : Nat
  deriving DecidableEq

namespace Range

def stop (r : Range) : Nat := r.start + r.len

def Disjoint (r s : Range) : Prop := r.stop ≤ s.start ∨ s.stop ≤ r.start

instance (r s : Range) : Decidable (r.Disjoint s) := inferInstanceAs (Decidable (_ ∨ _))

instance : Std.Symm Range.Disjoint where
  symm _ _ := Or.symm

theorem disjoint_of_le {r s : Range} {mid : Nat} (hr : r.stop ≤ mid) (hs : mid ≤ s.start) :
    r.Disjoint s :=
  Or.inl (Nat.le_trans hr hs)

end Range

/-- The pointer `next` stays aligned inside `[base, limit]`, and the ranges handed out are
aligned, inside `[base, next)` and pairwise disjoint. -/
structure Packed (align base limit next : Nat) (ranges : List Range) : Prop where
  base_le : base ≤ next
  next_le : next ≤ limit
  next_aligned : align ∣ next
  aligned : ∀ r ∈ ranges, align ∣ r.start
  inside : ∀ r ∈ ranges, base ≤ r.start ∧ r.stop ≤ next
  disjoint : ranges.Pairwise Range.Disjoint

theorem Packed.unused {align base limit next : Nat} (hbase : base ≤ next) (hle : next ≤ limit)
    (haligned : align ∣ next) : Packed align base limit next [] where
  base_le := hbase
  next_le := hle
  next_aligned := haligned
  aligned := by simp
  inside := by simp
  disjoint := List.Pairwise.nil

theorem Packed.empty {align base limit : Nat} (hle : base ≤ limit) (hbase : align ∣ base) :
    Packed align base limit base [] :=
  .unused (Nat.le_refl base) hle hbase

/-- Handing out the range at the pointer keeps the allocator packed. -/
theorem Packed.bump {align base limit next next' len : Nat} {ranges : List Range}
    (h : Packed align base limit next ranges) (hlen : next + len ≤ next') (hlim : next' ≤ limit)
    (haligned : align ∣ next') :
    Packed align base limit next' (⟨next, len⟩ :: ranges) where
  base_le := by
    have := h.base_le
    omega
  next_le := hlim
  next_aligned := haligned
  aligned := by
    intro r hr
    rcases List.mem_cons.mp hr with rfl | hr
    · exact h.next_aligned
    · exact h.aligned r hr
  inside := by
    intro r hr
    rcases List.mem_cons.mp hr with rfl | hr
    · exact ⟨h.base_le, hlen⟩
    · have hin := h.inside r hr
      exact ⟨hin.1, by omega⟩
  disjoint := by
    refine List.pairwise_cons.mpr ⟨?_, h.disjoint⟩
    intro r hr
    exact Or.inr (h.inside r hr).2

theorem Packed.apart {align base limit next : Nat} {ranges : List Range}
    (h : Packed align base limit next ranges) {r s : Range} (hr : r ∈ ranges) (hs : s ∈ ranges)
    (hne : r ≠ s) : r.Disjoint s :=
  h.disjoint.forall hr hs hne

end BumpAllocator
