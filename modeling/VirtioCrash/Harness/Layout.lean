import VirtioCrash.Harness.PoolInvariant
import Mathlib.Tactic.IntervalCases

/-!
# Queue sizes and queue areas

The size `op_vq_setup` settles on is the largest power of two below the request and the device's
maximum. The areas of the queues lie in fixed strides of `kVqStride` bytes below the buffer pool,
so they are apart exactly as long as every size fits its stride.
-/

namespace VirtioCrash

open StateProgram BumpAllocator Relation

variable {n : Nat} {ξ : Type}

theorem clearLowBits_toNat (fuel : Nat) (size : UInt32) :
    (clearLowBits fuel size).toNat = BitClear.clearLoop fuel size.toNat := by
  induction fuel generalizing size with
  | zero => rfl
  | succ fuel ih =>
      have hpred (h : size ≠ 0) : (size - 1).toNat = size.toNat - 1 := by
        have hpos : 1 ≤ size.toNat := by
          have hne : size.toNat ≠ 0 := fun hz => h (UInt32.toNat_inj.mp hz)
          omega
        exact UInt32.toNat_sub_of_le size 1 (UInt32.le_iff_toNat_le.mpr hpos)
      rw [clearLowBits, BitClear.clearLoop]
      by_cases h : size = 0
      · subst h
        rfl
      · have hne : size.toNat ≠ 0 := fun hz => h (UInt32.toNat_inj.mp hz)
        have hand : (size &&& (size - 1)).toNat = size.toNat &&& (size.toNat - 1) := by
          rw [UInt32.toNat_and, hpred h]
        have hiff : size &&& (size - 1) ≠ 0 ↔ size.toNat &&& (size.toNat - 1) ≠ 0 := by
          rw [← hand, ne_eq, ne_eq, ← UInt32.toNat_inj]
          rfl
        by_cases hclear : size &&& (size - 1) = 0
        · rw [if_neg (by simp [hclear]), if_neg (by simp [← hand, hclear])]
        · rw [if_pos ⟨h, hclear⟩, if_pos ⟨hne, hiff.mp hclear⟩, ih, hand]

/-- The request `op_vq_setup` works with, capped by the device. -/
def cappedSize (requestedSize max : UInt32) : Nat :=
  min (if requestedSize ≠ 0 then requestedSize.toNat else 64) max.toNat

theorem cappedSize_ne_zero (requestedSize : UInt32) {max : UInt32} (hmax : max ≠ 0) :
    cappedSize requestedSize max ≠ 0 := by
  have hmaxNat : max.toNat ≠ 0 := fun hz => hmax (UInt32.toNat_inj.mp hz)
  rw [cappedSize]
  split
  · rename_i h
    have hreq : requestedSize.toNat ≠ 0 := fun hz => h (UInt32.toNat_inj.mp hz)
    omega
  · omega

theorem vqSize_toNat (requestedSize max : UInt32) (hmax : max ≠ 0) :
    (vqSize requestedSize max).toNat = 2 ^ (cappedSize requestedSize max).log2 := by
  have hreq : (if requestedSize ≠ 0 then requestedSize else 64).toNat =
      if requestedSize ≠ 0 then requestedSize.toNat else 64 := by
    split <;> rfl
  generalize hr : (if requestedSize ≠ 0 then requestedSize else 64) = r at hreq
  have hcap : (if r > max then max else r).toNat = cappedSize requestedSize max := by
    rw [cappedSize, ← hreq]
    split
    · rename_i h
      have hlt := UInt32.lt_iff_toNat_lt.mp h
      omega
    · rename_i h
      have hle : ¬max.toNat < r.toNat := fun hlt => h (UInt32.lt_iff_toNat_lt.mpr hlt)
      omega
  have hne := cappedSize_ne_zero requestedSize hmax
  have hlt : cappedSize requestedSize max < 2 ^ 32 := by
    rw [← hcap]
    exact UInt32.toNat_lt _
  have hloop := BitClear.clearLoop_eq hne hlt
  rw [← hcap, ← clearLowBits_toNat, hcap] at hloop
  have hpos := Nat.two_pow_pos (cappedSize requestedSize max).log2
  simp only [vqSize, hr]
  rw [if_neg, hloop]
  intro hz
  rw [hz] at hloop
  simp only [UInt32.toNat_zero] at hloop
  omega

/-- A size stays within the 256 descriptors of a table page exactly when the capped request is
below the next power of two. -/
theorem vqSize_le_iff (requestedSize max : UInt32) (hmax : max ≠ 0) :
    (vqSize requestedSize max).toNat ≤ 256 ↔ cappedSize requestedSize max < 512 := by
  have hne := cappedSize_ne_zero requestedSize hmax
  rw [vqSize_toNat _ _ hmax]
  have h256 : (256 : Nat) = 2 ^ 8 := rfl
  have h512 : (512 : Nat) = 2 ^ 9 := rfl
  rw [h256, h512, Nat.pow_le_pow_iff_right (by omega), ← Nat.log2_lt hne, Nat.lt_succ_iff]

/-- A queue that is set up has a power of two of descriptors. -/
def SizesPow2 (w : World n ξ) : Prop :=
  ∀ i, (w.st.vqs i).size = 0 ∨ ∃ k, (w.st.vqs i).size.toNat = 2 ^ k

theorem SizesPow2.step {a : Act} {w w' : World n ξ} (hs : Step a w w') (h : SizesPow2 w) :
    SizesPow2 w' := by
  intro j
  rcases hs.vq_cases j with hq | ⟨-, chainNext, hq⟩ | ⟨-, requestedSize, max, hmax, hq⟩
  · rw [hq]
    exact h j
  · rw [hq]
    exact h j
  · right
    rw [hq]
    exact ⟨_, vqSize_toNat requestedSize max hmax⟩

/-- The queues' addresses. -/
def vqAddresses (w : World n ξ) (i : Fin n) : UInt64 × UInt64 × UInt64 :=
  ((w.st.vqs i).descGpa, (w.st.vqs i).availGpa, (w.st.vqs i).usedGpa)

theorem Step.vqAddresses_eq {a : Act} {w w' : World n ξ} (hs : Step a w w') (j : Fin n) :
    vqAddresses w' j = vqAddresses w j := by
  rw [vqAddresses, vqAddresses]
  rcases hs.vq_cases j with hq | ⟨-, chainNext, hq⟩ | ⟨-, requestedSize, max, -, hq⟩
  · rw [hq]
  · rw [hq]
    rfl
  · rw [hq]

theorem Steps.vqAddresses_eq {A : List Act} {w w' : World n ξ} (hs : Steps A w w') :
    vqAddresses w' = vqAddresses w :=
  hs.invariant (fun v => vqAddresses v = vqAddresses w)
    (fun _ _ _ _ hstep hv => (funext hstep.vqAddresses_eq).trans hv) rfl

/-- Sizes change only where a queue is set up. -/
theorem Steps.size_eq {A : List Act} (hA : Act.setSize ∉ A) {w w' : World n ξ}
    (hs : Steps A w w') (j : Fin n) : (w'.st.vqs j).size = (w.st.vqs j).size := by
  apply hs.invariant (fun v => (v.st.vqs j).size = (w.st.vqs j).size)
  · intro a ha v v' hstep hv
    rcases hstep.vq_cases j with hq | ⟨-, chainNext, hq⟩ | ⟨hset, -⟩
    · rw [hq]
      exact hv
    · rw [hq]
      exact hv
    · exact absurd (hset ▸ ha) hA
  · rfl

/-- The counters of the queues. -/
def vqCounters (w : World n ξ) (i : Fin n) : UInt32 × UInt32 :=
  ((w.st.vqs i).nextDescIdx, (w.st.vqs i).nextAvailIdx)

theorem Steps.vqCounters_eq {A : List Act} (hA : Act.place ∉ A) {w w' : World n ξ}
    (hs : Steps A w w') (j : Fin n) : vqCounters w' j = vqCounters w j := by
  apply hs.invariant (fun v => vqCounters v j = vqCounters w j)
  · intro a ha v v' hstep hv
    rw [vqCounters] at hv ⊢
    rcases hstep.vq_cases j with hq | ⟨hplace, -⟩ | ⟨-, requestedSize, max, -, hq⟩
    · rw [hq]
      exact hv
    · exact absurd (hplace ▸ ha) hA
    · rw [hq]
      exact hv
  · rfl

namespace VqState

def descArea (q : VqState) : Range := ⟨q.descGpa.toNat, 16 * q.size.toNat⟩
def availArea (q : VqState) : Range := ⟨q.availGpa.toNat, 6 + 2 * q.size.toNat⟩
def usedArea (q : VqState) : Range := ⟨q.usedGpa.toNat, 6 + 8 * q.size.toNat⟩

/-- What the device reads and writes for a queue. -/
def areas (q : VqState) : List Range := [q.descArea, q.availArea, q.usedArea]

end VqState

/-- The buffer pool as a range. -/
def bufPool (n : Nat) : Range := ⟨(kBufPoolBase n).toNat, kBufPoolEndNat - (kBufPoolBase n).toNat⟩

/-- The areas of the queues that are set up are apart from one another and from the pool. -/
structure LayoutSound (w : World n ξ) : Prop where
  apart : ∀ i, (w.st.vqs i).size ≠ 0 → (w.st.vqs i).areas.Pairwise Range.Disjoint
  queues : ∀ i j, i ≠ j → (w.st.vqs i).size ≠ 0 → (w.st.vqs j).size ≠ 0 →
    ∀ r ∈ (w.st.vqs i).areas, ∀ s ∈ (w.st.vqs j).areas, r.Disjoint s
  pool : ∀ i, (w.st.vqs i).size ≠ 0 → ∀ r ∈ (w.st.vqs i).areas, r.Disjoint (bufPool n)

/-- Every queue has the addresses `reset_iteration_state` gives it. -/
def AddressesReset (w : World n ξ) : Prop :=
  ∀ i : Fin n, vqAddresses w i =
    ((resetVq i).descGpa, (resetVq i).availGpa, (resetVq i).usedGpa)

theorem resetVq_toNat {i : Nat} (hi : i < 16) :
    (resetVq i).descGpa.toNat = 0x47000000 + i * 0x3000 ∧
    (resetVq i).availGpa.toNat = 0x47000000 + i * 0x3000 + 0x1000 ∧
    (resetVq i).usedGpa.toNat = 0x47000000 + i * 0x3000 + 0x2000 := by
  interval_cases i <;> decide

theorem kBufPoolBase_toNat {n : Nat} (hn : n ≤ 16) :
    (kBufPoolBase n).toNat = 0x47000000 + n * 0x3000 := by
  interval_cases n <;> decide

section

variable {w : World n ξ}

theorem AddressesReset.toNat (h : AddressesReset w) (hn : n ≤ 16) (i : Fin n) :
    (w.st.vqs i).descGpa.toNat = 0x47000000 + i * 0x3000 ∧
    (w.st.vqs i).availGpa.toNat = 0x47000000 + i * 0x3000 + 0x1000 ∧
    (w.st.vqs i).usedGpa.toNat = 0x47000000 + i * 0x3000 + 0x2000 := by
  have hi := h i
  simp only [vqAddresses, Prod.mk.injEq] at hi
  obtain ⟨hdesc, havail, hused⟩ := hi
  rw [hdesc, havail, hused]
  exact resetVq_toNat (lt_of_lt_of_le i.isLt hn)

private theorem area_inside (h : AddressesReset w) (hn : n ≤ 16) (i : Fin n)
    (hsize : (w.st.vqs i).size.toNat ≤ 256) :
    ∀ r ∈ (w.st.vqs i).areas,
      0x47000000 + i * 0x3000 ≤ r.start ∧ r.stop ≤ 0x47000000 + (i + 1) * 0x3000 := by
  obtain ⟨hdesc, havail, hused⟩ := h.toNat hn i
  intro r hr
  simp only [VqState.areas, List.mem_cons, List.not_mem_nil, or_false] at hr
  rcases hr with rfl | rfl | rfl
  · simp only [VqState.descArea, Range.stop]
    omega
  · simp only [VqState.availArea, Range.stop]
    omega
  · simp only [VqState.usedArea, Range.stop]
    omega

/-- The layout is sound exactly while no queue has more descriptors than its table page holds. -/
theorem layoutSound_iff (h : AddressesReset w) (hn : n ≤ 16) :
    LayoutSound w ↔ ∀ i, (w.st.vqs i).size.toNat ≤ 256 := by
  constructor
  · intro hs i
    by_contra hbig
    have hne : (w.st.vqs i).size ≠ 0 := by
      intro hz
      simp [hz] at hbig
    -- the table of a larger queue runs into the avail ring behind it
    have hpair := hs.apart i hne
    have hdisj : (w.st.vqs i).descArea.Disjoint (w.st.vqs i).availArea :=
      (List.pairwise_cons.mp hpair).1 _ (by simp)
    obtain ⟨hdesc, havail, -⟩ := h.toNat hn i
    simp only [Range.Disjoint, Range.stop, VqState.descArea, VqState.availArea] at hdisj
    omega
  · intro hsize
    have hbase := kBufPoolBase_toNat hn
    constructor
    · intro i _
      obtain ⟨hdesc, havail, hused⟩ := h.toNat hn i
      have hi := hsize i
      simp only [VqState.areas, List.pairwise_cons, List.mem_cons, List.not_mem_nil, or_false,
        forall_eq_or_imp, forall_eq, Range.Disjoint, Range.stop, VqState.descArea,
        VqState.availArea, VqState.usedArea]
      refine ⟨⟨Or.inl ?_, Or.inl ?_⟩, Or.inl ?_, ?_⟩
      · omega
      · omega
      · omega
      · simp
    · intro i j hij _ _ r hr s hs
      have hri := area_inside h hn i (hsize i) r hr
      have hsj := area_inside h hn j (hsize j) s hs
      rcases Nat.lt_or_gt_of_ne (fun he => hij (Fin.ext he)) with hlt | hlt
      · have hmul : (i.val + 1) * 0x3000 ≤ j.val * 0x3000 := Nat.mul_le_mul_right _ hlt
        exact Or.inl (by omega)
      · have hmul : (j.val + 1) * 0x3000 ≤ i.val * 0x3000 := Nat.mul_le_mul_right _ hlt
        exact Or.inr (by omega)
    · intro i _ r hr
      have hri := area_inside h hn i (hsize i) r hr
      have hmul : (i.val + 1) * 0x3000 ≤ n * 0x3000 := Nat.mul_le_mul_right _ i.isLt
      refine Or.inl ?_
      simp only [bufPool]
      omega

end

end VirtioCrash
