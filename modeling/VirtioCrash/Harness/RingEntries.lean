import VirtioCrash.Harness.Chain
import VirtioCrash.Harness.Request

/-!
# The entries of the avail ring

The descriptor counter of a queue is the number of descriptors placed on it since the last reset,
and a placement that ends a chain publishes the counter itself, cut to 16 bits.
-/

namespace VirtioCrash

open StateProgram Bytes

variable {n : Nat} {ξ : Type}

/-- How many descriptors were placed on a queue since the last reset. -/
def placedOn (i : Fin n) (hist : List Mark) : Nat :=
  ((placements (sinceReset hist)).filter fun p => decide (p.vqIdx = (i : Nat))).length

private theorem placedOn_place (i j : Fin n) (addr : UInt64) (len : UInt32)
    (deviceWritable chainNext : Bool) (hist : List Mark) :
    placedOn j (.place i addr len deviceWritable chainNext :: hist) =
      if j = i then placedOn j hist + 1 else placedOn j hist := by
  have hmark : Mark.place i addr len deviceWritable chainNext ≠ .reset := Mark.noConfusion
  rw [placedOn, sinceReset_cons hist hmark]
  by_cases hj : j = i
  · subst hj
    simp [placements, placedOn]
  · have hne : ¬(i : Nat) = j := fun he => hj (Fin.ext he.symm)
    simp [placements, placedOn, hne, hj]

/-- The descriptor counter of every queue counts the placements. -/
def CountersTrack (w : World n ξ) : Prop :=
  ∀ i, (w.st.vqs i).nextDescIdx = UInt32.ofNat (placedOn i w.hist)

theorem CountersTrack.step {a : Act} {w w' : World n ξ} (hs : Step a w w') (h : CountersTrack w) :
    CountersTrack w' := by
  intro j
  cases hs with
  | place i addr len deviceWritable chainNext w hsize =>
      have hmarks : (w.place i addr len deviceWritable chainNext).hist =
          .place i addr len deviceWritable chainNext :: w.hist := by
        simp [World.place, VqState.placeMarks, hsize]
      rw [hmarks, placedOn_place]
      by_cases hj : j = i
      · subst hj
        rw [if_pos rfl, UInt32.ofNat_add, ← h j]
        simp [World.place, VqState.advance]
      · rw [if_neg hj, ← h j]
        simp [World.place, hj]
  | setSize i requestedSize max w hmax =>
      have hkept : ((w.setVq i { w.st.vqs i with size := vqSize requestedSize max }).st.vqs
          j).nextDescIdx = (w.st.vqs j).nextDescIdx := by
        by_cases hj : j = i
        · subst hj
          simp [World.setVq]
        · simp [World.setVq, hj]
      rw [hkept]
      exact h j
  | bump len w hfit =>
      have hcount : placedOn j (.alloc w.st.bufAlloc len :: w.hist) = placedOn j w.hist := by
        rw [placedOn, sinceReset_cons w.hist Mark.noConfusion]
        rfl
      exact (h j).trans (congrArg UInt32.ofNat hcount.symm)
  | submit vqIdx req w =>
      have hcount : placedOn j (.submit vqIdx req :: w.hist) = placedOn j w.hist := by
        rw [placedOn, sinceReset_cons w.hist Mark.noConfusion]
        rfl
      exact (h j).trans (congrArg UInt32.ofNat hcount.symm)
  | _ => exact h j

theorem countersTrack_afterReset (w : World n ξ) (f : ξ → ξ) :
    CountersTrack (w.afterReset.setExt f) := by
  intro i
  have hnone : placedOn i (w.afterReset.setExt f).hist = 0 := by
    change ((placements (sinceReset (.reset :: w.hist))).filter _).length = 0
    rw [sinceReset_reset]
    rfl
  rw [hnone]
  rfl

/-- The entries that were written on the way from `w` to `w'` where queue `i` publishes next. -/
def ringEntries (i : Fin n) (w w' : World n ξ) : List Nat :=
  (newest w'.trace w.trace).filterMap fun
    | .memWrite gpa data =>
        if gpa = (w.st.vqs i).ringSlot ∧ data.length = 2 then some (ofLe data) else none
    | _ => none

theorem ringEntries_self (i : Fin n) (w : World n ξ) : ringEntries i w w = [] := by
  have hnew := newest_append [] w.trace
  rw [List.nil_append] at hnew
  rw [ringEntries, hnew]
  rfl

private theorem ringSlot_ne_idx (q : VqState) : q.availGpa + 2 ≠ q.ringSlot := by
  intro he
  have hoff := ringSlot_offset q 0 (by decide)
  rw [← he] at hoff
  simp at hoff

theorem ringEntries_place (i : Fin n) (addr : UInt64) (len : UInt32)
    (deviceWritable chainNext : Bool) (w : World n ξ) :
    ringEntries i w (w.place i addr len deviceWritable chainNext) =
      if chainNext then [] else [(w.st.vqs i).nextDescIdx.toNat % 65536] := by
  have htrace : (w.place i addr len deviceWritable chainNext).trace =
      (w.st.vqs i).placeEvents addr len deviceWritable chainNext ++ w.trace := rfl
  have hdesc : (descBytes addr len (descFlags deviceWritable chainNext)
      (w.st.vqs i).descNext).length ≠ 2 := by
    simp [descBytes]
  rw [ringEntries, htrace, newest_append]
  cases chainNext with
  | true => simp [VqState.placeEvents, hdesc]
  | false => simp [VqState.placeEvents, hdesc, ringSlot_ne_idx]

end VirtioCrash
