import Mathlib.Logic.Relation

/-!
# Runs of a labelled machine

A machine is a partial step function `step : σ → ℓ → Option σ`. `Run.exec` takes a list of labels,
`Run.Always` says that a condition on the state before each step holds all along a run, and the
induction over runs is stated once.
-/

namespace Run

variable {σ ℓ : Type} (step : σ → ℓ → Option σ)

/-- The state after the labels, when each of them is enabled in turn. -/
def exec : σ → List ℓ → Option σ
  | s, [] => some s
  | s, l :: ls => (step s l).bind fun t => exec t ls

/-- Every step of the run meets the condition in the state before it. -/
def Always (cond : σ → ℓ → Prop) : σ → List ℓ → Prop
  | _, [] => True
  | s, l :: ls => cond s l ∧ ∀ t, step s l = some t → Always cond t ls

variable {step}

instance decidableAlways {cond : σ → ℓ → Prop} [∀ s l, Decidable (cond s l)] :
    (s : σ) → (ls : List ℓ) → Decidable (Always step cond s ls)
  | _, [] => isTrue trivial
  | s, l :: ls =>
      match h : step s l with
      | none =>
          decidable_of_iff (cond s l)
            ⟨fun hc => ⟨hc, fun t ht => by simp [h] at ht⟩, fun hc => hc.1⟩
      | some t =>
          have : Decidable (Always step cond t ls) := decidableAlways t ls
          decidable_of_iff (cond s l ∧ Always step cond t ls)
            ⟨fun hc => ⟨hc.1, fun u hu => by
              rw [h] at hu
              exact Option.some.inj hu ▸ hc.2⟩, fun hc => ⟨hc.1, hc.2 t h⟩⟩

theorem exec_cons {s s' : σ} {l : ℓ} {ls : List ℓ} (h : exec step s (l :: ls) = some s') :
    ∃ t, step s l = some t ∧ exec step t ls = some s' := by
  simpa [exec, Option.bind_eq_some_iff] using h

theorem exec_append (s : σ) (ls ms : List ℓ) :
    exec step s (ls ++ ms) = (exec step s ls).bind fun t => exec step t ms := by
  induction ls generalizing s with
  | nil => rfl
  | cons l ls ih => simp [exec, ih, Option.bind_assoc]

theorem Always.mono {cond cond' : σ → ℓ → Prop} (h : ∀ s l, cond s l → cond' s l) {s : σ}
    {ls : List ℓ} (hc : Always step cond s ls) : Always step cond' s ls := by
  induction ls generalizing s with
  | nil => trivial
  | cons l ls ih => exact ⟨h _ _ hc.1, fun t ht => ih (hc.2 t ht)⟩

theorem always_true (s : σ) (ls : List ℓ) : Always step (fun _ _ => True) s ls := by
  induction ls generalizing s with
  | nil => trivial
  | cons l ls ih => exact ⟨trivial, fun t _ => ih t⟩

/-- An invariant that each step meeting the condition preserves holds after every run whose
steps all meet it. -/
theorem invariant {cond : σ → ℓ → Prop} (inv : σ → Prop)
    (hstep : ∀ s l t, inv s → cond s l → step s l = some t → inv t)
    {s s' : σ} {ls : List ℓ} (hs : inv s) (hc : Always step cond s ls)
    (hr : exec step s ls = some s') : inv s' := by
  induction ls generalizing s with
  | nil => cases hr; exact hs
  | cons l ls ih =>
      obtain ⟨t, ht, hr⟩ := exec_cons hr
      exact ih (hstep s l t hs hc.1 ht) (hc.2 t ht) hr

theorem always_congr {cond cond' : σ → ℓ → Prop} (inv : σ → Prop)
    (hstep : ∀ s l t, inv s → step s l = some t → inv t)
    (hiff : ∀ s l, inv s → (cond s l ↔ cond' s l)) {s : σ} (hs : inv s) (ls : List ℓ) :
    Always step cond s ls ↔ Always step cond' s ls := by
  induction ls generalizing s with
  | nil => exact Iff.rfl
  | cons l ls ih =>
      apply and_congr (hiff s l hs)
      apply forall_congr'
      intro t
      exact imp_congr_right fun ht => ih (hstep s l t hs ht)

/-- What each step preserves exactly under a condition holds in every state of a run exactly when
all steps of the run meet the condition. -/
theorem prefixes_iff_always {cond : σ → ℓ → Prop} (inv : σ → Prop)
    (hstep : ∀ s l t, inv s → step s l = some t → (inv t ↔ cond s l))
    (hdisabled : ∀ s l, step s l = none → cond s l) {s : σ} (hs : inv s) (ls : List ℓ) :
    (∀ pre, pre <+: ls → ∀ t, exec step s pre = some t → inv t) ↔ Always step cond s ls := by
  induction ls generalizing s with
  | nil =>
      constructor
      · exact fun _ => trivial
      · intro _ pre hpre t ht
        rw [List.prefix_nil.mp hpre] at ht
        cases ht
        exact hs
  | cons l ls ih =>
      rcases hl : step s l with _ | t
      · constructor
        · intro _
          exact ⟨hdisabled s l hl, by simp [hl]⟩
        · intro _ pre hpre u hu
          rcases List.prefix_cons_iff.mp hpre with rfl | ⟨pre', rfl, hpre'⟩
          · cases hu
            exact hs
          · simp [exec, hl] at hu
      · have hexec (pre : List ℓ) : exec step s (l :: pre) = exec step t pre := by
          simp [exec, hl]
        constructor
        · intro hall
          have hone : exec step s [l] = some t := by rw [hexec]; rfl
          have ht : inv t := hall [l] (by simp) t hone
          have hrest : ∀ pre, pre <+: ls → ∀ u, exec step t pre = some u → inv u :=
            fun pre hpre u hu =>
              hall (l :: pre) (List.cons_prefix_cons.mpr ⟨rfl, hpre⟩) u ((hexec pre).trans hu)
          refine ⟨(hstep s l t hs hl).mp ht, fun u hu => ?_⟩
          cases hl.symm.trans hu
          exact (ih ht).mp hrest
        · rintro ⟨hcond, hrest⟩ pre hpre u hu
          have ht := (hstep s l t hs hl).mpr hcond
          rcases List.prefix_cons_iff.mp hpre with rfl | ⟨pre', rfl, hpre'⟩
          · cases hu
            exact hs
          · rw [hexec] at hu
            exact (ih ht).mpr (hrest t hl) pre' hpre' u hu

/-- `while (guard x) x = pass x`, started in `x`, ends in `y` after so many passes. -/
inductive LoopEnds {σ : Type} (guard : σ → Prop) (pass : σ → σ) : Nat → σ → σ → Prop
  | done {x : σ} (h : ¬guard x) : LoopEnds guard pass 0 x x
  | again {passes : Nat} {x y : σ} (h : guard x) (rest : LoopEnds guard pass passes (pass x) y) :
      LoopEnds guard pass (passes + 1) x y

end Run
