import VirtioCrash.Lib.StateProgram

/-!
# Checked programs

A program written twice: over `StateM σ`, where every operation has a value, and over
`Checked ε σ`, where an operation outside its domain stops the program with a fault.
`Faultless P c m` says that the checked program `c`, started in a state that meets `P`, meets no
fault and does what `m` does.
-/

namespace StateProgram

variable {ε σ α β : Type}

abbrev Checked (ε σ α : Type) := StateT σ (Except ε) α

/-- A total program has nothing to check. -/
def Checked.total (m : StateM σ α) : Checked ε σ α := fun s => .ok (m.run s)

@[simp] theorem Checked.total_run (m : StateM σ α) (s : σ) :
    (Checked.total m : Checked ε σ α).run s = .ok (m.run s) :=
  rfl

theorem Checked.total_bind_run (m : StateM σ α) (f : α → Checked ε σ β) (s : σ) :
    (Checked.total m >>= f).run s = (f (m.run s).1).run (m.run s).2 :=
  rfl

theorem Checked.total_bind (m : StateM σ α) (f : α → StateM σ β) :
    (Checked.total m >>= fun a => Checked.total (f a) : Checked ε σ β) =
      Checked.total (m >>= f) :=
  rfl

theorem Checked.pure_eq (a : α) :
    (Pure.pure a : Checked ε σ α) = Checked.total (Pure.pure a) :=
  rfl

def Faultless (P : σ → Prop) (c : Checked ε σ α) (m : StateM σ α) : Prop :=
  ∀ s, P s → c.run s = .ok (m.run s)

namespace Faultless

variable {P Q : σ → Prop} {c : Checked ε σ α} {m : StateM σ α}

theorem total (m : StateM σ α) : Faultless P (Checked.total m : Checked ε σ α) m :=
  fun _ _ => rfl

theorem pure (a : α) : Faultless P (Pure.pure a : Checked ε σ α) (Pure.pure a) :=
  fun _ _ => rfl

/-- What the first half establishes, the second half may use. -/
theorem bind_post {R : α → σ → Prop} {fc : α → Checked ε σ β} {f : α → StateM σ β}
    (hm : Faultless P c m) (hpost : ∀ s, P s → Post m R s)
    (hf : ∀ a, Faultless (R a) (fc a) (f a)) : Faultless P (c >>= fc) (m >>= f) := by
  intro s hs
  rw [StateT.run_bind, hm s hs]
  exact hf _ _ (hpost s hs)

theorem bind {R : σ → σ → Prop} {fc : α → Checked ε σ β} {f : α → StateM σ β} (hkeep : Kept R P)
    (hR : WithinFrom P R m) (hm : Faultless P c m) (hf : ∀ a, Faultless P (fc a) (f a)) :
    Faultless P (c >>= fc) (m >>= f) :=
  hm.bind_post (R := fun _ => P) (fun s hs => hkeep s _ hs (hR s hs)) hf

theorem ite {b : Prop} [Decidable b] {c' : Checked ε σ α} {m' : StateM σ α}
    (h : Faultless P c m) (h' : Faultless P c' m') :
    Faultless P (if b then c else c') (if b then m else m') := by
  split
  · exact h
  · exact h'

end Faultless

theorem faultless_forM {body : α → Checked ε σ PUnit} {f : α → σ → σ} (xs : List α)
    (hbody : ∀ x ∈ xs, ∀ s, (body x).run s = .ok ((), f x s)) (s : σ) :
    (xs.forM body).run s = .ok ((), xs.foldl (fun s x => f x s) s) := by
  induction xs generalizing s with
  | nil => rfl
  | cons x xs ih =>
      change (body x >>= fun _ => xs.forM body).run s = _
      rw [StateT.run_bind, hbody x (by simp) s]
      exact ih (fun y hy => hbody y (by simp [hy])) (f x s)

end StateProgram
