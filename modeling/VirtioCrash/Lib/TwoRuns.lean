import VirtioCrash.Lib.StateProgram

/-!
# Two runs side by side

`Coupled R m m'` says that two programs, started in states that `R` relates, return the same result
in states that `R` relates. The rule follows the text that the two programs share.
-/

namespace StateProgram

variable {σ τ α β : Type} {R : σ → τ → Prop}

def Coupled (R : σ → τ → Prop) (m : StateM σ α) (m' : StateM τ α) : Prop :=
  ∀ s t, R s t → (m.run s).1 = (m'.run t).1 ∧ R (m.run s).2 (m'.run t).2

theorem Coupled.pure (a : α) : Coupled R (Pure.pure a) (Pure.pure a) :=
  fun _ _ h => ⟨rfl, h⟩

theorem Coupled.bind {m : StateM σ α} {m' : StateM τ α} {f : α → StateM σ β}
    {f' : α → StateM τ β} (hm : Coupled R m m') (hf : ∀ a, Coupled R (f a) (f' a)) :
    Coupled R (m >>= f) (m' >>= f') := by
  intro s t h
  obtain ⟨heq, hnext⟩ := hm s t h
  have hrest := hf (m'.run t).1 _ _ hnext
  rw [run_bind, run_bind, heq]
  exact hrest

theorem Coupled.ite {c : Prop} [Decidable c] {m p : StateM σ α} {m' p' : StateM τ α}
    (hm : Coupled R m m') (hp : Coupled R p p') :
    Coupled R (if c then m else p) (if c then m' else p') := by
  split
  · exact hm
  · exact hp

theorem Coupled.dite {c : Prop} [Decidable c] {m : c → StateM σ α} {p : ¬c → StateM σ α}
    {m' : c → StateM τ α} {p' : ¬c → StateM τ α} (hm : ∀ h, Coupled R (m h) (m' h))
    (hp : ∀ h, Coupled R (p h) (p' h)) :
    Coupled R (if h : c then m h else p h) (if h : c then m' h else p' h) := by
  split
  · exact hm _
  · exact hp _

theorem Coupled.modify {f : σ → σ} {g : τ → τ} (h : ∀ s t, R s t → R (f s) (g t)) :
    Coupled R (modify f : StateM σ Unit) (modify g : StateM τ Unit) :=
  fun s t hst => ⟨rfl, h s t hst⟩

theorem Coupled.forM {f : α → StateM σ PUnit} {f' : α → StateM τ PUnit} (xs : List α)
    (hf : ∀ a, Coupled R (f a) (f' a)) : Coupled R (xs.forM f) (xs.forM f') := by
  induction xs with
  | nil => exact Coupled.pure _
  | cons a as ih =>
      change Coupled R (f a >>= fun _ => as.forM f) (f' a >>= fun _ => as.forM f')
      exact (hf a).bind fun _ => ih

end StateProgram
