import Mathlib.Logic.Relation

/-!
# State programs

A program over a state `σ` is a `StateM σ` action. `Within R m` says that every run of `m` relates
its start state to its end state by `R`; for a preorder `R` the rule follows the program text.
`Post m Q s` is the weakest precondition of `Q` at the start state `s`.
-/

namespace StateProgram

variable {σ α β : Type}

/-- Every run of `m` relates its start state to its end state by `R`. -/
def Within (R : σ → σ → Prop) (m : StateM σ α) : Prop :=
  ∀ s, R s (m.run s).2

/-- The result and the end state of the run of `m` from `s` satisfy `Q`. -/
def Post (m : StateM σ α) (Q : α → σ → Prop) (s : σ) : Prop :=
  Q (m.run s).1 (m.run s).2

theorem run_bind (m : StateM σ α) (f : α → StateM σ β) (s : σ) :
    (m >>= f).run s = (f (m.run s).1).run (m.run s).2 :=
  rfl

section Within

variable {R : σ → σ → Prop}

theorem Within.weaken {R' : σ → σ → Prop} {m : StateM σ α} (h : ∀ s t, R s t → R' s t)
    (hm : Within R m) : Within R' m :=
  fun s => h _ _ (hm s)

theorem Within.pure [Std.Refl R] (a : α) : Within R (Pure.pure a : StateM σ α) :=
  fun s => Std.Refl.refl s

theorem Within.get [Std.Refl R] : Within R (MonadState.get : StateM σ σ) :=
  fun s => Std.Refl.refl s

theorem Within.modify {f : σ → σ} (h : ∀ s, R s (f s)) : Within R (modify f : StateM σ Unit) :=
  h

theorem Within.bind [IsTrans σ R] {m : StateM σ α} {f : α → StateM σ β}
    (hm : Within R m) (hf : ∀ a, Within R (f a)) : Within R (m >>= f) :=
  fun s => IsTrans.trans _ _ _ (hm s) (hf _ _)

theorem Within.ite {c : Prop} [Decidable c] {m m' : StateM σ α}
    (hm : Within R m) (hm' : Within R m') : Within R (if c then m else m') := by
  split
  · exact hm
  · exact hm'

theorem Within.dite {c : Prop} [Decidable c] {m : c → StateM σ α} {m' : ¬c → StateM σ α}
    (hm : ∀ h, Within R (m h)) (hm' : ∀ h, Within R (m' h)) :
    Within R (if h : c then m h else m' h) := by
  split
  · exact hm _
  · exact hm' _

theorem Within.forM [IsPreorder σ R] {f : α → StateM σ PUnit} (xs : List α)
    (hf : ∀ a ∈ xs, Within R (f a)) : Within R (xs.forM f) := by
  induction xs with
  | nil => exact Within.pure _
  | cons a as ih =>
      change Within R (f a >>= fun _ => as.forM f)
      exact (hf a (by simp)).bind fun _ => ih fun b hb => hf b (by simp [hb])

end Within

/-- `Within` for the start states that meet `P`. -/
def WithinFrom (P : σ → Prop) (R : σ → σ → Prop) (m : StateM σ α) : Prop :=
  ∀ s, P s → R s (m.run s).2

section WithinFrom

variable {P Q : σ → Prop} {R : σ → σ → Prop}

theorem Within.from {m : StateM σ α} (hm : Within R m) : WithinFrom P R m :=
  fun s _ => hm s

theorem Within.of_from {m : StateM σ α} (hm : WithinFrom (fun _ => True) R m) : Within R m :=
  fun s => hm s trivial

theorem WithinFrom.mono {m : StateM σ α} (h : ∀ s, P s → Q s) (hm : WithinFrom Q R m) :
    WithinFrom P R m :=
  fun s hs => hm s (h s hs)

/-- `R` keeps the condition. -/
def Kept (R : σ → σ → Prop) (P : σ → Prop) : Prop := ∀ s t, P s → R s t → P t

theorem Kept.and (hP : Kept R P) (hQ : Kept R Q) : Kept R fun s => P s ∧ Q s :=
  fun s t hs hR => ⟨hP s t hs.1 hR, hQ s t hs.2 hR⟩

theorem WithinFrom.bind [IsTrans σ R] {m : StateM σ α} {f : α → StateM σ β} (hkeep : Kept R P)
    (hm : WithinFrom P R m) (hf : ∀ a, WithinFrom P R (f a)) : WithinFrom P R (m >>= f) := by
  intro s hs
  have hfirst := hm s hs
  exact IsTrans.trans _ _ _ hfirst (hf _ _ (hkeep s _ hs hfirst))

/-- What the first half of a sequence establishes may be used by the second. -/
theorem WithinFrom.bind_post [IsTrans σ R] {m : StateM σ α} {f : α → StateM σ β}
    {Q : α → σ → Prop} (hkeep : Kept R P) (hm : WithinFrom P R m)
    (hQ : ∀ s, Q (m.run s).1 (m.run s).2) (hf : ∀ a, WithinFrom (fun s => P s ∧ Q a s) R (f a)) :
    WithinFrom P R (m >>= f) := by
  intro s hs
  have hfirst := hm s hs
  exact IsTrans.trans _ _ _ hfirst (hf _ _ ⟨hkeep s _ hs hfirst, hQ s⟩)

theorem WithinFrom.ite {c : Prop} [Decidable c] {m m' : StateM σ α} (hm : WithinFrom P R m)
    (hm' : WithinFrom P R m') : WithinFrom P R (if c then m else m') := by
  split
  · exact hm
  · exact hm'

theorem WithinFrom.cond {c : Prop} [Decidable c] {m m' : StateM σ α}
    (hm : c → WithinFrom P R m) (hm' : ¬c → WithinFrom P R m') :
    WithinFrom P R (if c then m else m') := by
  split
  · exact hm ‹_›
  · exact hm' ‹_›

end WithinFrom

section Post

variable {Q : α → σ → Prop} {s : σ}

/-- What the first half of a sequence ends in, the second half may start from. -/
theorem Post.bind {Q' : β → σ → Prop} {m : StateM σ α} {f : α → StateM σ β} (hm : Post m Q s)
    (hf : ∀ a t, Q a t → Post (f a) Q' t) : Post (m >>= f) Q' s :=
  hf _ _ hm

@[simp] theorem post_bind {Q : β → σ → Prop} (m : StateM σ α) (f : α → StateM σ β) :
    Post (m >>= f) Q s ↔ Post m (fun a t => Post (f a) Q t) s :=
  Iff.rfl

theorem Post.ite {c : Prop} [Decidable c] {m m' : StateM σ α}
    (hm : c → Post m Q s) (hm' : ¬c → Post m' Q s) : Post (if c then m else m') Q s := by
  split
  · exact hm ‹_›
  · exact hm' ‹_›

end Post

end StateProgram
