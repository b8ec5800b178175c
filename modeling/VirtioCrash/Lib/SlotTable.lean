import Mathlib.Logic.Function.Basic
import Mathlib.Data.List.Basic

/-!
# Slot tables and their logs

A client names the objects of a server by slots of its own. The log holds the creations, each
through a slot, and the releases that really reached the server, newest first. `Tracks` relates the
log to the ids the client keeps in its slots; 0 marks an empty slot.
-/

namespace SlotTable

inductive Event (S I : Type) where
  | create (s : S) (i : I)
  | release (i : I)
  deriving DecidableEq

variable {S I : Type} [Zero I]

/-- The slots hold what the log says: an id in a slot was created through it and not released since,
and an id stays in its slot until a later creation through that slot or until its release. -/
structure Tracks (log : List (Event S I)) (held : S → I) : Prop where
  sent : ∀ s, held s ≠ 0 →
    ∃ newer older, log = newer ++ .create s (held s) :: older ∧ .release (held s) ∉ newer
  kept : ∀ s i newer older, log = newer ++ .create s i :: older →
    (∀ j, .create s j ∉ newer) → .release i ∉ newer → held s = i

theorem Tracks.empty : Tracks ([] : List (Event S I)) fun _ => 0 where
  sent := by
    intro s hs
    exact absurd rfl hs
  kept := by
    intro s i newer older hlog
    simp at hlog

variable {log : List (Event S I)} {held : S → I}

theorem Tracks.create [DecidableEq S] (h : Tracks log held) (s : S) (i : I) :
    Tracks (.create s i :: log) (Function.update held s i) where
  sent := by
    intro t ht
    by_cases hts : t = s
    · subst hts
      rw [Function.update_self] at ht ⊢
      exact ⟨[], log, rfl, by simp⟩
    · rw [Function.update_of_ne hts] at ht ⊢
      obtain ⟨newer, older, hlog, hno⟩ := h.sent t ht
      refine ⟨.create s i :: newer, older, by rw [hlog]; rfl, ?_⟩
      intro hmem
      rcases List.mem_cons.mp hmem with heq | hmem
      · cases heq
      · exact hno hmem
  kept := by
    intro t j newer older hlog hcreate hrelease
    cases newer with
    | nil =>
        cases hlog
        exact Function.update_self s i held
    | cons e newer =>
        obtain ⟨rfl, hrest⟩ := List.cons.inj hlog
        have hts : t ≠ s := by
          intro he
          exact hcreate i (by rw [he]; exact List.mem_cons_self)
        rw [Function.update_of_ne hts]
        exact h.kept t j newer older hrest
          (fun k hk => hcreate k (List.mem_cons_of_mem _ hk))
          (fun hk => hrelease (List.mem_cons_of_mem _ hk))

/-- A release empties every slot that holds the id. -/
theorem Tracks.release [DecidableEq I] (h : Tracks log held) (i : I) :
    Tracks (.release i :: log) fun t => if held t = i then 0 else held t where
  sent := by
    intro t ht
    by_cases hti : held t = i
    · simp [hti] at ht
    · simp only [hti, if_false] at ht ⊢
      obtain ⟨newer, older, hlog, hno⟩ := h.sent t ht
      refine ⟨.release i :: newer, older, by rw [hlog]; rfl, ?_⟩
      intro hmem
      rcases List.mem_cons.mp hmem with heq | hmem
      · cases heq
        exact hti rfl
      · exact hno hmem
  kept := by
    intro t j newer older hlog hcreate hrelease
    cases newer with
    | nil => cases hlog
    | cons e newer =>
        obtain ⟨rfl, hrest⟩ := List.cons.inj hlog
        have hheld := h.kept t j newer older hrest
          (fun k hk => hcreate k (List.mem_cons_of_mem _ hk))
          (fun hk => hrelease (List.mem_cons_of_mem _ hk))
        have hji : held t ≠ i := by
          intro he
          apply hrelease
          rw [← hheld, he]
          exact List.mem_cons_self
        simp only [hji, if_false]
        exact hheld

theorem Tracks.release_of_unique [DecidableEq S] [DecidableEq I] (h : Tracks log held) (s : S)
    (hunique : ∀ t, t ≠ s → held t ≠ held s) :
    Tracks (.release (held s) :: log) (Function.update held s 0) := by
  have heq : Function.update held s 0 = fun t => if held t = held s then 0 else held t := by
    funext t
    by_cases hts : t = s
    · subst hts
      simp
    · simp [Function.update_of_ne hts, hunique t hts]
  rw [heq]
  exact h.release (held s)

theorem Tracks.release_zero [DecidableEq I] (h : Tracks log held) :
    Tracks (.release 0 :: log) held := by
  have heq : held = fun t => if held t = 0 then 0 else held t := by
    funext t
    by_cases ht : held t = 0
    · simp [ht]
    · simp [ht]
  rw [heq]
  exact h.release 0

/-- Ids below the counter, and no id but 0 in two slots. -/
structure Fresh (held : S → Nat) (next : Nat) : Prop where
  below : ∀ s, held s < next
  distinct : ∀ s t, s ≠ t → held s ≠ 0 → held s ≠ held t

namespace Fresh

variable {ids : S → Nat} {next next' : Nat}

theorem empty (h : 0 < next) : Fresh (fun _ : S => 0) next where
  below := fun _ => h
  distinct := by
    intro s t hst hs
    exact absurd rfl hs

/-- An id that is drawn and lost. -/
theorem skip (h : Fresh ids next) (hle : next ≤ next') : Fresh ids next' where
  below := fun s => Nat.lt_of_lt_of_le (h.below s) hle
  distinct := h.distinct

theorem set [DecidableEq S] (h : Fresh ids next) (s : S) {i : Nat} (hle : next ≤ next')
    (hlt : i < next') (hnew : i ≠ 0 → ∀ t, ids t ≠ i) :
    Fresh (Function.update ids s i) next' where
  below := by
    intro t
    by_cases ht : t = s
    · subst ht
      rw [Function.update_self]
      exact hlt
    · rw [Function.update_of_ne ht]
      exact Nat.lt_of_lt_of_le (h.below t) hle
  distinct := by
    intro t u htu ht
    by_cases hts : t = s
    · subst hts
      rw [Function.update_self] at ht
      rw [Function.update_self, Function.update_of_ne htu.symm]
      exact (hnew ht u).symm
    · rw [Function.update_of_ne hts] at ht ⊢
      by_cases hus : u = s
      · subst hus
        rw [Function.update_self]
        by_cases hi : i = 0
        · rw [hi]
          exact ht
        · exact hnew hi t
      · rw [Function.update_of_ne hus]
        exact h.distinct t u htu ht

theorem draw [DecidableEq S] (h : Fresh ids next) (s : S) (hlt : next < next') :
    Fresh (Function.update ids s next) next' :=
  h.set s (Nat.le_of_lt hlt) hlt fun _ t => Nat.ne_of_lt (h.below t)

theorem clear [DecidableEq S] (h : Fresh ids next) (s : S) :
    Fresh (Function.update ids s 0) next :=
  h.set s (Nat.le_refl _) (Nat.zero_lt_of_lt (h.below s)) fun hi => absurd rfl hi

end Fresh

end SlotTable
