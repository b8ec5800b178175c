import VirtioCrash.Corpus.Generator

/-!
# Variations that still load

A text-format program may have any number of `ops` and `ops_thread_b` lines but only one line that
sets `thread_b_iter`. The variations treat all lines alike, so the ones that repeat a line leave a
loadable program exactly when they do not pick that one.
-/

namespace VirtioCrash.Corpus

open Draws

/-- A line that sets the singular field `thread_b_iter`. -/
def IsIterLine (l : String) : Prop := ∃ n, l = threadBIterLine n

/-- The lines of a program that the text parser accepts. -/
structure Loadable (lines : List String) : Prop where
  forms : ∀ l ∈ lines,
    (∃ body, l = opsLine body) ∨ (∃ body, l = opsThreadBLine body) ∨ IsIterLine l
  iterOnce : lines.Pairwise fun l l' => ¬(IsIterLine l ∧ IsIterLine l')

private theorem Loadable.perm {lines lines' : List String} (h : Loadable lines)
    (hperm : lines'.Perm lines) : Loadable lines' where
  forms l hl := h.forms l (hperm.mem_iff.mp hl)
  iterOnce := (hperm.pairwise_iff fun hno hboth => hno hboth.symm).mpr h.iterOnce

private theorem Loadable.sublist {lines lines' : List String} (h : Loadable lines)
    (hsub : lines'.Sublist lines) : Loadable lines' where
  forms l hl := h.forms l (hsub.subset hl)
  iterOnce := h.iterOnce.sublist hsub

private theorem Loadable.copies_iff {lines : List String} (h : Loadable lines) {l : String}
    (hl : l ∈ lines) (k : Nat) :
    Loadable (List.replicate (k + 1) l ++ lines) ↔ ¬IsIterLine l := by
  constructor
  · intro hcopies hiter
    have hpair := List.pairwise_append.mp hcopies.iterOnce
    exact hpair.2.2 l (by simp) l hl ⟨hiter, hiter⟩
  · intro hno
    constructor
    · intro l' hl'
      rcases List.mem_append.mp hl' with hcopy | hold
      · rw [List.eq_of_mem_replicate hcopy]
        exact h.forms l hl
      · exact h.forms l' hold
    · refine List.pairwise_append.mpr ⟨?_, h.iterOnce, ?_⟩
      · exact List.pairwise_replicate.mpr (Or.inr fun hboth => hno hboth.1)
      · intro a ha b _ hboth
        exact hno (List.eq_of_mem_replicate ha ▸ hboth.1)

/-- The strategy that `variation` draws first. -/
def drawnStrategy (src : Stream' Nat) : Strategy :=
  ((choice strategies strategies_length_pos).run src).1

/-- The line that the second draw names, for the strategies that repeat one. -/
def drawnLine (ops : List String) (src : Stream' Nat) : Option String :=
  ops[src.tail.head % ops.length]?

/-- `variation` repeats the line that sets `thread_b_iter`. -/
def RepeatsIter (ops : List String) (src : Stream' Nat) : Prop :=
  2 ≤ ops.length ∧ (drawnStrategy src = .dup ∨ drawnStrategy src = .repeatOne) ∧
    ∃ l, drawnLine ops src = some l ∧ IsIterLine l

private theorem not_repeatsIter {ops : List String} {src : Stream' Nat} {s : Strategy}
    (hs : drawnStrategy src = s) (hne : s ≠ .dup ∧ s ≠ .repeatOne) : ¬RepeatsIter ops src := by
  rintro ⟨-, hdup | hrepeat, -⟩
  · exact hne.1 (hs ▸ hdup)
  · exact hne.2 (hs ▸ hrepeat)

theorem varyOps_run (g : Generator) {ops : List String} (hlen : 2 ≤ ops.length)
    (src : Stream' Nat) :
    (varyOps g ops).run src = (applyStrategy g ops hlen (drawnStrategy src)).run src.tail := by
  rw [varyOps, dif_pos hlen]
  rfl

theorem shuffleTail_run (g : Generator) {ops : List String} (hlen : 2 ≤ ops.length)
    (src : Stream' Nat) :
    ((applyStrategy g ops hlen .shuffleTail).run src).1 =
      ops.take g.headLen ++ ((shuffle (ops.drop g.headLen)).run src).1 := by
  have hrun : ((applyStrategy g ops hlen .shuffleTail).run src).1 =
      if (ops.drop (min g.headLen ops.length)).isEmpty then ops
      else ops.take (min g.headLen ops.length) ++
        ((shuffle (ops.drop (min g.headLen ops.length))).run src).1 := by
    rw [applyStrategy]
    split
    · rfl
    · rfl
  rw [hrun]
  by_cases hhead : g.headLen < ops.length
  · have htail : ops.drop g.headLen ≠ [] := by
      rw [ne_eq, List.drop_eq_nil_iff]
      omega
    rw [Nat.min_eq_left hhead.le, if_neg (by simpa using htail)]
  · have hge : ops.length ≤ g.headLen := Nat.le_of_not_lt hhead
    have hnone : ((shuffle ([] : List String)).run src).1 = [] := rfl
    rw [Nat.min_eq_right hge, List.drop_length, if_pos List.isEmpty_nil,
      List.drop_eq_nil_of_le hge, hnone, List.take_of_length_le hge, List.append_nil]

private theorem repeat_perm (ops : List String) (i : Nat) (hi : i < ops.length) {n : Nat}
    (hn : 2 ≤ n) :
    ∃ k, (ops.take i ++ List.replicate n ops[i] ++ ops.drop (i + 1)).Perm
      (List.replicate (k + 1) ops[i] ++ ops) := by
  obtain ⟨k, rfl⟩ := Nat.exists_eq_add_of_le' hn
  have hsplit : ops.take i ++ ops[i] :: ops.drop (i + 1) = ops := by
    rw [← List.drop_eq_getElem_cons hi, List.take_append_drop]
  refine ⟨k, ?_⟩
  have hmove := List.perm_append_comm_assoc (ops.take i) (List.replicate (k + 1) ops[i])
    (ops[i] :: ops.drop (i + 1))
  rw [hsplit] at hmove
  rw [List.replicate_succ']
  simpa using hmove

private theorem varyOps_cases (g : Generator) {ops : List String} (hlen : 2 ≤ ops.length)
    (src : Stream' Nat) :
    let out := ((varyOps g ops).run src).1
    ((drawnStrategy src = .dup ∨ drawnStrategy src = .repeatOne) ∧
      ∃ l ∈ ops, drawnLine ops src = some l ∧
        ∃ k, out.Perm (List.replicate (k + 1) l ++ ops)) ∨
    (drawnStrategy src = .drop ∧ out.Sublist ops) ∨
    (drawnStrategy src = .shuffleTail ∧ out.Perm ops) := by
  intro out
  have hidx : src.tail.head % ops.length < ops.length := Nat.mod_lt _ (by omega)
  have hline : drawnLine ops src = some ops[src.tail.head % ops.length] :=
    List.getElem?_eq_getElem hidx
  have hmem : ops[src.tail.head % ops.length] ∈ ops := List.getElem_mem hidx
  have hdrawn : 0 + src.tail.head % (ops.length - 0) = src.tail.head % ops.length := by
    rw [Nat.zero_add, Nat.sub_zero]
  have hout : out = ((applyStrategy g ops hlen (drawnStrategy src)).run src.tail).1 :=
    congrArg Prod.fst (varyOps_run g hlen src)
  rcases hs : drawnStrategy src with _ | _ | _ | _
  · left
    refine ⟨Or.inl rfl, _, hmem, hline, 0, ?_⟩
    rw [hout, hs]
    have hdup (i : Nat) (hi : i < ops.length) (heq : i = src.tail.head % ops.length) :
        (ops.insertIdx i (ops.get ⟨i, hi⟩)).Perm
          (List.replicate 1 ops[src.tail.head % ops.length] ++ ops) := by
      subst heq
      exact List.perm_insertIdx _ _ hidx.le
    exact hdup _ _ hdrawn
  · right
    left
    refine ⟨rfl, ?_⟩
    rw [hout, hs]
    exact List.eraseIdx_sublist ..
  · right
    right
    refine ⟨rfl, ?_⟩
    rw [hout, hs, shuffleTail_run]
    have hshuffled := (shuffle_perm (ops.drop g.headLen) src.tail).append_left
      (ops.take g.headLen)
    rwa [List.take_append_drop] at hshuffled
  · left
    refine ⟨Or.inr rfl, _, hmem, hline, ?_⟩
    rw [hout, hs]
    have hrepeat (i : Nat) (hi : i < ops.length) (heq : i = src.tail.head % ops.length) (n : Nat)
        (hn : 2 ≤ n) : ∃ k, (ops.take i ++ List.replicate n (ops.get ⟨i, hi⟩) ++
          ops.drop (i + 1)).Perm
            (List.replicate (k + 1) ops[src.tail.head % ops.length] ++ ops) := by
      subst heq
      exact repeat_perm ops _ hi hn
    exact hrepeat _ _ hdrawn _ (Nat.le_add_right 2 _)

/-- The lines of a variation load, and are all lines of the seed, exactly when the variation does
not repeat the line that sets `thread_b_iter`. -/
private theorem varyOps_loadable_iff (g : Generator) {ops : List String} (src : Stream' Nat)
    (hops : Loadable ops) :
    let out := ((varyOps g ops).run src).1
    (Loadable out ∧ ∀ l ∈ out, l ∈ ops) ↔ ¬RepeatsIter ops src := by
  intro out
  by_cases hlen : 2 ≤ ops.length
  · rcases varyOps_cases g hlen src with ⟨hs, l, hl, hdrawn, k, hperm⟩ | ⟨hs, hsub⟩ | ⟨hs, hperm⟩
    · -- copies of the drawn line, which is in the seed already
      have hrepeats : RepeatsIter ops src ↔ IsIterLine l := by
        constructor
        · rintro ⟨-, -, l', hdrawn', hiter⟩
          rw [hdrawn, Option.some.injEq] at hdrawn'
          exact hdrawn' ▸ hiter
        · exact fun hiter => ⟨hlen, hs, l, hdrawn, hiter⟩
      rw [hrepeats, ← hops.copies_iff hl k]
      constructor
      · exact fun h => h.1.perm hperm.symm
      · refine fun h => ⟨h.perm hperm, fun l' hl' => ?_⟩
        rcases List.mem_append.mp (hperm.mem_iff.mp hl') with hcopy | hold
        · rw [List.eq_of_mem_replicate hcopy]
          exact hl
        · exact hold
    · exact iff_of_true ⟨hops.sublist hsub, fun l hl => hsub.subset hl⟩
        (not_repeatsIter hs (by decide))
    · exact iff_of_true ⟨hops.perm hperm, fun l hl => hperm.mem_iff.mp hl⟩
        (not_repeatsIter hs (by decide))
  · have hsame : out = ops := by
      simp only [out]
      rw [varyOps, dif_neg hlen]
      rfl
    rw [hsame]
    exact iff_of_true ⟨hops, fun l hl => hl⟩ fun h => hlen h.1

/-- `seed_dma_reflection_concurrent` of the vsock generator. -/
def Vsock.seedDmaReflectionConcurrent : Seed where
  name := "seed_dma_reflection_concurrent.textpb"
  comment := "Concurrent DMA Reflection: primary thread uses Reflection descs; " ++
    "secondary races with QueueNotify + Status MMIO writes."
  ops := Vsock.prologue ++
    [opVqAddDesc 1 20 4 true true 2, opVqAddDesc 1 44 4 true false 2, opVqKick 1,
      bMmioCorrupt 0x050 0 4, bMmioCorrupt 0x070 0 4, bVqAddDesc 1 20 4 true false 2,
      threadBIterLine 4]

private theorem not_isIterLine_opsLine (body : String) : ¬IsIterLine (opsLine body) := by
  rintro ⟨n, h⟩
  have hchars := congrArg String.toList h
  simp [opsLine, threadBIterLine] at hchars

private theorem not_isIterLine_opsThreadBLine (body : String) :
    ¬IsIterLine (opsThreadBLine body) := by
  rintro ⟨n, h⟩
  have hchars := congrArg String.toList h
  simp [opsThreadBLine, threadBIterLine] at hchars

private theorem loadable_append_iter (as bs : List String) (n : Nat) :
    Loadable (as.map opsLine ++ bs.map opsThreadBLine ++ [threadBIterLine n]) := by
  have hop : ∀ l ∈ as.map opsLine ++ bs.map opsThreadBLine,
      (∃ body, l = opsLine body) ∨ ∃ body, l = opsThreadBLine body := by
    intro l hl
    rcases List.mem_append.mp hl with ha | hb
    · obtain ⟨body, -, rfl⟩ := List.mem_map.mp ha
      exact Or.inl ⟨body, rfl⟩
    · obtain ⟨body, -, rfl⟩ := List.mem_map.mp hb
      exact Or.inr ⟨body, rfl⟩
  have hno : ∀ l ∈ as.map opsLine ++ bs.map opsThreadBLine, ¬IsIterLine l := by
    intro l hl
    rcases hop l hl with ⟨body, rfl⟩ | ⟨body, rfl⟩
    · exact not_isIterLine_opsLine body
    · exact not_isIterLine_opsThreadBLine body
  constructor
  · intro l hl
    rcases List.mem_append.mp hl with hold | hlast
    · exact (hop l hold).imp_right Or.inl
    · exact Or.inr (Or.inr ⟨n, List.mem_singleton.mp hlast⟩)
  · refine List.pairwise_append.mpr ⟨?_, List.pairwise_singleton _ _, ?_⟩
    · exact List.pairwise_of_forall_mem_list fun l hl l' _ hboth => hno l hl hboth.1
    · exact fun l hl l' _ hboth => hno l hl hboth.1

private theorem Vsock.loadable_seedDmaReflectionConcurrent :
    Loadable Vsock.seedDmaReflectionConcurrent.ops := by
  obtain ⟨as, bs, hlines⟩ : ∃ as bs, Vsock.seedDmaReflectionConcurrent.ops =
      as.map opsLine ++ bs.map opsThreadBLine ++ [threadBIterLine 4] :=
    ⟨[_, _, _, _, _, _, _, _, _], [_, _, _], rfl⟩
  rw [hlines]
  exact loadable_append_iter as bs 4

/-- Every variation of every seed of every generator: it is loadable, with no lines but the seed's,
exactly when it does not repeat the line that sets `thread_b_iter`. -/
theorem variation_loadable_iff (g : Generator) (base : Seed) (idx : Nat) (src : Stream' Nat)
    (hbase : Loadable base.ops) :
    let out := ((variation g base idx).run src).1.ops
    (Loadable out ∧ ∀ l ∈ out, l ∈ base.ops) ↔ ¬RepeatsIter base.ops src :=
  varyOps_loadable_iff g src hbase

theorem variation_loadable_iff_vsock :
    (Loadable ((variation .vsock Vsock.seedDmaReflectionConcurrent 1).run
        (Stream'.const 1)).1.ops ∧
      ∀ l ∈ ((variation .vsock Vsock.seedDmaReflectionConcurrent 1).run (Stream'.const 1)).1.ops,
        l ∈ Vsock.seedDmaReflectionConcurrent.ops) ↔
      ¬RepeatsIter Vsock.seedDmaReflectionConcurrent.ops (Stream'.const 1) :=
  variation_loadable_iff .vsock Vsock.seedDmaReflectionConcurrent 1 (Stream'.const 1)
    Vsock.loadable_seedDmaReflectionConcurrent

/-- The first draw picks `dup`, the second one the last line. -/
theorem variation_not_loadable :
    ¬∀ (g : Generator) (base : Seed) (idx : Nat) (src : Stream' Nat), Loadable base.ops →
      let out := ((variation g base idx).run src).1.ops
      Loadable out ∧ ∀ l ∈ out, l ∈ base.ops := by
  intro hall
  let src : Stream' Nat := Stream'.cons 0 (Stream'.cons 12 (Stream'.const 0))
  have hout := hall .vsock Vsock.seedDmaReflectionConcurrent 1 src
    Vsock.loadable_seedDmaReflectionConcurrent
  have hno := (varyOps_loadable_iff .vsock src Vsock.loadable_seedDmaReflectionConcurrent).mp hout
  exact hno ⟨by decide, Or.inl rfl, threadBIterLine 4, rfl, 4, rfl⟩

end VirtioCrash.Corpus
