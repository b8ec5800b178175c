import VirtioCrash.Corpus.Loadable

/-!
# Shuffled tails and prologues

The shuffle leaves a fixed number of lines alone, whatever the length of the seed's prologue. A
longer prologue is kept only where there is nothing to shuffle: where all lines behind the fixed
ones are the same.
-/

namespace VirtioCrash.Corpus

open Draws

/-- Whenever the shuffle is drawn, a seed that starts with the prologue still does afterwards, and
the rest are the seed's other lines. -/
def KeepsPrologue (g : Generator) (prologue ops : List String) : Prop :=
  ∀ (name comment : String) (idx : Nat) (src : Stream' Nat),
    drawnStrategy src = .shuffleTail →
      ∃ rest : List String, rest.Perm ops ∧
        ((variation g ⟨name, comment, prologue ++ ops⟩ idx).run src).1.ops = prologue ++ rest

/-- All lines from position `k` on are the same. -/
def SameFrom (k : Nat) (lines : List String) : Prop :=
  ∀ l ∈ lines.drop k, ∀ l' ∈ lines.drop k, l = l'

private theorem variation_shuffled (g : Generator) (base : Seed) (idx : Nat) (src : Stream' Nat)
    (hlen : 2 ≤ base.ops.length) (hs : drawnStrategy src = .shuffleTail) :
    ((variation g base idx).run src).1.ops =
      base.ops.take g.headLen ++ ((shuffle (base.ops.drop g.headLen)).run src.tail).1 := by
  have hrun := congrArg Prod.fst (varyOps_run g hlen src)
  rw [hs, shuffleTail_run] at hrun
  exact hrun

private theorem perm_eq_of_forall_eq {lines lines' : List String} (hperm : lines'.Perm lines)
    (hsame : ∀ l ∈ lines, ∀ l' ∈ lines, l = l') : lines' = lines := by
  rcases lines with _ | ⟨l, ls⟩
  · exact List.perm_nil.mp hperm
  · have hall : l :: ls = List.replicate (ls.length + 1) l :=
      List.eq_replicate_iff.mpr ⟨rfl, fun l' hl' => hsame l' hl' l List.mem_cons_self⟩
    rw [hall] at hperm ⊢
    exact List.perm_replicate.mp hperm

private theorem keepsPrologue_iff (g : Generator) (prologue ops : List String)
    (hlen : 2 ≤ prologue.length) :
    KeepsPrologue g prologue ops ↔
      prologue.length ≤ g.headLen ∨ SameFrom g.headLen (prologue ++ ops) := by
  have hlen' : 2 ≤ (prologue ++ ops).length := by
    rw [List.length_append]
    omega
  constructor
  · intro hkeeps
    by_contra hno
    rw [not_or, SameFrom] at hno
    obtain ⟨hlong, hdiffer⟩ := hno
    apply hdiffer
    -- any line of the tail can be shuffled to its front, where the prologue goes on
    have hfront : ∀ l ∈ (prologue ++ ops).drop g.headLen, prologue[g.headLen]? = some l := by
      intro l hl
      obtain ⟨src, hsrc⟩ := (exists_shuffle_eq_iff ((prologue ++ ops).drop g.headLen)
        (l :: ((prologue ++ ops).drop g.headLen).erase l)).mpr (List.perm_cons_erase hl)
      obtain ⟨rest, -, hrest⟩ := hkeeps "" "" 0 (Stream'.cons 2 src) rfl
      rw [variation_shuffled g _ 0 _ hlen' rfl] at hrest
      change (prologue ++ ops).take g.headLen ++ ((shuffle _).run src).1 = _ at hrest
      rw [hsrc] at hrest
      have hget := congrArg (fun lines => lines[g.headLen]?) hrest
      have htake : ((prologue ++ ops).take g.headLen).length = g.headLen := by
        rw [List.length_take, List.length_append]
        omega
      rw [List.getElem?_append_right htake.le, htake, Nat.sub_self, List.getElem?_cons_zero,
        List.getElem?_append_left (Nat.lt_of_not_le hlong)] at hget
      exact hget.symm
    intro l hl l' hl'
    exact Option.some.inj ((hfront l hl).symm.trans (hfront l' hl'))
  · intro h name comment idx src hs
    have hout := variation_shuffled g ⟨name, comment, prologue ++ ops⟩ idx src hlen' hs
    have hperm := shuffle_perm ((prologue ++ ops).drop g.headLen) src.tail
    dsimp only at hout
    generalize ((shuffle ((prologue ++ ops).drop g.headLen)).run src.tail).1 = tail at hout hperm
    rw [hout]
    rcases h with hcover | hsame
    · have hdrop : (prologue ++ ops).drop g.headLen = ops.drop (g.headLen - prologue.length) := by
        rw [List.drop_append, List.drop_eq_nil_of_le hcover, List.nil_append]
      refine ⟨ops.take (g.headLen - prologue.length) ++ tail, ?_, ?_⟩
      · rw [hdrop] at hperm
        have hrest := hperm.append_left (ops.take (g.headLen - prologue.length))
        rwa [List.take_append_drop] at hrest
      · rw [List.take_append, List.take_of_length_le hcover, List.append_assoc]
    · refine ⟨ops, List.Perm.refl ops, ?_⟩
      rw [perm_eq_of_forall_eq hperm hsame, List.take_append_drop]

private theorem Net.prologue_length (features numQpairs : Int) (haveCtrl : Bool) :
    (Net.prologue features numQpairs haveCtrl).length =
      3 + (2 * numQpairs).toNat + haveCtrl.toNat := by
  cases haveCtrl <;> simp [Net.prologue] <;> omega

/-- The net generator keeps prologues of up to four queues, the console generator its own one only
where no other line than the last one of the prologue follows it. -/
theorem shuffle_keepsPrologue_iff (features numQpairs : Int) (haveCtrl : Bool)
    (ops : List String) :
    (KeepsPrologue .net (Net.prologue features numQpairs haveCtrl) ops ↔
      (2 * numQpairs).toNat + haveCtrl.toNat ≤ 4 ∨
        SameFrom 7 (Net.prologue features numQpairs haveCtrl ++ ops)) ∧
    (KeepsPrologue .console Console.prologue ops ↔
      ∀ l ∈ ops, l = opSetStatus statusDriverOk) := by
  constructor
  · have hlen := Net.prologue_length features numQpairs haveCtrl
    rw [keepsPrologue_iff .net _ ops (by omega), hlen]
    refine or_congr_left ?_
    change 3 + (2 * numQpairs).toNat + haveCtrl.toNat ≤ 7 ↔ _
    omega
  · have hdrop : (Console.prologue ++ ops).drop 8 = opSetStatus statusDriverOk :: ops := rfl
    rw [keepsPrologue_iff .console _ ops (by decide), SameFrom]
    change 9 ≤ 8 ∨ (∀ l ∈ (Console.prologue ++ ops).drop 8, ∀ l' ∈ (Console.prologue ++ ops).drop 8,
      l = l') ↔ _
    rw [hdrop]
    constructor
    · rintro (hle | hsame) l hl
      · omega
      · exact hsame l (List.mem_cons_of_mem _ hl) _ List.mem_cons_self
    · refine fun hall => Or.inr fun l hl l' hl' => ?_
      have heq (l : String) (hl : l ∈ opSetStatus statusDriverOk :: ops) :
          l = opSetStatus statusDriverOk :=
        (List.mem_cons.mp hl).elim id (hall l)
      rw [heq l hl, heq l' hl']

/-- `seed_typed_mq_pair_set` of the net generator and `seed_rx_buffers` of the console generator:
another line can come before the prologue's last one. -/
theorem shuffle_breaks_prologue :
    ¬KeepsPrologue .net (Net.prologue Net.defaultFeatures 2 true)
        [opsLine " ctrl_mq_vq_pairs_set \x7b pair_count: 2 \x7d ", opVqWaitUsed 4] ∧
      ¬KeepsPrologue .console Console.prologue
        (List.replicate 4 (opsLine " rx_buf \x7b port_id: 0 size: 4096 \x7d ") ++
          [opVqWaitUsed 0]) := by
  have hmq : opSetStatus statusDriverOk ≠
      opsLine " ctrl_mq_vq_pairs_set \x7b pair_count: 2 \x7d " := by
    intro h
    have hchars := congrArg String.toList h
    simp [opSetStatus, opsLine] at hchars
  have hrx : opSetStatus statusDriverOk ≠ opsLine " rx_buf \x7b port_id: 0 size: 4096 \x7d " := by
    intro h
    have hchars := congrArg String.toList h
    simp [opSetStatus, opsLine] at hchars
  constructor
  · rw [keepsPrologue_iff .net _ _ (by decide)]
    rintro (hle | hsame)
    · exact absurd hle (by decide)
    · exact hmq (hsame _ List.mem_cons_self _ (List.mem_cons_of_mem _ List.mem_cons_self))
  · rw [keepsPrologue_iff .console _ _ (by decide)]
    rintro (hle | hsame)
    · exact absurd hle (by decide)
    · exact hrx (hsame _ List.mem_cons_self _ (List.mem_cons_of_mem _ List.mem_cons_self))

end VirtioCrash.Corpus
