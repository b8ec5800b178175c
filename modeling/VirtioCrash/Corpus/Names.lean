import VirtioCrash.Corpus.Generator
import Mathlib.Data.List.Nodup

/-!
# File names of a corpus

Variation `v` of a seed is named after the seed with `_v` and the number before the extension. The
numbers of a corpus are all different, whatever their width, and no base seed is named like a
variation, so that the corpus has as many files as seeds.
-/

namespace VirtioCrash.Corpus

open Draws TextFormat

/-- A file name without its extension: it has no extension inside and no version at its end. -/
structure IsStem (stem : String) : Prop where
  noExtension : ¬".textpb".toList <:+: stem.toList
  noVersion : ∀ s ds : List Char, stem.toList = s ++ "_v".toList ++ ds → ds ≠ [] →
    ∃ d ∈ ds, d.isDigit = false

/-- The base seeds have different names, all of them a stem with the extension. -/
structure BaseNames (base : List Seed) : Prop where
  nodup : (base.map Seed.name).Nodup
  stems : ∀ s ∈ base, ∃ stem, IsStem stem ∧ s.name = stem ++ ".textpb"

/-- The name of variation `idx` of a seed with this stem. -/
def versionName (stem : String) (idx : Nat) : List Char :=
  stem.toList ++ "_v".toList ++ zeroPadded 3 idx ++ ".textpb".toList

private theorem variationName_toList {stem : String} (h : IsStem stem) (idx : Nat) :
    (variationName (stem ++ ".textpb") idx).toList = versionName stem idx := by
  have hext : ".textpb".toList = '.' :: "textpb".toList := by simp
  have hdot : '.' ∉ "textpb".toList := by simp
  have hno := h.noExtension
  rw [hext] at hno
  rw [variationName, String.toList_ofList, String.toList_append, versionName, hext,
    replaceAll_suffix _ hdot hno]
  simp only [List.append_assoc]

private theorem versionName_inj {s t : String} {v w : Nat} (h : versionName s v = versionName t w) :
    v = w := by
  have hmark : "_v".toList = ['_'] ++ ['v'] := by simp
  have hstem := List.append_cancel_right h
  rw [hmark, ← List.append_assoc, ← List.append_assoc, List.append_assoc _ ['v'],
    List.append_assoc _ ['v']] at hstem
  have hdigits := append_digits_inj (by decide) (fun _ => isDigit_of_mem_zeroPadded)
    (fun _ => isDigit_of_mem_zeroPadded) hstem
  exact zeroPadded_injective hdigits.2

private theorem ne_versionName {s t : String} (ht : IsStem t) (v : Nat) :
    (t ++ ".textpb").toList ≠ versionName s v := by
  intro h
  rw [String.toList_append] at h
  have hstem := List.append_cancel_right h
  obtain ⟨d, hd, hdigit⟩ := ht.noVersion _ _ hstem (zeroPadded_ne_nil 3 v)
  rw [isDigit_of_mem_zeroPadded hd] at hdigit
  exact absurd hdigit (by decide)

/-- The name of the seed that the loop appends as number `v`. -/
def fillName (base : List Seed) (hbase : 0 < base.length) (v : Nat) : String :=
  variationName (baseOf base hbase v).name v

private theorem fill_run (g : Generator) {base : List Seed} (hbase : 0 < base.length)
    (target v : Nat) (seeds : List Seed) (src : Stream' Nat) :
    ∃ more, ((fill g base hbase target v seeds).run src).1 = seeds ++ more ∧
      more.map Seed.name =
        (List.range' v (target - seeds.length)).map (fillName base hbase) := by
  induction hd : target - seeds.length generalizing v seeds src with
  | zero =>
      refine ⟨[], ?_, rfl⟩
      rw [fill, if_neg (by omega), List.append_nil]
      rfl
  | succ d ih =>
      have hmore : seeds.length < target := by omega
      rw [fill, if_pos hmore]
      let seed := ((variation g (baseOf base hbase v) v).run src).1
      let src' := ((variation g (baseOf base hbase v) v).run src).2
      have hleft : target - (seeds ++ [seed]).length = d := by
        rw [List.length_append, List.length_singleton]
        omega
      obtain ⟨more, hrun, hnames⟩ := ih (v + 1) (seeds ++ [seed]) src' hleft
      refine ⟨seed :: more, ?_, ?_⟩
      · rw [List.append_cons]
        exact hrun
      · rw [List.map_cons, hnames, List.range'_succ, List.map_cons]
        rfl

private theorem fillName_toList {base : List Seed} (hbase : 0 < base.length)
    (hnames : BaseNames base) (v : Nat) :
    ∃ stem, (fillName base hbase v).toList = versionName stem v := by
  obtain ⟨stem, hstem, hname⟩ := hnames.stems _ (baseOf_mem hbase v)
  refine ⟨stem, ?_⟩
  rw [fillName, hname, variationName_toList hstem]

private theorem nodup_fillNames {base : List Seed} (hbase : 0 < base.length)
    (hnames : BaseNames base) (v n : Nat) :
    ((List.range' v n).map (fillName base hbase)).Nodup := by
  apply List.Nodup.map _ List.nodup_range'
  intro a b hab
  obtain ⟨s, hs⟩ := fillName_toList hbase hnames a
  obtain ⟨t, ht⟩ := fillName_toList hbase hnames b
  exact versionName_inj (hs.symm.trans ((congrArg String.toList hab).trans ht))

/-- The output directory, as far as `emit` wrote to it. -/
abbrev Directory := String → Option Seed

/-- The seeds written to an empty directory one after the other. -/
def written (seeds : List Seed) : Directory :=
  seeds.foldl (fun (dir : Directory) s => Function.update dir s.name (some s)) fun _ => none

private theorem foldl_update_of_notMem (seeds : List Seed) (dir : Directory) {name : String}
    (h : name ∉ seeds.map Seed.name) :
    seeds.foldl (fun (dir : Directory) s => Function.update dir s.name (some s)) dir name =
      dir name := by
  induction seeds generalizing dir with
  | nil => rfl
  | cons s seeds ih =>
      rw [List.map_cons, List.mem_cons, not_or] at h
      rw [List.foldl_cons, ih _ h.2, Function.update_of_ne h.1]

private theorem written_of_nodup {seeds : List Seed} (h : (seeds.map Seed.name).Nodup) {s : Seed}
    (hs : s ∈ seeds) : written seeds s.name = some s := by
  obtain ⟨before, after, rfl⟩ := List.append_of_mem hs
  rw [List.map_append, List.map_cons] at h
  have hafter := (List.nodup_cons.mp (List.nodup_append.mp h).2.1).1
  rw [written, List.foldl_append, List.foldl_cons, foldl_update_of_notMem _ _ hafter,
    Function.update_self]

private theorem nodup_corpusNames {base : List Seed} (hbase : 0 < base.length)
    (hnames : BaseNames base) (n v k : Nat) :
    ((base.take n).map Seed.name ++ (List.range' v k).map (fillName base hbase)).Nodup := by
  rw [List.nodup_append]
  refine ⟨?_, nodup_fillNames hbase hnames v k, ?_⟩
  · exact hnames.nodup.sublist ((List.take_sublist n base).map Seed.name)
  · rintro _ hold _ hnew rfl
    obtain ⟨s, hs, rfl⟩ := List.mem_map.mp hold
    obtain ⟨stem, hstem, hname⟩ := hnames.stems s (List.mem_of_mem_take hs)
    obtain ⟨w, -, hw⟩ := List.mem_map.mp hnew
    obtain ⟨t, ht⟩ := fillName_toList hbase hnames w
    rw [hw, hname] at ht
    exact ne_versionName hstem w ht

/-- The seeds of a corpus of `n`: that many, with different names, the base seeds first, and all of
them in the output directory in the end. -/
structure CorpusOf (base : List Seed) (n : Nat) (seeds : List Seed) : Prop where
  length : seeds.length = n
  names : (seeds.map Seed.name).Nodup
  first : seeds.take (min n base.length) = base.take (min n base.length)
  kept : ∀ s ∈ seeds, written seeds s.name = some s

/-- A corpus of `n` has `n` files, for every generator, every count and all draws. -/
theorem corpus_complete (g : Generator) (base : List Seed) (hbase : 0 < base.length)
    (hnames : BaseNames base) (count : Option Nat) (src : Stream' Nat) :
    CorpusOf base (count.getD base.length) ((corpus g base hbase count).run src).1 := by
  obtain ⟨n, hn⟩ : ∃ n, count.getD base.length = n := ⟨_, rfl⟩
  rw [hn]
  obtain ⟨more, hrun, hmore⟩ := fill_run g hbase n 1 (base.take n) src
  have hseeds : ((corpus g base hbase count).run src).1 = base.take n ++ more := by
    rw [corpus, hn]
    exact hrun
  have hlen : more.length = n - min n base.length := by
    have hcount := congrArg List.length hmore
    rwa [List.length_map, List.length_map, List.length_range', List.length_take] at hcount
  have hnodup : ((base.take n ++ more).map Seed.name).Nodup := by
    rw [List.map_append, hmore]
    exact nodup_corpusNames hbase hnames n 1 _
  rw [hseeds]
  constructor
  · rw [List.length_append, List.length_take, hlen]
    omega
  · exact hnodup
  · have htake : (base.take n).length = min n base.length := List.length_take
    rw [List.take_append_of_le_length htake.ge, List.take_take, min_comm, ← min_assoc, min_self,
      min_comm]
  · exact fun s hs => written_of_nodup hnodup hs

private theorem isStem_of_no_mark {stem : String} (hext : ¬".textpb".toList <:+: stem.toList)
    (hmark : ¬"_v".toList <:+: stem.toList) : IsStem stem where
  noExtension := hext
  noVersion s ds h _ := absurd ⟨s, ds, h.symm⟩ hmark

/-- Five files from two base seeds. -/
theorem corpus_complete_five :
    CorpusOf [⟨"seed_a.textpb", "", [opGetFeatures]⟩, ⟨"seed_b.textpb", "", [opVqKick 1]⟩] 5
      ((corpus .net [⟨"seed_a.textpb", "", [opGetFeatures]⟩, ⟨"seed_b.textpb", "", [opVqKick 1]⟩]
        (by decide) (some 5)).run (Stream'.const 0)).1 := by
  refine corpus_complete .net _ (by decide) ⟨by decide, ?_⟩ (some 5) (Stream'.const 0)
  have ha : IsStem "seed_a" := by
    apply isStem_of_no_mark
    · change ¬['.', 't', 'e', 'x', 't', 'p', 'b'] <:+: ['s', 'e', 'e', 'd', '_', 'a']
      decide
    · change ¬['_', 'v'] <:+: ['s', 'e', 'e', 'd', '_', 'a']
      decide
  have hb : IsStem "seed_b" := by
    apply isStem_of_no_mark
    · change ¬['.', 't', 'e', 'x', 't', 'p', 'b'] <:+: ['s', 'e', 'e', 'd', '_', 'b']
      decide
    · change ¬['_', 'v'] <:+: ['s', 'e', 'e', 'd', '_', 'b']
      decide
  intro s hs
  rcases List.mem_pair.mp hs with rfl | rfl
  · exact ⟨"seed_a", ha, rfl⟩
  · exact ⟨"seed_b", hb, rfl⟩

end VirtioCrash.Corpus
