import VirtioCrash.Harness.Chain
import VirtioCrash.Harness.Request
import VirtioCrash.Lib.CountedRing

/-!
# Descriptor links across wrap-around

A placement takes its table index from a 32-bit counter modulo the queue size and the `next` field
from that index, cut to 16 bits. The two agree from one placement to the next, at the end of the
table and where the counter wraps, because a power of two divides `2^32`.
-/

namespace VirtioCrash

open StateProgram Bytes SplitRing

variable {n : Nat} {ξ : Type}

/-- A store to guest memory. -/
structure Store where
  gpa : UInt64
  data : List UInt8
  deriving DecidableEq

/-- The stores made on the way from `w` to `w'`, oldest first. -/
def stores (w w' : World n ξ) : List Store :=
  ((newest w'.trace w.trace).filterMap fun
    | .memWrite gpa data => some ⟨gpa, data⟩
    | _ => none).reverse

/-- The store of a descriptor. -/
def VqState.descStore (q : VqState) (addr : UInt64) (len : UInt32)
    (deviceWritable chainNext : Bool) : Store :=
  ⟨q.descSlot, descBytes addr len (descFlags deviceWritable chainNext) q.descNext⟩

theorem stores_place (i : Fin n) (addr : UInt64) (len : UInt32) (deviceWritable chainNext : Bool)
    (w : World n ξ) :
    let q := w.st.vqs i
    stores w (w.place i addr len deviceWritable chainNext) =
      q.descStore addr len deviceWritable chainNext ::
        if chainNext then [] else
          [⟨q.ringSlot, le16 q.nextDescIdx.toUInt16⟩,
            ⟨q.availGpa + 2, le16 (q.nextAvailIdx + 1).toUInt16⟩] := by
  intro q
  have htrace : (w.place i addr len deviceWritable chainNext).trace =
      q.placeEvents addr len deviceWritable chainNext ++ w.trace := rfl
  rw [stores, htrace, newest_append]
  cases chainNext with
  | true => rfl
  | false => rfl

/-- The world after a placement on queue `i`. -/
def IsPlacement (i : Fin n) (w w' : World n ξ) : Prop :=
  ∃ addr len deviceWritable chainNext, w' = w.place i addr len deviceWritable chainNext

theorem IsPlacement.writes {i : Fin n} {w w' : World n ξ} (h : IsPlacement i w w') :
    ∃ d rest, stores w w' = d :: rest := by
  obtain ⟨addr, len, deviceWritable, chainNext, rfl⟩ := h
  exact ⟨_, _, stores_place i addr len deviceWritable chainNext w⟩

/-- What a placement reads of a queue for the descriptor table. -/
def tableState (w : World n ξ) (i : Fin n) : UInt64 × UInt32 :=
  ((w.st.vqs i).descGpa, (w.st.vqs i).nextDescIdx)

/-- Placements on queue `i`, which has `size` descriptors at each of them, with anything in between
that keeps the table and the counter. The list holds the first store of each placement, oldest
first. -/
inductive Placements (Place : World n ξ → World n ξ → Prop) (i : Fin n) (size : Nat)
    (w : World n ξ) : List Store → World n ξ → Prop
  | start : Placements Place i size w [] w
  | place {ds : List Store} {v v' : World n ξ} (h : Placements Place i size w ds v)
      (hsize : (v.st.vqs i).size.toNat = size) (hcall : Place v v') :
      Placements Place i size w (ds ++ (stores v v').take 1) v'
  | other {ds : List Store} {v v' : World n ξ} (h : Placements Place i size w ds v)
      (hsame : tableState v' i = tableState v i) : Placements Place i size w ds v'

/-- The `next` field of a stored descriptor. -/
def Store.next (d : Store) : Nat := ofLe (slice d.data 14 2)

/-- Descriptors of a table, in the order they were written: all of them and their links are in the
table, each one links to where the following one is, and a lap of them is all over the table. -/
structure Linked (table : UInt64) (size : Nat) (ds : List Store) : Prop where
  inTable : ∀ d ∈ ds, ∃ idx < size, d.gpa = entryAddr table idx ∧ d.data.length = 16
  linkInTable : ∀ d ∈ ds, d.next < size
  links : ∀ k d d', ds[k]? = some d → ds[k + 1]? = some d' → d'.gpa = entryAddr table d.next
  distinct : ∀ k, (((ds.drop k).take size).map Store.gpa).Nodup

/-- Where descriptor number `k` goes, and what its link is, if the first one has number `first`. -/
structure Numbered (table : UInt64) (size k : Nat) (d : Store) : Prop where
  gpa : d.gpa = entryAddr table (k % size)
  next : d.next = (k + 1) % size
  length : d.data.length = 16

theorem next_descStore (q : VqState) (addr : UInt64) (len : UInt32)
    (deviceWritable chainNext : Bool) :
    (q.descStore addr len deviceWritable chainNext).next = q.descNext.toNat := by
  have hsplit : (q.descStore addr len deviceWritable chainNext).data =
      (le64 addr ++ le32 len ++ le16 (descFlags deviceWritable chainNext)) ++ le16 q.descNext :=
    rfl
  have hslice := slice_append_right
    (le64 addr ++ le32 len ++ le16 (descFlags deviceWritable chainNext)) (le16 q.descNext) 14 2
    (by simp)
  rw [Store.next, hsplit, hslice, ← ofLe_le16 q.descNext]
  rfl

theorem numbered_descStore {q : VqState} {table : UInt64} {e k : Nat} (he : e ≤ 16)
    (hsize : q.size.toNat = 2 ^ e) (htable : q.descGpa = table)
    (hcounter : q.nextDescIdx.toNat = k % 2 ^ 32) (addr : UInt64) (len : UInt32)
    (deviceWritable chainNext : Bool) :
    Numbered table (2 ^ e) k (q.descStore addr len deviceWritable chainNext) := by
  have hpos := Nat.two_pow_pos e
  have hsmall : 2 ^ e ≤ 2 ^ 16 := Nat.pow_le_pow_right (by decide) he
  have hidx : q.descIdx.toNat = k % 2 ^ e := by
    rw [VqState.descIdx, UInt32.toNat_mod, hcounter, hsize,
      Nat.mod_mod_of_dvd k (Nat.pow_dvd_pow 2 (by omega))]
  have hlt := Nat.mod_lt k hpos
  constructor
  · change q.descGpa + (q.descIdx * 16).toUInt64 = _
    rw [htable, entryAddr, UInt64.add_right_inj]
    apply UInt64.toNat_inj.mp
    rw [UInt32.toNat_toUInt64, UInt32.toNat_mul, hidx, UInt64.toNat_ofNat']
    simp only [UInt32.reduceToNat]
    omega
  · have hsum : (q.descIdx + 1).toNat = k % 2 ^ e + 1 := by
      rw [UInt32.toNat_add, hidx]
      simp only [UInt32.reduceToNat]
      omega
    have hnext := Nat.mod_lt (k + 1) hpos
    rw [next_descStore, VqState.descNext, UInt32.toNat_toUInt16, UInt32.toNat_mod, hsum, hsize,
      Nat.mod_add_mod]
    exact Nat.mod_eq_of_lt (by omega)
  · simp [VqState.descStore, descBytes]

private theorem Placements.numbered {Place : World n ξ → World n ξ → Prop} {i : Fin n} {e : Nat}
    (hPlace : ∀ v v', Place v v' → IsPlacement i v v') (he : e ≤ 16) {w v : World n ξ}
    {ds : List Store} (h : Placements Place i (2 ^ e) w ds v) :
    tableState v i = ((w.st.vqs i).descGpa, (w.st.vqs i).nextDescIdx + UInt32.ofNat ds.length) ∧
      ∀ k d, ds[k]? = some d →
        Numbered (w.st.vqs i).descGpa (2 ^ e) ((w.st.vqs i).nextDescIdx.toNat + k) d := by
  induction h with
  | start => exact ⟨by simp [tableState], by simp⟩
  | @place ds v v' h hsize hcall ih =>
      obtain ⟨hstate, hall⟩ := ih
      obtain ⟨addr, len, deviceWritable, chainNext, rfl⟩ := hPlace v v' hcall
      rw [tableState, Prod.mk.injEq] at hstate
      have hone : (stores v (v.place i addr len deviceWritable chainNext)).take 1 =
          [(v.st.vqs i).descStore addr len deviceWritable chainNext] := by
        rw [stores_place]
        rfl
      have hcounter : (v.st.vqs i).nextDescIdx.toNat =
          ((w.st.vqs i).nextDescIdx.toNat + ds.length) % 2 ^ 32 := by
        rw [hstate.2, UInt32.toNat_add, UInt32.toNat_ofNat', Nat.add_mod_mod]
      rw [hone]
      constructor
      · have hsucc : UInt32.ofNat (ds ++
            [(v.st.vqs i).descStore addr len deviceWritable chainNext]).length =
              UInt32.ofNat ds.length + 1 := by
          rw [List.length_append, List.length_singleton, UInt32.ofNat_add]
          rfl
        rw [hsucc, ← UInt32.add_assoc, ← hstate.1, ← hstate.2]
        simp [tableState, World.place, VqState.advance]
      · intro k d hd
        rcases CountedRing.getElem?_concat_cases hd with ⟨-, hd⟩ | ⟨rfl, rfl⟩
        · exact hall k d hd
        · exact numbered_descStore he hsize hstate.1 hcounter addr len deviceWritable chainNext
  | other h hsame ih => exact ⟨hsame.trans ih.1, ih.2⟩

private theorem entryAddr_injective {table : UInt64} {a b : Nat} (ha : a < 2 ^ 16) (hb : b < 2 ^ 16)
    (h : entryAddr table a = entryAddr table b) : a = b := by
  rw [entryAddr, entryAddr, UInt64.add_right_inj, ← UInt64.toNat_inj, UInt64.toNat_ofNat',
    UInt64.toNat_ofNat'] at h
  omega

theorem Placements.linked {Place : World n ξ → World n ξ → Prop} {i : Fin n} {e : Nat}
    (hPlace : ∀ v v', Place v v' → IsPlacement i v v') (he : e ≤ 16) {w v : World n ξ}
    {ds : List Store} (h : Placements Place i (2 ^ e) w ds v) :
    Linked (w.st.vqs i).descGpa (2 ^ e) ds := by
  have hall := (h.numbered hPlace he).2
  have hpos := Nat.two_pow_pos e
  have hsmall : 2 ^ e ≤ 2 ^ 16 := Nat.pow_le_pow_right (by decide) he
  constructor
  · intro d hd
    obtain ⟨k, hk⟩ := List.getElem?_of_mem hd
    have hnum := hall k d hk
    exact ⟨_, Nat.mod_lt _ hpos, hnum.gpa, hnum.length⟩
  · intro d hd
    obtain ⟨k, hk⟩ := List.getElem?_of_mem hd
    rw [(hall k d hk).next]
    exact Nat.mod_lt _ hpos
  · intro k d d' hd hd'
    rw [(hall (k + 1) d' hd').gpa, (hall k d hd).next, Nat.add_assoc]
  · intro k
    rw [List.nodup_iff_pairwise_ne, List.pairwise_iff_getElem]
    intro a b ha hb hab
    simp only [List.length_map, List.length_take, List.length_drop] at ha hb
    simp only [List.getElem_map, List.getElem_take, List.getElem_drop]
    have hda := hall (k + a) _ (List.getElem?_eq_getElem (by omega))
    have hdb := hall (k + b) _ (List.getElem?_eq_getElem (by omega))
    rw [hda.gpa, hdb.gpa]
    intro heq
    have hmod := entryAddr_injective ((Nat.mod_lt _ hpos).trans_le hsmall)
      ((Nat.mod_lt _ hpos).trans_le hsmall) heq
    exact CountedRing.slot_ne (by omega) (by omega) hmod

end VirtioCrash
