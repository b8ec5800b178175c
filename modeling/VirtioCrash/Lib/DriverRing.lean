import VirtioCrash.Lib.CountedRing
import VirtioCrash.Lib.SplitRing

/-!
# Virtqueues as a driver fills them

A driver places descriptors in consecutive table slots and publishes numbers of descriptors in
consecutive ring slots. `Shown` says that memory holds what of it the slots have room for; it is
kept by placements, by publications and by whatever leaves the rings alone, and a device that reads
the ring finds the published descriptors.
-/

namespace SplitRing

open Bytes CountedRing

/-- What a driver has put into a queue: the descriptors, and the numbers of the published ones. -/
structure Filled where
  descs : List Descriptor
  heads : List Nat

namespace Filled

def empty : Filled := ⟨[], []⟩

def place (f : Filled) (d : Descriptor) : Filled := { f with descs := f.descs ++ [d] }

def publish (f : Filled) (head : Nat) : Filled := { f with heads := f.heads ++ [head] }

/-- The published descriptors, in order. -/
def published (f : Filled) : List Descriptor := f.heads.filterMap fun h => f.descs[h]?

/-- Only descriptors that were placed are published. -/
def HeadsPlaced (f : Filled) : Prop := ∀ h ∈ f.heads, h < f.descs.length

theorem HeadsPlaced.place {f : Filled} (h : f.HeadsPlaced) (d : Descriptor) :
    (f.place d).HeadsPlaced := by
  intro k hk
  have hlt := h k hk
  rw [Filled.place, List.length_append]
  omega

theorem HeadsPlaced.publish {f : Filled} (h : f.HeadsPlaced) (d : Descriptor) :
    ((f.place d).publish f.descs.length).HeadsPlaced := by
  intro k hk
  rcases List.mem_append.mp hk with hold | hnew
  · exact h.place d k hold
  · rw [List.mem_singleton.mp hnew]
    simp [Filled.place, Filled.publish]

theorem HeadsPlaced.published_place {f : Filled} (h : f.HeadsPlaced) (d : Descriptor) :
    (f.place d).published = f.published := by
  apply List.filterMap_congr
  intro k hk
  exact List.getElem?_append_left (h k hk)

theorem HeadsPlaced.published_publish {f : Filled} (h : f.HeadsPlaced) (d : Descriptor) :
    ((f.place d).publish f.descs.length).published = f.published ++ [d] := by
  have hold := h.published_place d
  rw [published] at hold ⊢
  change (f.heads ++ [f.descs.length]).filterMap _ = _
  rw [List.filterMap_append]
  refine congrArg₂ (· ++ ·) hold ?_
  change [f.descs.length].filterMap (fun k => (f.descs ++ [d])[k]?) = [d]
  simp

theorem HeadsPlaced.published_getElem? {f : Filled} (h : f.HeadsPlaced) (j : Nat) :
    f.published[j]? = f.heads[j]?.bind fun k => f.descs[k]? := by
  rcases f with ⟨descs, heads⟩
  simp only [published]
  induction heads generalizing j with
  | nil => simp
  | cons k ks ih =>
      have hk : k < descs.length := h k List.mem_cons_self
      rw [List.filterMap_cons_some (List.getElem?_eq_getElem hk)]
      cases j with
      | zero => simp [List.getElem?_eq_getElem hk]
      | succ j => simpa using ih j fun k' hk' => h k' (List.mem_cons_of_mem k hk')

end Filled

private theorem entryAddr_add (table : UInt64) (k j : Nat) :
    entryAddr table k + UInt64.ofNat j = table + UInt64.ofNat (16 * k + j) := by
  rw [entryAddr, UInt64.add_assoc, ← UInt64.ofNat_add]

/-- Slot `k` of an avail ring. -/
def slotAddr (avail : UInt64) (k : Nat) : UInt64 := avail + UInt64.ofNat (4 + 2 * k)

private theorem slotAddr_add (avail : UInt64) (k j : Nat) :
    slotAddr avail k + UInt64.ofNat j = avail + UInt64.ofNat (4 + 2 * k + j) := by
  rw [slotAddr, UInt64.add_assoc, ← UInt64.ofNat_add]

/-- The ring lies behind a table of `size` entries. -/
structure Apart (table avail : UInt64) (size : Nat) : Prop where
  pos : 0 < size
  behind : ∃ gap, avail = table + UInt64.ofNat gap ∧ 16 * size ≤ gap ∧ gap + 4 + 2 * size < 2 ^ 32

/-- Two memories agree on the table and on the ring. -/
structure SameRings (table avail : UInt64) (size : Nat) (m m' : ByteMemory) : Prop where
  table : ∀ o < 16 * size, m' (table + UInt64.ofNat o) = m (table + UInt64.ofNat o)
  avail : ∀ o < 4 + 2 * size, m' (avail + UInt64.ofNat o) = m (avail + UInt64.ofNat o)

/-- Memory holds the last descriptors and ring entries, as many as there are slots, and the
index. -/
structure Shown (m : ByteMemory) (table avail : UInt64) (size : Nat) (f : Filled) : Prop where
  entries : ∀ k d, f.descs[k]? = some d → f.descs.length ≤ k + size →
    readDesc m (entryAddr table (k % size)) = d
  slots : ∀ j h, f.heads[j]? = some h → f.heads.length ≤ j + size →
    ofLe (m.read (slotAddr avail (j % size)) 2) = h % 2 ^ 16
  idx : f.heads ≠ [] → ofLe (m.read (avail + 2) 2) = f.heads.length % 2 ^ 16

theorem Shown.empty (m : ByteMemory) (table avail : UInt64) (size : Nat) :
    Shown m table avail size .empty where
  entries k d h := by simp [Filled.empty] at h
  slots j h hj := by simp [Filled.empty] at hj
  idx h := absurd rfl h

section

variable {m m' : ByteMemory} {table avail : UInt64} {size : Nat} {f : Filled}

private theorem SameRings.entry_eq (h : SameRings table avail size m m') {k : Nat} (hk : k < size) :
    readDesc m' (entryAddr table k) = readDesc m (entryAddr table k) := by
  apply readDesc_congr
  intro j hj
  rw [entryAddr_add]
  exact h.table _ (by omega)

private theorem SameRings.avail_eq (h : SameRings table avail size m m') {off : Nat}
    (hoff : off + 2 ≤ 4 + 2 * size) :
    m'.read (avail + UInt64.ofNat off) 2 = m.read (avail + UInt64.ofNat off) 2 := by
  apply List.map_congr_left
  intro j hj
  have hlt := List.mem_range.mp hj
  rw [UInt64.add_assoc, ← UInt64.ofNat_add]
  exact h.avail _ (by omega)

theorem Shown.congr (h : Shown m table avail size f) (hpos : 0 < size)
    (hsame : SameRings table avail size m m') : Shown m' table avail size f where
  entries k d hd hk := by
    rw [hsame.entry_eq (Nat.mod_lt _ hpos)]
    exact h.entries k d hd hk
  slots j x hx hj := by
    have hlt := Nat.mod_lt j hpos
    rw [slotAddr, hsame.avail_eq (by omega)]
    exact h.slots j x hx hj
  idx hne := by
    have hidx : 2 + 2 ≤ 4 + 2 * size := by omega
    rw [← h.idx hne]
    exact congrArg ofLe (hsame.avail_eq hidx)

private theorem entry_frame (ha : Apart table avail size) {k : Nat} (hk : k < size)
    {bs : List UInt8} (hlen : bs.length = 16) {o : Nat} (ho : o < 16 * size)
    (hout : o < 16 * k ∨ 16 * k + 16 ≤ o) :
    m.write (entryAddr table k) bs (table + UInt64.ofNat o) = m (table + UInt64.ofNat o) := by
  obtain ⟨gap, -, hgap, hend⟩ := ha.behind
  exact ByteMemory.write_offset_outside m table bs (by omega) (by omega) (by omega) (by omega)

private theorem entry_frame_avail (ha : Apart table avail size) {k : Nat} (hk : k < size)
    {bs : List UInt8} (hlen : bs.length = 16) {o : Nat} (ho : o < 4 + 2 * size) :
    m.write (entryAddr table k) bs (avail + UInt64.ofNat o) = m (avail + UInt64.ofNat o) := by
  obtain ⟨gap, havail, hgap, hend⟩ := ha.behind
  rw [havail, UInt64.add_assoc, ← UInt64.ofNat_add]
  exact ByteMemory.write_offset_outside m table bs (by omega) (by omega) (by omega) (by omega)

theorem Shown.place (h : Shown m table avail size f) (ha : Apart table avail size)
    {bs : List UInt8} {d : Descriptor} (hlen : bs.length = 16)
    (hd : ∀ m' : ByteMemory, ∀ a, readDesc (m'.write a bs) a = d) :
    Shown (m.write (entryAddr table (f.descs.length % size)) bs) table avail size
      (f.place d) where
  entries k e he hk := by
    have hslot := Nat.mod_lt f.descs.length ha.pos
    rw [Filled.place, List.length_append, List.length_singleton] at hk
    rcases getElem?_concat_cases he with ⟨hlt, he⟩ | ⟨rfl, rfl⟩
    · have hne := slot_ne hlt (by omega : f.descs.length < k + size)
      have hkslot := Nat.mod_lt k ha.pos
      rw [← h.entries k e he (by omega)]
      apply readDesc_congr
      intro j hj
      rw [entryAddr_add]
      exact entry_frame ha hslot hlen (by omega) (by omega)
    · exact hd m _
  slots j x hx hj := by
    have hslot := Nat.mod_lt f.descs.length ha.pos
    have hlt := Nat.mod_lt j ha.pos
    rw [← h.slots j x hx hj]
    congr 1
    apply List.map_congr_left
    intro i hi
    have hi2 := List.mem_range.mp hi
    rw [slotAddr_add]
    exact entry_frame_avail ha hslot hlen (by omega)
  idx hne := by
    have hslot := Nat.mod_lt f.descs.length ha.pos
    rw [Filled.place, ← h.idx hne]
    congr 1
    apply List.map_congr_left
    intro i hi
    have hi2 := List.mem_range.mp hi
    have hoff : avail + 2 + UInt64.ofNat i = avail + UInt64.ofNat (2 + i) := by
      rw [UInt64.ofNat_add, ← UInt64.add_assoc]
      rfl
    rw [hoff]
    exact entry_frame_avail ha hslot hlen (by omega)

theorem publication_frame (ha : Apart table avail size) (j : Nat) {es is : List UInt8}
    (hes : es.length = 2) (his : is.length = 2) {o : Nat} (ho : o < 16 * size) :
    ((m.write (slotAddr avail (j % size)) es).write (avail + 2) is) (table + UInt64.ofNat o) =
      m (table + UInt64.ofNat o) := by
  obtain ⟨gap, havail, hgap, hend⟩ := ha.behind
  have hlt := Nat.mod_lt j ha.pos
  have hidx : avail + 2 = table + UInt64.ofNat (gap + 2) := by
    rw [havail, UInt64.ofNat_add, ← UInt64.add_assoc]
    rfl
  rw [hidx, ByteMemory.write_offset_outside _ table is (by omega) (by omega) (by omega) (by omega),
    slotAddr, havail, UInt64.add_assoc, ← UInt64.ofNat_add]
  exact ByteMemory.write_offset_outside m table es (by omega) (by omega) (by omega) (by omega)

/-- A publication puts its entry into the slot of its number and moves the index behind it. -/
theorem Shown.publish (h : Shown m table avail size f) (ha : Apart table avail size) {head : Nat}
    {es is : List UInt8} (hes : es.length = 2) (his : is.length = 2)
    (hentry : ofLe es = head % 2 ^ 16) (hidx : ofLe is = (f.heads.length + 1) % 2 ^ 16) :
    Shown ((m.write (slotAddr avail (f.heads.length % size)) es).write (avail + 2) is) table avail
      size (f.publish head) where
  entries k d hd hk := by
    have hlt := Nat.mod_lt k ha.pos
    rw [← h.entries k d hd hk]
    apply readDesc_congr
    intro j hj
    rw [entryAddr_add]
    exact publication_frame ha _ hes his (by omega)
  slots j x hx hj := by
    obtain ⟨gap, -, hgap, hend⟩ := ha.behind
    have hlt := Nat.mod_lt j ha.pos
    have hslot := Nat.mod_lt f.heads.length ha.pos
    rw [Filled.publish, List.length_append, List.length_singleton] at hj
    have hindex (m' : ByteMemory) : (m'.write (avail + 2) is).read (slotAddr avail (j % size)) 2 =
        m'.read (slotAddr avail (j % size)) 2 :=
      ByteMemory.read_write_offset_outside m' avail (4 + 2 * (j % size)) 2 2 is (by omega)
        (by omega) (by omega) (by omega)
    rw [hindex]
    rcases getElem?_concat_cases hx with ⟨hold, hx⟩ | ⟨rfl, rfl⟩
    · have hne := slot_ne hold (by omega : f.heads.length < j + size)
      have hother := ByteMemory.read_write_offset_outside m avail (4 + 2 * (j % size))
        (4 + 2 * (f.heads.length % size)) 2 es (by omega) (by omega) (by omega) (by omega)
      rw [← h.slots j x hx (by omega)]
      exact congrArg ofLe hother
    · have hsame := ByteMemory.read_write_same m (slotAddr avail (f.heads.length % size)) es
        (by omega)
      rw [hes] at hsame
      rw [hsame, hentry]
  idx _ := by
    have hsame := ByteMemory.read_write_same
      (m.write (slotAddr avail (f.heads.length % size)) es) (avail + 2) is (by omega)
    rw [his] at hsame
    rw [hsame, hidx, Filled.publish, List.length_append, List.length_singleton]

/-- The descriptors a device finds when it reads the first `count` entries of the ring, each by the
table index that the entry names. -/
def availDescs (m : ByteMemory) (table avail : UInt64) (size count : Nat) : List Descriptor :=
  (List.range count).map fun j =>
    readDesc m (entryAddr table (ofLe (m.read (slotAddr avail (j % size)) 2)))

/-- The descriptors in the first `count` entries of the table. -/
def tableDescs (m : ByteMemory) (table : UInt64) (count : Nat) : List Descriptor :=
  (List.range count).map fun k => readDesc m (entryAddr table k)

/-- In its first lap the table holds what was placed, in order. -/
theorem Shown.tableDescs_eq (h : Shown m table avail size f) (hlap : f.descs.length ≤ size) :
    tableDescs m table f.descs.length = f.descs := by
  apply List.ext_getElem?
  intro k
  rw [tableDescs, List.getElem?_map]
  rcases Nat.lt_or_ge k f.descs.length with hk | hk
  · have hentry := h.entries k f.descs[k] (List.getElem?_eq_getElem hk) (by omega)
    rw [Nat.mod_eq_of_lt (by omega)] at hentry
    rw [List.getElem?_range hk, Option.map_some, hentry, List.getElem?_eq_getElem hk]
  · rw [List.getElem?_eq_none (by simpa using hk), List.getElem?_eq_none hk]
    rfl

/-- In the first lap of the table a device finds what was published, in order. -/
theorem Shown.availDescs_eq (h : Shown m table avail size f) (hheads : f.HeadsPlaced)
    (hlap : f.descs.length ≤ size) (hring : f.heads.length ≤ size) (hsize : size ≤ 2 ^ 16) :
    availDescs m table avail size f.heads.length = f.published := by
  apply List.ext_getElem?
  intro j
  rw [hheads.published_getElem?, availDescs, List.getElem?_map]
  rcases Nat.lt_or_ge j f.heads.length with hj | hj
  · have hhead := hheads f.heads[j] (List.getElem_mem hj)
    have hslot := h.slots j f.heads[j] (List.getElem?_eq_getElem hj) (by omega)
    have hentry := h.entries f.heads[j] f.descs[f.heads[j]] (List.getElem?_eq_getElem hhead)
      (by omega)
    rw [Nat.mod_eq_of_lt (by omega : f.heads[j] < size)] at hentry
    rw [Nat.mod_eq_of_lt (by omega : f.heads[j] < 2 ^ 16)] at hslot
    rw [List.getElem?_range hj, List.getElem?_eq_getElem hj, Option.map_some, hslot, hentry,
      Option.bind_some, List.getElem?_eq_getElem hhead]
  · rw [List.getElem?_eq_none (by simpa using hj), List.getElem?_eq_none hj]
    rfl

end

end SplitRing
