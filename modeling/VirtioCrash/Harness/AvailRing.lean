import VirtioCrash.Harness.DescriptorLinks

/-!
# The avail ring and its index

A publication takes its ring slot from a 32-bit counter and publishes the counter cut to 16 bits.
Both stand for the number of publications since the reset, so the slot is the previous index modulo
the queue size, and a device with a 16-bit counter of its own drains the ring in order.
-/

namespace VirtioCrash

open StateProgram Bytes Relation

variable {n : Nat} {ξ : Type}

/-- The two stores of a published chain: its ring entry, and the index behind it. -/
structure Publication where
  entry : Store
  idx : Store
  deriving DecidableEq

/-- The publication among the stores of a placement. -/
def publications : List Store → List Publication
  | [_, entry, idx] => [⟨entry, idx⟩]
  | _ => []

/-- The stores of a placement are its descriptor's and those of the publication, if there is one:
the entry, then the index. -/
theorem IsPlacement.stores_eq {i : Fin n} {w w' : World n ξ} (h : IsPlacement i w w') :
    ∃ d, stores w w' = d :: (publications (stores w w')).flatMap fun p => [p.entry, p.idx] := by
  obtain ⟨addr, len, deviceWritable, chainNext, rfl⟩ := h
  rw [stores_place]
  cases chainNext with
  | true => exact ⟨_, rfl⟩
  | false => exact ⟨_, rfl⟩

/-- What a publication stores: the entry and the index it announces. -/
def Publication.value (p : Publication) : Nat := ofLe p.entry.data
def Publication.announced (p : Publication) : UInt16 := UInt16.ofNat (ofLe p.idx.data)

/-- `avail.idx` as the last of the publications stored it; 0 before the first one. -/
def availIdx (ps : List Publication) : UInt16 := (ps.getLast?.map Publication.announced).getD 0

/-- Where slot `k` of an avail ring is. -/
def ringAddr (avail : UInt64) (k : Nat) : UInt64 := avail + UInt64.ofNat (4 + 2 * k)

/-- What a placement reads of a queue for the avail ring. -/
def ringState (w : World n ξ) (i : Fin n) : UInt64 × UInt32 :=
  ((w.st.vqs i).availGpa, (w.st.vqs i).nextAvailIdx)

/-- A step of the harness, with what it publishes on queue `i`: a placement while the queue has
`size` descriptors, or anything that keeps the ring's address and counter. -/
inductive QueueStep (Place : World n ξ → World n ξ → Prop) (i : Fin n) (size : Nat)
    (v : World n ξ) : List Publication → World n ξ → Prop
  | place {v' : World n ξ} (hsize : (v.st.vqs i).size.toNat = size) (hcall : Place v v') :
      QueueStep Place i size v (publications (stores v v')) v'
  | other {v' : World n ξ} (hsame : ringState v' i = ringState v i) :
      QueueStep Place i size v [] v'

/-- Any number of steps, from a world in which nothing has been published since the reset. -/
inductive Published (Place : World n ξ → World n ξ → Prop) (i : Fin n) (size : Nat)
    (w : World n ξ) : List Publication → World n ξ → Prop
  | start (hreset : (w.st.vqs i).nextAvailIdx = 0) : Published Place i size w [] w
  | step {ps qs : List Publication} {v v' : World n ξ} (h : Published Place i size w ps v)
      (hstep : QueueStep Place i size v qs v') : Published Place i size w (ps ++ qs) v'

/-- A publication after which `avail.idx` was `old`: the entry is in slot `old` modulo the size, and
the index is then one more. -/
structure Publication.Follows (avail : UInt64) (size : Nat) (old : UInt16) (p : Publication) :
    Prop where
  slot : p.entry.gpa = ringAddr avail (old.toNat % size)
  width : p.entry.data.length = 2
  idx : p.idx = ⟨avail + 2, le16 (old + 1)⟩

/-- Every publication follows the one before it. -/
def InStep (avail : UInt64) (size : Nat) (ps : List Publication) : Prop :=
  ∀ k (p : Publication), ps[k]? = some p → p.Follows avail size (availIdx (ps.take k))

private theorem availIdx_append_singleton (ps : List Publication) (p : Publication) :
    availIdx (ps ++ [p]) = p.announced := by
  rw [availIdx, List.getLast?_append, List.getLast?_singleton]
  rfl

private theorem Publication.Follows.announced {avail : UInt64} {size : Nat} {old : UInt16}
    {p : Publication} (h : p.Follows avail size old) : p.announced = old + 1 := by
  rw [Publication.announced, h.idx, ofLe_le16, UInt16.ofNat_toNat]

private theorem inStep_append_singleton {avail : UInt64} {size : Nat} {ps : List Publication}
    {p : Publication} (h : InStep avail size ps) (hp : p.Follows avail size (availIdx ps)) :
    InStep avail size (ps ++ [p]) := by
  intro k q hq
  rcases CountedRing.getElem?_concat_cases hq with ⟨hold, hq⟩ | ⟨rfl, rfl⟩
  · rw [List.take_append_of_le_length hold.le]
    exact h k q hq
  · rw [List.take_left]
    exact hp

private theorem QueueStep.cases {Place : World n ξ → World n ξ → Prop} {i : Fin n} {size : Nat}
    (hPlace : ∀ v v', Place v v' → IsPlacement i v v') {v v' : World n ξ} {ps : List Publication}
    (h : QueueStep Place i size v ps v') :
    (ps = [] ∧ ringState v' i = ringState v i) ∨
      ((v.st.vqs i).size.toNat = size ∧
        ps = [⟨⟨(v.st.vqs i).ringSlot, le16 (v.st.vqs i).nextDescIdx.toUInt16⟩,
          ⟨(v.st.vqs i).availGpa + 2, le16 ((v.st.vqs i).nextAvailIdx + 1).toUInt16⟩⟩] ∧
        ringState v' i = ((v.st.vqs i).availGpa, (v.st.vqs i).nextAvailIdx + 1)) := by
  cases h with
  | place hsize hcall =>
      obtain ⟨addr, len, deviceWritable, chainNext, rfl⟩ := hPlace v v' hcall
      rw [stores_place]
      cases chainNext with
      | true => exact Or.inl ⟨rfl, by simp [ringState, World.place, VqState.advance]⟩
      | false => exact Or.inr ⟨hsize, rfl, by simp [ringState, World.place, VqState.advance]⟩
  | other hsame => exact Or.inl ⟨rfl, hsame⟩

/-- A power of two up to `2^15` divides `2^16`, so a count is cut to a slot in either way. -/
theorem cut_mod {e : Nat} (he : e ≤ 15) (count : Nat) :
    (UInt16.ofNat count).toNat % 2 ^ e = count % 2 ^ e := by
  rw [UInt16.toNat_ofNat', Nat.mod_mod_of_dvd count (Nat.pow_dvd_pow 2 (by omega))]

theorem follows_of_count {q : VqState} {e count : Nat} (he : e ≤ 15)
    (hsize : q.size.toNat = 2 ^ e) (hcount : q.nextAvailIdx = UInt32.ofNat count) (data : UInt16) :
    Publication.Follows q.availGpa (2 ^ e) (UInt16.ofNat count)
      ⟨⟨q.ringSlot, le16 data⟩, ⟨q.availGpa + 2, le16 (q.nextAvailIdx + 1).toUInt16⟩⟩ := by
  have hpos := Nat.two_pow_pos e
  have hsmall : 2 ^ e ≤ 2 ^ 15 := Nat.pow_le_pow_right (by decide) he
  have hslot : (q.nextAvailIdx % q.size).toNat = count % 2 ^ e := by
    rw [UInt32.toNat_mod, hcount, hsize, UInt32.toNat_ofNat',
      Nat.mod_mod_of_dvd count (Nat.pow_dvd_pow 2 (by omega))]
  have hold := cut_mod he count
  have hlt := Nat.mod_lt count hpos
  constructor
  · change q.availGpa + 4 + (q.nextAvailIdx % q.size * 2).toUInt64 = _
    rw [ringAddr, hold, UInt64.add_assoc, UInt64.add_right_inj]
    apply UInt64.toNat_inj.mp
    rw [UInt64.toNat_add, UInt32.toNat_toUInt64, UInt32.toNat_mul, hslot, UInt64.toNat_ofNat']
    simp only [UInt32.reduceToNat, UInt64.reduceToNat]
    omega
  · exact le16_length data
  · have hcut : (q.nextAvailIdx + 1).toUInt16 = UInt16.ofNat count + 1 := by
      apply UInt16.toNat_inj.mp
      rw [UInt32.toNat_toUInt16, UInt32.toNat_add, hcount, UInt32.toNat_ofNat', UInt16.toNat_add,
        UInt16.toNat_ofNat']
      simp only [UInt32.reduceToNat, UInt16.reduceToNat]
      omega
    rw [hcut]

/-- The queue and the publications so far agree on how many there were. -/
structure Counted (i : Fin n) (size : Nat) (w : World n ξ) (ps : List Publication)
    (v : World n ξ) : Prop where
  state : ringState v i = ((w.st.vqs i).availGpa, UInt32.ofNat ps.length)
  idx : availIdx ps = UInt16.ofNat ps.length
  inStep : InStep (w.st.vqs i).availGpa size ps

theorem Published.counted {Place : World n ξ → World n ξ → Prop} {i : Fin n} {e : Nat}
    (hPlace : ∀ v v', Place v v' → IsPlacement i v v') (he : e ≤ 15) {w v : World n ξ}
    {ps : List Publication} (h : Published Place i (2 ^ e) w ps v) :
    Counted i (2 ^ e) w ps v := by
  induction h with
  | start hreset => exact ⟨by simp [ringState, hreset], rfl, by simp [InStep]⟩
  | @step ps qs v v' h hstep ih =>
      have hstate := ih.state
      rw [ringState, Prod.mk.injEq] at hstate
      rcases hstep.cases hPlace with ⟨rfl, hsame⟩ | ⟨hsize, rfl, hnext⟩
      · rw [List.append_nil]
        exact ⟨hsame.trans ih.state, ih.idx, ih.inStep⟩
      · have hfollows := follows_of_count he hsize hstate.2 (v.st.vqs i).nextDescIdx.toUInt16
        constructor
        · rw [hnext, hstate.1, hstate.2, List.length_append, List.length_singleton,
            UInt32.ofNat_add]
          rfl
        · rw [availIdx_append_singleton, hfollows.announced, List.length_append,
            List.length_singleton, UInt16.ofNat_add]
          rfl
        · rw [hstate.1, ← ih.idx] at hfollows
          exact inStep_append_singleton ih.inStep (hstate.1 ▸ hfollows)

/-- Guest memory after the two stores of each publication. -/
def storeAll (m : ByteMemory) (ps : List Publication) : ByteMemory :=
  ps.foldl (fun m p => (m.write p.entry.gpa p.entry.data).write p.idx.gpa p.idx.data) m

/-- Nothing but the publications of a step writes the avail ring of queue `i`: its flags, its index
and its `size` entries. -/
def OnlyPublications (m : ByteMemory) (i : Fin n) (size : Nat) (v : World n ξ)
    (ps : List Publication) (v' : World n ξ) : Prop :=
  ∀ k < 4 + 2 * size,
    memoryAfter m v'.trace ((v.st.vqs i).availGpa + UInt64.ofNat k) =
      storeAll (memoryAfter m v.trace) ps ((v.st.vqs i).availGpa + UInt64.ofNat k)

/-- A queue and a device that reads the ring slots one after the other by a 16-bit counter, as long
as the counter is not the index. At most `size` entries are outstanding, and only publications write
the ring. -/
inductive Watched (Place : World n ξ → World n ξ → Prop) (i : Fin n) (size : Nat) (m : ByteMemory)
    (w : World n ξ) : List Publication → UInt16 → List Nat → World n ξ → Prop
  | start (hreset : (w.st.vqs i).nextAvailIdx = 0) : Watched Place i size m w [] 0 [] w
  | harness {ps qs : List Publication} {counter : UInt16} {taken : List Nat} {v v' : World n ξ}
      (h : Watched Place i size m w ps counter taken v) (hstep : QueueStep Place i size v qs v')
      (honly : OnlyPublications m i size v qs v')
      (hroom : (ps ++ qs).length ≤ taken.length + size) :
      Watched Place i size m w (ps ++ qs) counter taken v'
  | consume {ps : List Publication} {counter : UInt16} {taken : List Nat} {v : World n ξ}
      (h : Watched Place i size m w ps counter taken v) (hmore : counter ≠ availIdx ps) :
      Watched Place i size m w ps (counter + 1)
        (taken ++ [ofLe ((memoryAfter m v.trace).read
          (ringAddr (v.st.vqs i).availGpa (counter.toNat % size)) 2)]) v

private theorem Watched.published {Place : World n ξ → World n ξ → Prop} {i : Fin n} {size : Nat}
    {m : ByteMemory} {w v : World n ξ} {ps : List Publication} {counter : UInt16} {taken : List Nat}
    (h : Watched Place i size m w ps counter taken v) : Published Place i size w ps v := by
  induction h with
  | start hreset => exact .start hreset
  | harness h hstep honly hroom ih => exact ih.step hstep
  | consume h hmore ih => exact ih

/-- What a run shows of a ring of entries: memory holds its slots and its index, and the device's
counter is the number of entries it has read. -/
structure Shows (m : ByteMemory) (i : Fin n) (size : Nat) (ps : List Publication)
    (counter : UInt16) (taken : List Nat) (v : World n ξ) (r : CountedRing.Ring Nat) : Prop where
  published : r.published = ps.map Publication.value
  consumed : r.read = taken
  counted : counter = UInt16.ofNat taken.length
  slots : ∀ k < size, ofLe ((memoryAfter m v.trace).read (ringAddr (v.st.vqs i).availGpa k) 2) =
    r.slots k
  idx : ps ≠ [] →
    (memoryAfter m v.trace).read ((v.st.vqs i).availGpa + 2) 2 = le16 (availIdx ps)

private theorem OnlyPublications.read_eq {m : ByteMemory} {i : Fin n} {size : Nat}
    {v v' : World n ξ} {ps : List Publication} (h : OnlyPublications m i size v ps v') (off : Nat)
    (hoff : off + 2 ≤ 4 + 2 * size) :
    (memoryAfter m v'.trace).read ((v.st.vqs i).availGpa + UInt64.ofNat off) 2 =
      (storeAll (memoryAfter m v.trace) ps).read ((v.st.vqs i).availGpa + UInt64.ofNat off) 2 := by
  apply List.map_congr_left
  intro j hj
  have hlt := List.mem_range.mp hj
  rw [UInt64.add_assoc, ← UInt64.ofNat_add]
  exact h (off + j) (by omega)

private theorem Publication.Follows.memory {avail : UInt64} {size : Nat} {old : UInt16}
    {p : Publication} (h : p.Follows avail size old) (hpos : 0 < size) (hsize : size ≤ 2 ^ 15)
    (m : ByteMemory) :
    (∀ k < size, ofLe ((storeAll m [p]).read (ringAddr avail k) 2) =
      if k = old.toNat % size then p.value else ofLe (m.read (ringAddr avail k) 2)) ∧
    (storeAll m [p]).read (avail + 2) 2 = le16 (old + 1) := by
  have hslot := Nat.mod_lt old.toNat hpos
  have hwidth := h.width
  have hidx : p.idx.data.length = 2 := by
    rw [h.idx]
    exact le16_length _
  have hstore : storeAll m [p] =
      (m.write (ringAddr avail (old.toNat % size)) p.entry.data).write
        (avail + UInt64.ofNat 2) p.idx.data := by
    rw [← h.slot, storeAll, List.foldl_cons, List.foldl_nil, h.idx]
    rfl
  rw [hstore]
  constructor
  · intro k hk
    have hbehind (m' : ByteMemory) :
        (m'.write (avail + UInt64.ofNat 2) p.idx.data).read (ringAddr avail k) 2 =
          m'.read (ringAddr avail k) 2 :=
      ByteMemory.read_write_offset_outside m' avail (4 + 2 * k) 2 2 _ (by omega) (by omega)
        (by omega) (by omega)
    rw [hbehind]
    split
    · rename_i heq
      subst heq
      have hsame := ByteMemory.read_write_same m (ringAddr avail (old.toNat % size)) p.entry.data
        (by omega)
      rw [hwidth] at hsame
      rw [hsame, Publication.value]
    · rename_i hne
      exact congrArg ofLe (ByteMemory.read_write_offset_outside m avail (4 + 2 * k)
        (4 + 2 * (old.toNat % size)) 2 _ (by omega) (by omega) (by omega) (by omega))
  · have hsame := ByteMemory.read_write_same
      (m.write (ringAddr avail (old.toNat % size)) p.entry.data) (avail + UInt64.ofNat 2)
      p.idx.data (by omega)
    rw [hidx] at hsame
    exact hsame.trans (congrArg Store.data h.idx)

private theorem Shows.unchanged {m : ByteMemory} {i : Fin n} {size : Nat} {ps : List Publication}
    {counter : UInt16} {taken : List Nat} {v v' : World n ξ} {r : CountedRing.Ring Nat}
    (h : Shows m i size ps counter taken v r) (hsize : 0 < size)
    (havail : (v'.st.vqs i).availGpa = (v.st.vqs i).availGpa)
    (honly : OnlyPublications m i size v [] v') : Shows m i size ps counter taken v' r := by
  refine ⟨h.published, h.consumed, h.counted, ?_, ?_⟩
  · intro k hk
    rw [havail, ← h.slots k hk]
    exact congrArg ofLe (honly.read_eq (4 + 2 * k) (by omega))
  · intro hne
    rw [havail, ← h.idx hne]
    exact honly.read_eq 2 (by omega)

private theorem Shows.publish {m : ByteMemory} {i : Fin n} {size : Nat} {ps : List Publication}
    {p : Publication} {counter : UInt16} {taken : List Nat} {v v' : World n ξ}
    {r : CountedRing.Ring Nat} (h : Shows m i size ps counter taken v r) (hpos : 0 < size)
    (hsize : size ≤ 2 ^ 15) {old : UInt16} (hp : p.Follows (v.st.vqs i).availGpa size old)
    (hold : old.toNat % size = r.published.length % size)
    (havail : (v'.st.vqs i).availGpa = (v.st.vqs i).availGpa)
    (honly : OnlyPublications m i size v [p] v') :
    Shows m i size (ps ++ [p]) counter taken v'
      { r with
        slots := Function.update r.slots (r.published.length % size) p.value
        published := r.published ++ [p.value] } := by
  obtain ⟨hslots, hstored⟩ := hp.memory hpos hsize (memoryAfter m v.trace)
  refine ⟨?_, h.consumed, h.counted, ?_, ?_⟩
  · rw [List.map_append, ← h.published]
    rfl
  · intro k hk
    have hsame := honly.read_eq (4 + 2 * k) (by omega)
    rw [havail]
    refine (congrArg ofLe hsame).trans ((hslots k hk).trans ?_)
    rw [hold]
    split
    · rename_i heq
      rw [heq]
      exact (Function.update_self _ _ r.slots).symm
    · rename_i hne
      exact (h.slots k hk).trans (Function.update_of_ne hne _ r.slots).symm
  · intro _
    have hidx := honly.read_eq 2 (by omega)
    rw [havail, availIdx_append_singleton, hp.announced]
    exact hidx.trans hstored

private theorem Shows.consume {m : ByteMemory} {i : Fin n} {size : Nat} {ps : List Publication}
    {counter : UInt16} {taken : List Nat} {v : World n ξ} {r : CountedRing.Ring Nat}
    (h : Shows m i size ps counter taken v r) (hpos : 0 < size)
    (hcut : counter.toNat % size = r.read.length % size) :
    Shows m i size ps (counter + 1)
      (taken ++ [ofLe ((memoryAfter m v.trace).read
        (ringAddr (v.st.vqs i).availGpa (counter.toNat % size)) 2)]) v
      { r with read := r.read ++ [r.slots (r.read.length % size)] } := by
  refine ⟨h.published, ?_, ?_, h.slots, h.idx⟩
  · rw [h.slots _ (Nat.mod_lt counter.toNat hpos), hcut, ← h.consumed]
  · rw [List.length_append, List.length_singleton, UInt16.ofNat_add, ← h.counted]
    rfl

/-- Every run is one of a ring with counters. -/
private theorem Watched.simulates {Place : World n ξ → World n ξ → Prop} {i : Fin n} {e : Nat}
    (hPlace : ∀ v v', Place v v' → IsPlacement i v v') (he : e ≤ 15) {m : ByteMemory}
    {w v : World n ξ} {ps : List Publication} {counter : UInt16} {taken : List Nat}
    (h : Watched Place i (2 ^ e) m w ps counter taken v) :
    ∃ slots r, ReflTransGen (CountedRing.Step (2 ^ e)) ⟨slots, [], []⟩ r ∧
      Shows m i (2 ^ e) ps counter taken v r := by
  have hpos := Nat.two_pow_pos e
  have hsmall : 2 ^ e ≤ 2 ^ 15 := Nat.pow_le_pow_right (by decide) he
  induction h with
  | start hreset =>
      exact ⟨fun k => ofLe ((memoryAfter m w.trace).read (ringAddr (w.st.vqs i).availGpa k) 2), _,
        .refl, rfl, rfl, rfl, fun _ _ => rfl, fun hne => absurd rfl hne⟩
  | @harness ps qs counter taken v v' h hstep honly hroom ih =>
      obtain ⟨slots, r, hr, hshows⟩ := ih
      have hstate := (h.published.counted hPlace he).state
      rw [ringState, Prod.mk.injEq] at hstate
      rcases hstep.cases hPlace with ⟨rfl, hkept⟩ | ⟨hsize, rfl, hnext⟩
      · -- nothing is published, and the ring stays as it is
        rw [List.append_nil]
        exact ⟨slots, r, hr, hshows.unchanged hpos (congrArg Prod.fst hkept) honly⟩
      · -- one entry is published, in the slot of the ring's own counter
        have hfollows := follows_of_count he hsize hstate.2 (v.st.vqs i).nextDescIdx.toUInt16
        have hlen : r.published.length = ps.length := by
          rw [hshows.published, List.length_map]
        have hslot : (UInt16.ofNat ps.length).toNat % 2 ^ e = r.published.length % 2 ^ e := by
          rw [hlen, cut_mod he]
        refine ⟨slots, _, hr.tail (.publish r _ ?_),
          hshows.publish hpos hsmall hfollows hslot (congrArg Prod.fst hnext) honly⟩
        rw [List.length_append, List.length_singleton] at hroom
        rw [hlen, hshows.consumed]
        omega
  | @consume ps counter taken v h hmore ih =>
      obtain ⟨slots, r, hr, hshows⟩ := ih
      have hidx := (h.published.counted hPlace he).idx
      have hsound := CountedRing.sound_of_steps hr
      have hlen : r.published.length = ps.length := by
        rw [hshows.published, List.length_map]
      have hcut : counter.toNat % 2 ^ e = r.read.length % 2 ^ e := by
        rw [hshows.counted, ← hshows.consumed, cut_mod he]
      have hless : r.read.length < r.published.length := by
        rcases hsound.inOrder.length_le.lt_or_eq with hlt | heq
        · exact hlt
        · rw [hidx, hshows.counted, ← hlen, ← heq, hshows.consumed] at hmore
          exact absurd rfl hmore
      exact ⟨slots, _, hr.tail (.consume r hless), hshows.consume hpos hcut⟩

/-- What a device that drains the ring has read. -/
structure Drained (m : ByteMemory) (i : Fin n) (ps : List Publication) (counter : UInt16)
    (taken : List Nat) (v : World n ξ) : Prop where
  inOrder : taken <+: ps.map Publication.value
  complete : counter = availIdx ps ↔ taken = ps.map Publication.value
  idx : ps ≠ [] →
    (memoryAfter m v.trace).read ((v.st.vqs i).availGpa + 2) 2 = le16 (availIdx ps)

theorem Watched.drained {Place : World n ξ → World n ξ → Prop} {i : Fin n} {e : Nat}
    (hPlace : ∀ v v', Place v v' → IsPlacement i v v') (he : e ≤ 15) {m : ByteMemory}
    {w v : World n ξ} {ps : List Publication} {counter : UInt16} {taken : List Nat}
    (h : Watched Place i (2 ^ e) m w ps counter taken v) : Drained m i ps counter taken v := by
  obtain ⟨slots, r, hr, hshows⟩ := h.simulates hPlace he
  have hcounted := h.published.counted hPlace he
  have hsound := CountedRing.sound_of_steps hr
  have hsmall : 2 ^ e ≤ 2 ^ 15 := Nat.pow_le_pow_right (by decide) he
  have hlen : r.published.length = ps.length := by
    rw [hshows.published, List.length_map]
  constructor
  · rw [← hshows.published, ← hshows.consumed]
    exact hsound.inOrder
  · have hiff := hsound.drained_iff 65536 (by omega)
    rw [hshows.published, hshows.consumed, List.length_map] at hiff
    rw [← hiff, hshows.counted, hcounted.idx, ← UInt16.toNat_inj, UInt16.toNat_ofNat',
      UInt16.toNat_ofNat']
  · exact hshows.idx

/-- A placement whose descriptor stays out of the avail ring writes it by its publication only. -/
theorem onlyPublications_place (m : ByteMemory) (i : Fin n) (size : Nat) (addr : UInt64)
    (len : UInt32) (deviceWritable chainNext : Bool) (v : World n ξ)
    (hapart : ∀ k < 4 + 2 * size,
      16 ≤ ((v.st.vqs i).availGpa + UInt64.ofNat k - (v.st.vqs i).descSlot).toNat) :
    OnlyPublications m i size v
      (publications (stores v (v.place i addr len deviceWritable chainNext)))
      (v.place i addr len deviceWritable chainNext) := by
  intro k hk
  have hdesc := ByteMemory.write_outside (memoryAfter m v.trace) (v.st.vqs i).descSlot
    ((v.st.vqs i).availGpa + UInt64.ofNat k)
    (descBytes addr len (descFlags deviceWritable chainNext) (v.st.vqs i).descNext)
    (by simpa [descBytes] using hapart k hk)
  rw [stores_place]
  cases chainNext with
  | true => exact hdesc
  | false =>
      change ByteMemory.write (ByteMemory.write (ByteMemory.write (memoryAfter m v.trace) _ _) _ _)
        _ _ _ = ByteMemory.write (ByteMemory.write (memoryAfter m v.trace) _ _) _ _ _
      simp only [ByteMemory.write] at hdesc ⊢
      rw [hdesc]

end VirtioCrash
