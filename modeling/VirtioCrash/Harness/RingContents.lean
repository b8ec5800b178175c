import VirtioCrash.Harness.AllOrNothing
import VirtioCrash.Harness.AvailRing
import VirtioCrash.Harness.RingEntries
import VirtioCrash.Lib.DriverRing

/-!
# What the rings hold

The placements since the last reset, as a driver's virtqueue, and guest memory that shows it. A
placement on the queue is one of the driver's; everything else a thread stores is outside the areas
of the queue.
-/

namespace VirtioCrash

open StateProgram Bytes SplitRing BumpAllocator

variable {n : Nat} {ξ : Type}

/-- The placements on a queue since the last reset, newest first. -/
def queueLog (i : Nat) (hist : List Mark) : List Placement :=
  (placements (sinceReset hist)).filter fun p => decide (p.vqIdx = i)

/-- A placement as descriptor number `k` of a queue. -/
def Placement.descriptor (p : Placement) (size k : Nat) : Descriptor where
  addr := p.addr
  len := p.len
  flags := descFlags p.deviceWritable p.chainNext
  next := UInt16.ofNat ((k + 1) % size)

/-- What placements (newest first) fill into a queue of `size` descriptors. The ring entry of a
chain is the number of its last one. -/
def filled (size : Nat) : List Placement → Filled
  | [] => .empty
  | p :: older =>
      let f := filled size older
      let g := f.place (p.descriptor size f.descs.length)
      if p.chainNext then g else g.publish f.descs.length

theorem filled_length (size : Nat) (ps : List Placement) :
    (filled size ps).descs.length = ps.length := by
  induction ps with
  | nil => rfl
  | cons p ps ih =>
      have hplace : ((filled size ps).place
          (p.descriptor size (filled size ps).descs.length)).descs.length = ps.length + 1 := by
        rw [Filled.place, List.length_append, ih, List.length_singleton]
      rw [filled, List.length_cons]
      split
      · exact hplace
      · exact hplace

theorem filled_heads_le (size : Nat) (ps : List Placement) :
    (filled size ps).heads.length ≤ ps.length := by
  induction ps with
  | nil => exact Nat.le_refl 0
  | cons p ps ih =>
      rw [filled, List.length_cons]
      split
      · exact Nat.le_succ_of_le ih
      · rw [Filled.publish, List.length_append, List.length_singleton]
        exact Nat.succ_le_succ ih

theorem filled_headsPlaced (size : Nat) (ps : List Placement) : (filled size ps).HeadsPlaced := by
  induction ps with
  | nil => simp [filled, Filled.HeadsPlaced, Filled.empty]
  | cons p ps ih =>
      rw [filled]
      split
      · exact ih.place _
      · exact ih.publish _

theorem queueLog_reset (i : Nat) (hist : List Mark) : queueLog i (.reset :: hist) = [] := by
  rw [queueLog, sinceReset_reset]
  rfl

theorem queueLog_append {ms : List Mark} (hms : placements ms = []) (hno : Mark.reset ∉ ms)
    (i : Nat) (hist : List Mark) : queueLog i (ms ++ hist) = queueLog i hist := by
  rw [queueLog, sinceReset_append hno, placements, List.filterMap_append]
  change (placements ms ++ placements _).filter _ = _
  rw [hms]
  rfl

theorem queueLog_place (i j : Fin n) (addr : UInt64) (len : UInt32)
    (deviceWritable chainNext : Bool) {w : World n ξ} (hsize : (w.st.vqs i).size ≠ 0) :
    queueLog j (w.place i addr len deviceWritable chainNext).hist =
      if j = i then ⟨i, addr, len, deviceWritable, chainNext⟩ :: queueLog j w.hist
      else queueLog j w.hist := by
  have hmarks : (w.place i addr len deviceWritable chainNext).hist =
      .place i addr len deviceWritable chainNext :: w.hist := by
    simp [World.place, VqState.placeMarks, hsize]
  rw [hmarks, queueLog, sinceReset_cons w.hist Mark.noConfusion]
  by_cases hj : j = i
  · subst hj
    simp [placements, queueLog]
  · have hne : ¬(i : Nat) = j := fun he => hj (Fin.ext he.symm)
    simp [placements, queueLog, hne, hj]

/-- The event stores nothing at the addresses from `lo` to `hi`. -/
def Event.Avoids (lo hi : Nat) : Event → Prop
  | .memWrite gpa data =>
      gpa.toNat + data.length ≤ 2 ^ 64 ∧ (gpa.toNat + data.length ≤ lo ∨ hi ≤ gpa.toNat)
  | _ => True

theorem Event.avoids_of_silent {e : Event} (he : e.isMemWrite = false) (lo hi : Nat) :
    e.Avoids lo hi := by
  cases e with
  | memWrite gpa data => cases he
  | _ => trivial

theorem memoryAfter_avoids (m : ByteMemory) {es : List Event} {lo hi : Nat}
    (hes : ∀ e ∈ es, e.Avoids lo hi) (tr : List Event) {x : UInt64} (hlo : lo ≤ x.toNat)
    (hhi : x.toNat < hi) : memoryAfter m (es ++ tr) x = memoryAfter m tr x := by
  induction es with
  | nil => rfl
  | cons e es ih =>
      have hrest := ih fun e' he' => hes e' (List.mem_cons_of_mem e he')
      have he := hes e List.mem_cons_self
      cases e with
      | memWrite gpa data =>
          obtain ⟨hend, hout⟩ := he
          have hlt := gpa.toNat_lt
          have hx := x.toNat_lt
          rw [List.cons_append, memoryAfter, ByteMemory.write_outside]
          · exact hrest
          · rw [UInt64.toNat_sub]
            omega
      | _ => exact hrest

/-- The three addresses of a placement, as long as the indices do not wrap around. -/
theorem placeEvents_avoid {q : VqState} (addr : UInt64) (len : UInt32)
    (deviceWritable chainNext : Bool) {lo hi : Nat} (hpos : q.size ≠ 0)
    (hdesc : q.descGpa.toNat + 16 * q.size.toNat ≤ 2 ^ 32)
    (havail : q.availGpa.toNat + 4 + 2 * q.size.toNat ≤ 2 ^ 32)
    (houtDesc : q.descGpa.toNat + 16 * q.size.toNat ≤ lo ∨ hi ≤ q.descGpa.toNat)
    (houtAvail : q.availGpa.toNat + 4 + 2 * q.size.toNat ≤ lo ∨ hi ≤ q.availGpa.toNat) :
    ∀ e ∈ q.placeEvents addr len deviceWritable chainNext, e.Avoids lo hi := by
  have hsize : 0 < q.size.toNat := by
    rcases Nat.eq_zero_or_pos q.size.toNat with hz | h
    · exact absurd (UInt32.toNat_inj.mp hz) hpos
    · exact h
  have hidx := Nat.mod_lt q.nextDescIdx.toNat hsize
  have hentry := Nat.mod_lt q.nextAvailIdx.toNat hsize
  have hslot : q.descSlot.toNat = q.descGpa.toNat + 16 * (q.nextDescIdx.toNat % q.size.toNat) := by
    rw [VqState.descSlot, VqState.descIdx, UInt64.toNat_add, UInt32.toNat_toUInt64,
      UInt32.toNat_mul, UInt32.toNat_mod]
    simp only [UInt32.reduceToNat]
    omega
  have hring : q.ringSlot.toNat =
      q.availGpa.toNat + 4 + 2 * (q.nextAvailIdx.toNat % q.size.toNat) := by
    rw [VqState.ringSlot, UInt64.toNat_add, UInt64.toNat_add, UInt32.toNat_toUInt64,
      UInt32.toNat_mul, UInt32.toNat_mod]
    simp only [UInt32.reduceToNat, UInt64.reduceToNat]
    omega
  have hindex : (q.availGpa + 2).toNat = q.availGpa.toNat + 2 := by
    rw [UInt64.toNat_add]
    simp only [UInt64.reduceToNat]
    omega
  have hlen : (descBytes addr len (descFlags deviceWritable chainNext) q.descNext).length = 16 := by
    simp [descBytes]
  have hdescAvoids : Event.Avoids lo hi (.memWrite q.descSlot
      (descBytes addr len (descFlags deviceWritable chainNext) q.descNext)) := by
    rw [Event.Avoids, hlen, hslot]
    omega
  intro e he
  rcases List.mem_append.mp he with he | he
  · cases chainNext with
    | true => cases he
    | false =>
        rcases List.mem_cons.mp he with rfl | he
        · rw [Event.Avoids, hindex, le16_length]
          omega
        · rw [List.mem_singleton.mp he, Event.Avoids, hring, le16_length]
          omega
  · rw [List.mem_singleton.mp he]
    exact hdescAvoids

/-- The counters of queue `i` and guest memory are those of the placements since the reset. -/
structure QueueShown (m : ByteMemory) (i : Fin n) (w : World n ξ) : Prop where
  avail : (w.st.vqs i).nextAvailIdx =
    UInt32.ofNat (filled (w.st.vqs i).size.toNat (queueLog i w.hist)).heads.length
  idle : (w.st.vqs i).size = 0 → queueLog i w.hist = []
  shown : (w.st.vqs i).size ≠ 0 →
    Shown (memoryAfter m w.trace) (w.st.vqs i).descGpa (w.st.vqs i).availGpa
      (w.st.vqs i).size.toNat (filled (w.st.vqs i).size.toNat (queueLog i w.hist))

private theorem InAreas.apart {i : Fin n} {q : VqState} (h : InAreas i q) (hpos : q.size ≠ 0) :
    Apart q.descGpa q.availGpa q.size.toNat where
  pos := Nat.pos_of_ne_zero fun hz => hpos (UInt32.toNat_inj.mp hz)
  behind := by
    refine ⟨0x1000, h.fits.avail, ?_, ?_⟩
    · have := h.size
      omega
    · have := h.size
      omega

private theorem sameRings_of_avoids (m : ByteMemory) {i : Fin n} {q : VqState} (h : InAreas i q)
    (hn : n ≤ 16) {es : List Event}
    (hes : ∀ e ∈ es, e.Avoids (0x47000000 + i * 0x3000) (0x47000000 + (i + 1) * 0x3000))
    (tr : List Event) :
    SameRings q.descGpa q.availGpa q.size.toNat (memoryAfter m tr) (memoryAfter m (es ++ tr)) := by
  have hi := lt_of_lt_of_le i.isLt hn
  obtain ⟨hdesc, havail, -⟩ := resetVq_toNat hi
  have hsize := h.size
  rw [← h.desc] at hdesc
  rw [← h.avail] at havail
  constructor
  · intro o ho
    have hx : (q.descGpa + UInt64.ofNat o).toNat = 0x47000000 + i * 0x3000 + o := by
      rw [UInt64.toNat_add, UInt64.toNat_ofNat', hdesc]
      omega
    exact memoryAfter_avoids m hes tr (by omega) (by omega)
  · intro o ho
    have hx : (q.availGpa + UInt64.ofNat o).toNat = 0x47000000 + i * 0x3000 + 0x1000 + o := by
      rw [UInt64.toNat_add, UInt64.toNat_ofNat', havail]
      omega
    exact memoryAfter_avoids m hes tr (by omega) (by omega)

theorem QueueShown.frame {m : ByteMemory} {i : Fin n} {w w' : World n ξ} (h : QueueShown m i w)
    (hareas : InAreas i (w.st.vqs i)) (hn : n ≤ 16) (hq : w'.st.vqs i = w.st.vqs i)
    (hlog : queueLog i w'.hist = queueLog i w.hist)
    (htrace : ∃ es, w'.trace = es ++ w.trace ∧
      ∀ e ∈ es, e.Avoids (0x47000000 + i * 0x3000) (0x47000000 + (i + 1) * 0x3000)) :
    QueueShown m i w' := by
  obtain ⟨es, hes, havoid⟩ := htrace
  constructor
  · rw [hq, hlog]
    exact h.avail
  · rw [hq, hlog]
    exact h.idle
  · rw [hq, hlog, hes]
    intro hpos
    exact (h.shown hpos).congr (hareas.apart hpos).pos (sameRings_of_avoids m hareas hn havoid _)

private theorem readDesc_place (q : VqState) (p : Placement) {k e : Nat} (he : e ≤ 16)
    (hsize : q.size.toNat = 2 ^ e) (hcounter : q.nextDescIdx.toNat = k % 2 ^ 32) (m : ByteMemory)
    (a : UInt64) :
    readDesc (m.write a (descBytes p.addr p.len (descFlags p.deviceWritable p.chainNext)
      q.descNext)) a = p.descriptor (2 ^ e) k := by
  have hnumbered := numbered_descStore he hsize rfl hcounter p.addr p.len p.deviceWritable
    p.chainNext
  have hnext : q.descNext = UInt16.ofNat ((k + 1) % 2 ^ e) := by
    have hnat := hnumbered.next
    rw [next_descStore] at hnat
    rw [← hnat, UInt16.ofNat_toNat]
  rw [readDesc_write, hnext]
  rfl

/-- A placement on the queue is one of the driver's. -/
theorem QueueShown.place {m : ByteMemory} {i : Fin n} {w : World n ξ} (h : QueueShown m i w)
    (hareas : InAreas i (w.st.vqs i)) (htrack : CountersTrack w)
    (hpow : ∃ e, (w.st.vqs i).size.toNat = 2 ^ e) (hpos : (w.st.vqs i).size ≠ 0) (addr : UInt64)
    (len : UInt32) (deviceWritable chainNext : Bool) :
    QueueShown m i (w.place i addr len deviceWritable chainNext) := by
  obtain ⟨e, he⟩ := hpow
  have hsmall : e ≤ 8 := by
    have hle := hareas.size
    rw [he, show (256 : Nat) = 2 ^ 8 from rfl] at hle
    exact (Nat.pow_le_pow_iff_right (by omega)).mp hle
  let p : Placement := ⟨i, addr, len, deviceWritable, chainNext⟩
  have hlog : queueLog i (w.place i addr len deviceWritable chainNext).hist =
      p :: queueLog i w.hist := by
    rw [queueLog_place i i addr len deviceWritable chainNext hpos, if_pos rfl]
  have hcount : (w.st.vqs i).nextDescIdx.toNat = (queueLog i w.hist).length % 2 ^ 32 := by
    rw [htrack i, UInt32.toNat_ofNat']
    rfl
  have hsize : ((w.place i addr len deviceWritable chainNext).st.vqs i).size =
      (w.st.vqs i).size := by
    rw [place_vq]
    rfl
  have hshown := h.shown hpos
  have hdescs := filled_length (w.st.vqs i).size.toNat (queueLog i w.hist)
  have hslot : (w.st.vqs i).descSlot = entryAddr (w.st.vqs i).descGpa
      ((filled (w.st.vqs i).size.toNat (queueLog i w.hist)).descs.length %
        (w.st.vqs i).size.toNat) := by
    rw [hdescs, he]
    exact (numbered_descStore (by omega) he rfl hcount addr len deviceWritable chainNext).gpa
  have hplaced := hshown.place (hareas.apart hpos) (by simp [descBytes])
    (readDesc_place (w.st.vqs i) p (by omega) he hcount)
  rw [← hslot, ← he, ← hdescs] at hplaced
  constructor
  · rw [hsize, hlog, filled, place_vq, VqState.advance]
    cases chainNext with
    | true => exact h.avail
    | false =>
        change (w.st.vqs i).nextAvailIdx + 1 = UInt32.ofNat (_ ++ [_]).length
        rw [List.length_append, List.length_singleton, UInt32.ofNat_add, h.avail]
        rfl
  · rw [hsize]
    exact fun hz => absurd hz hpos
  · intro _
    rw [hsize, hlog, place_vq]
    cases chainNext with
    | true => exact hplaced
    | false =>
        have hfollows := follows_of_count (by omega : e ≤ 15) he h.avail
          (w.st.vqs i).nextDescIdx.toUInt16
        have hring : (w.st.vqs i).ringSlot = slotAddr (w.st.vqs i).availGpa
            ((filled (w.st.vqs i).size.toNat (queueLog i w.hist)).heads.length %
              (w.st.vqs i).size.toNat) := by
          have hgpa := hfollows.slot
          rw [cut_mod (by omega : e ≤ 15), ← he] at hgpa
          exact hgpa
        have hhead : ofLe (le16 (w.st.vqs i).nextDescIdx.toUInt16) =
            (filled (w.st.vqs i).size.toNat (queueLog i w.hist)).descs.length % 2 ^ 16 := by
          rw [ofLe_le16, UInt32.toNat_toUInt16, hcount, hdescs]
          omega
        have hpublish := hplaced.publish (hareas.apart hpos)
          (le16_length (w.st.vqs i).nextDescIdx.toUInt16)
          (le16_length ((w.st.vqs i).nextAvailIdx + 1).toUInt16) hhead ?_
        · rw [show ((filled (w.st.vqs i).size.toNat (queueLog i w.hist)).place _).heads =
            (filled (w.st.vqs i).size.toNat (queueLog i w.hist)).heads from rfl,
            ← hring] at hpublish
          exact hpublish
        · rw [ofLe_le16, UInt32.toNat_toUInt16, UInt32.toNat_add, h.avail, UInt32.toNat_ofNat']
          simp only [UInt32.reduceToNat, Filled.place]
          omega

end VirtioCrash
