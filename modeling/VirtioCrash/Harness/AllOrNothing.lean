import VirtioCrash.Harness.Submission
import VirtioCrash.Harness.Layout

/-!
# All or nothing on the ring

A submission leaves the descriptor table, the avail ring and the counters of its queue alone and
stays silent, or it places its whole chain, publishes it and rings the doorbell once. Guest memory
is read back as the device reads it, so this takes a queue whose areas are apart.
-/

namespace VirtioCrash

open StateProgram Bytes SplitRing BumpAllocator Relation

variable {n : Nat} {ξ : Type}

namespace VqState

/-- The index field of the avail ring in guest memory. -/
def availIdx (q : VqState) (m : ByteMemory) : UInt16 :=
  UInt16.ofNat (ofLe (m.read (q.availGpa + 2) 2))

/-- An address in the descriptor table or in the avail ring. -/
def InRings (q : VqState) (x : UInt64) : Prop :=
  ∃ r ∈ [q.descArea, q.availArea], r.start ≤ x.toNat ∧ x.toNat < r.stop

/-- The table entry of the `j`-th piece of a chain of `k` pieces. -/
def chainDesc (q : VqState) (k j : Nat) (p : Piece) : Descriptor where
  addr := p.addr
  len := p.len
  flags := descFlags p.deviceWritable (decide (j + 1 < k))
  next := UInt16.ofNat ((q.nextDescIdx.toNat + j + 1) % q.size.toNat)

end VqState

/-- The rings of queue `i`, its counters and its doorbell are as if nothing had happened. -/
structure Untouched (m : ByteMemory) (i : Fin n) (w w' : World n ξ) : Prop where
  memory : ∀ x, (w.st.vqs i).InRings x → memoryAfter m w'.trace x = memoryAfter m w.trace x
  queue : w'.st.vqs i = w.st.vqs i
  silent : ∀ e ∈ newest w'.trace w.trace, e.isNotify = false

/-- The chain `ps` is on the rings of queue `i`, and the device was told so once. -/
structure Placed (m : ByteMemory) (i : Fin n) (ps : List Piece) (w w' : World n ξ) : Prop where
  nonempty : ps ≠ []
  room : (w.st.vqs i).nextDescIdx.toNat + ps.length ≤ (w.st.vqs i).size.toNat
  table : ∀ j p, ps[j]? = some p →
    readDesc (memoryAfter m w'.trace)
        (entryAddr (w.st.vqs i).descGpa ((w.st.vqs i).nextDescIdx.toNat + j)) =
      (w.st.vqs i).chainDesc ps.length j p
  queue : w'.st.vqs i =
    { w.st.vqs i with
      nextDescIdx := (w.st.vqs i).nextDescIdx + UInt32.ofNat ps.length
      nextAvailIdx := (w.st.vqs i).nextAvailIdx + 1 }
  availIdx : (w.st.vqs i).availIdx (memoryAfter m w'.trace) =
    ((w.st.vqs i).nextAvailIdx + 1).toUInt16
  notify : (newest w'.trace w.trace).filter Event.isNotify = [notifyEvent i]

theorem Placed.next {m : ByteMemory} {i : Fin n} {ps : List Piece} {w w' : World n ξ}
    (h : Placed m i ps w w') (hmany : 1 < ps.length) :
    (readDesc (memoryAfter m w'.trace)
      (entryAddr (w.st.vqs i).descGpa (w.st.vqs i).nextDescIdx.toNat)).flags &&& kDescNext ≠ 0 := by
  have hfirst : ps[0]? = some ps[0] := List.getElem?_eq_getElem (by omega)
  have hentry := h.table 0 ps[0] hfirst
  rw [Nat.add_zero] at hentry
  rw [hentry, VqState.chainDesc, decide_eq_true (by omega)]
  cases ps[0].deviceWritable with
  | true => exact (by decide : descFlags true true &&& kDescNext ≠ 0)
  | false => exact (by decide : descFlags false true &&& kDescNext ≠ 0)

/-- The index in guest memory moves by one exactly where it was the queue's own count. -/
theorem Placed.advance_iff {m : ByteMemory} {i : Fin n} {ps : List Piece} {w w' : World n ξ}
    (h : Placed m i ps w w') :
    (w.st.vqs i).availIdx (memoryAfter m w'.trace) =
        (w.st.vqs i).availIdx (memoryAfter m w.trace) + 1 ↔
      (w.st.vqs i).availIdx (memoryAfter m w.trace) = (w.st.vqs i).nextAvailIdx.toUInt16 := by
  rw [h.availIdx, UInt32.toUInt16_add]
  change _ + 1 = _ + 1 ↔ _
  rw [UInt16.add_left_inj]
  exact eq_comm

theorem readDesc_write (m : ByteMemory) (a addr : UInt64) (len : UInt32) (flags next : UInt16) :
    readDesc (m.write a (descBytes addr len flags next)) a = ⟨addr, len, flags, next⟩ := by
  have hlen : (descBytes addr len flags next).length = 16 := by
    simp [descBytes]
  have hread (k l : Nat) (hkl : k + l ≤ 16) :
      (m.write a (descBytes addr len flags next)).read (a + UInt64.ofNat k) l =
        slice (descBytes addr len flags next) k l :=
    ByteMemory.read_write_slice m a _ k l (by omega) (by omega)
  have h0 := hread 0 8 (by omega)
  have h8 := hread 8 4 (by omega)
  have h12 := hread 12 2 (by omega)
  have h14 := hread 14 2 (by omega)
  rw [show UInt64.ofNat 0 = 0 from rfl, UInt64.add_zero] at h0
  change _ = le64 addr at h0
  change ByteMemory.read _ (a + 8) 4 = le32 len at h8
  change ByteMemory.read _ (a + 12) 2 = le16 flags at h12
  change ByteMemory.read _ (a + 14) 2 = le16 next at h14
  rw [readDesc, h0, h8, h12, h14, ofLe_le64, ofLe_le32, ofLe_le16, ofLe_le16, UInt64.ofNat_toNat,
    UInt32.ofNat_toNat, UInt16.ofNat_toNat, UInt16.ofNat_toNat]

/-- A queue in the areas of a reset that fits them. -/
structure VqState.Fits (q : VqState) : Prop where
  avail : q.availGpa = q.descGpa + 0x1000
  size : q.size.toNat ≤ 256

namespace VqState.Fits

variable {q : VqState}

private theorem advance (h : q.Fits) (chainNext : Bool) : (q.advance chainNext).Fits :=
  ⟨h.avail, h.size⟩

private theorem descSlot_eq (hidx : q.nextDescIdx.toNat < q.size.toNat) (h : q.Fits) :
    q.descSlot = q.descGpa + UInt64.ofNat (16 * q.nextDescIdx.toNat) := by
  have hsize := h.size
  rw [VqState.descSlot]
  congr 1
  apply UInt64.toNat_inj.mp
  rw [UInt64.toNat_ofNat', UInt32.toNat_toUInt64, UInt32.toNat_mul, VqState.descIdx,
    UInt32.toNat_mod, Nat.mod_eq_of_lt hidx]
  simp only [UInt32.reduceToNat]
  omega

private theorem ringSlot_eq (hpos : 0 < q.size.toNat) (h : q.Fits) :
    ∃ o, 0x1000 ≤ o ∧ o < 2 ^ 32 ∧ q.ringSlot = q.descGpa + UInt64.ofNat o := by
  have hsize := h.size
  have hmod := Nat.mod_lt q.nextAvailIdx.toNat hpos
  refine ⟨0x1004 + (q.nextAvailIdx % q.size * 2).toNat, ?_, ?_, ?_⟩
  · omega
  · rw [UInt32.toNat_mul, UInt32.toNat_mod]
    simp only [UInt32.reduceToNat]
    omega
  · rw [VqState.ringSlot, h.avail, UInt64.ofNat_add]
    have hword : (q.nextAvailIdx % q.size * 2).toUInt64 =
        UInt64.ofNat (q.nextAvailIdx % q.size * 2).toNat := by
      apply UInt64.toNat_inj.mp
      rw [UInt32.toNat_toUInt64, UInt64.toNat_ofNat', Nat.mod_eq_of_lt]
      have := (q.nextAvailIdx % q.size * 2).toNat_lt
      omega
    rw [hword]
    generalize UInt64.ofNat (q.nextAvailIdx % q.size * 2).toNat = k
    change q.descGpa + 0x1000 + 4 + k = q.descGpa + (0x1004 + k)
    grind

private theorem table_page (hpos : 0 < q.size.toNat) (h : q.Fits) (m : ByteMemory) (es : List Event)
    (p : Piece) (chainNext : Bool) {o : Nat} (ho : o < 0x1000) :
    memoryAfter m (q.placeEvents p.addr p.len p.deviceWritable chainNext ++ es)
        (q.descGpa + UInt64.ofNat o) =
      (memoryAfter m es).write q.descSlot
        (descBytes p.addr p.len (descFlags p.deviceWritable chainNext) q.descNext)
        (q.descGpa + UInt64.ofNat o) := by
  cases chainNext with
  | true => rfl
  | false =>
      obtain ⟨o', hpage, hsmall, hslot⟩ := h.ringSlot_eq hpos
      have hindex : q.availGpa + 2 = q.descGpa + UInt64.ofNat 0x1002 := by
        rw [h.avail, UInt64.add_assoc]
        rfl
      change ((_ : ByteMemory).write (q.availGpa + 2) _) _ = _
      rw [hindex, ByteMemory.write_offset_outside _ _ _ (by omega) (by omega) (by simp) (by omega)]
      change ((_ : ByteMemory).write q.ringSlot _) _ = _
      rw [hslot, ByteMemory.write_offset_outside _ _ _ (by omega) hsmall (by simp) (by omega)]
      rfl

private theorem place_frame (hidx : q.nextDescIdx.toNat < q.size.toNat) (h : q.Fits)
    (m : ByteMemory) (es : List Event) (p : Piece) (chainNext : Bool) {o : Nat} (ho : o < 0x1000)
    (hout : o < 16 * q.nextDescIdx.toNat ∨ 16 * q.nextDescIdx.toNat + 16 ≤ o) :
    memoryAfter m (q.placeEvents p.addr p.len p.deviceWritable chainNext ++ es)
        (q.descGpa + UInt64.ofNat o) =
      memoryAfter m es (q.descGpa + UInt64.ofNat o) := by
  have hsize := h.size
  have hlen : (descBytes p.addr p.len (descFlags p.deviceWritable chainNext) q.descNext).length =
      16 := by
    simp [descBytes]
  rw [h.table_page (by omega) m es p chainNext ho, h.descSlot_eq hidx]
  apply ByteMemory.write_offset_outside
  · omega
  · omega
  · omega
  · omega

private theorem place_entry (hidx : q.nextDescIdx.toNat < q.size.toNat) (h : q.Fits)
    (m : ByteMemory) (es : List Event) (p : Piece) (chainNext : Bool) :
    readDesc (memoryAfter m (q.placeEvents p.addr p.len p.deviceWritable chainNext ++ es))
        (entryAddr q.descGpa q.nextDescIdx.toNat) =
      ⟨p.addr, p.len, descFlags p.deviceWritable chainNext, q.descNext⟩ := by
  have hsize := h.size
  have hwritten : readDesc (memoryAfter m
        (q.placeEvents p.addr p.len p.deviceWritable chainNext ++ es))
        (entryAddr q.descGpa q.nextDescIdx.toNat) =
      readDesc ((memoryAfter m es).write q.descSlot
        (descBytes p.addr p.len (descFlags p.deviceWritable chainNext) q.descNext))
        (entryAddr q.descGpa q.nextDescIdx.toNat) := by
    apply readDesc_congr
    intro k hk
    rw [entryAddr, UInt64.add_assoc, ← UInt64.ofNat_add]
    exact h.table_page (by omega) m es p chainNext (by omega)
  rw [hwritten, h.descSlot_eq hidx]
  exact readDesc_write _ _ _ _ _ _

private theorem descNext_eq (hidx : q.nextDescIdx.toNat < q.size.toNat) (h : q.Fits) :
    q.descNext = UInt16.ofNat ((q.nextDescIdx.toNat + 1) % q.size.toNat) := by
  have hsize := h.size
  have hsum : (q.descIdx + 1).toNat = q.nextDescIdx.toNat + 1 := by
    rw [UInt32.toNat_add, VqState.descIdx, UInt32.toNat_mod, Nat.mod_eq_of_lt hidx]
    simp only [UInt32.reduceToNat]
    omega
  apply UInt16.toNat_inj.mp
  rw [VqState.descNext, UInt32.toNat_toUInt16, UInt32.toNat_mod, hsum, UInt16.toNat_ofNat']

private theorem advance_nextDescIdx (hidx : q.nextDescIdx.toNat < q.size.toNat) (h : q.Fits)
    (chainNext : Bool) :
    (q.advance chainNext).nextDescIdx.toNat = q.nextDescIdx.toNat + 1 := by
  have hsize := h.size
  rw [VqState.advance, UInt32.toNat_add]
  simp only [UInt32.reduceToNat]
  omega

end VqState.Fits

theorem place_vq (i : Fin n) (addr : UInt64) (len : UInt32) (deviceWritable chainNext : Bool)
    (w : World n ξ) :
    (w.place i addr len deviceWritable chainNext).st.vqs i = (w.st.vqs i).advance chainNext := by
  simp [World.place]

private theorem placeChain_queue (i : Fin n) {ps : List Piece} (hne : ps ≠ []) (w : World n ξ) :
    (w.placeChain i ps).st.vqs i =
      { w.st.vqs i with
        nextDescIdx := (w.st.vqs i).nextDescIdx + UInt32.ofNat ps.length
        nextAvailIdx := (w.st.vqs i).nextAvailIdx + 1 } := by
  obtain ⟨v, hv, hq⟩ := placeChain_last i ps.dropLast (ps.getLast hne) w
  have hlen : ps.length = ps.dropLast.length + 1 := by
    have hpos := List.length_pos_iff.mpr hne
    rw [List.length_dropLast]
    omega
  rw [List.dropLast_append_getLast] at hv
  rw [hv, place_vq, hq, hlen, UInt32.ofNat_add, ← UInt32.add_assoc]
  rfl

private theorem placeChain_frame (m : ByteMemory) (i : Fin n) (ps : List Piece) (w : World n ξ)
    (hfits : (w.st.vqs i).Fits)
    (hroom : (w.st.vqs i).nextDescIdx.toNat + ps.length ≤ (w.st.vqs i).size.toNat) {o : Nat}
    (ho : o < 0x1000)
    (hout : o < 16 * (w.st.vqs i).nextDescIdx.toNat ∨
      16 * ((w.st.vqs i).nextDescIdx.toNat + ps.length) ≤ o) :
    memoryAfter m (w.placeChain i ps).trace ((w.st.vqs i).descGpa + UInt64.ofNat o) =
      memoryAfter m w.trace ((w.st.vqs i).descGpa + UInt64.ofNat o) := by
  induction ps generalizing w with
  | nil => rfl
  | cons p ps ih =>
      rw [List.length_cons] at hroom hout
      have hidx : (w.st.vqs i).nextDescIdx.toNat < (w.st.vqs i).size.toNat := by omega
      have hnext := hfits.advance_nextDescIdx hidx (!ps.isEmpty)
      have hrest := ih (w.place i p.addr p.len p.deviceWritable (!ps.isEmpty))
      rw [place_vq] at hrest
      rw [World.placeChain]
      refine (hrest (hfits.advance _) ?_ ?_).trans ?_
      · rw [hnext]
        change _ ≤ (w.st.vqs i).size.toNat
        omega
      · omega
      · exact hfits.place_frame hidx m w.trace p _ ho (by omega)

private theorem placeChain_table (m : ByteMemory) (i : Fin n) (ps : List Piece) (w : World n ξ)
    (hfits : (w.st.vqs i).Fits)
    (hroom : (w.st.vqs i).nextDescIdx.toNat + ps.length ≤ (w.st.vqs i).size.toNat) {j : Nat}
    {p : Piece} (hp : ps[j]? = some p) :
    readDesc (memoryAfter m (w.placeChain i ps).trace)
        (entryAddr (w.st.vqs i).descGpa ((w.st.vqs i).nextDescIdx.toNat + j)) =
      (w.st.vqs i).chainDesc ps.length j p := by
  induction ps generalizing w j with
  | nil => simp at hp
  | cons p' ps ih =>
      rw [List.length_cons] at hroom
      have hsize := hfits.size
      have hidx : (w.st.vqs i).nextDescIdx.toNat < (w.st.vqs i).size.toNat := by omega
      have hnext := hfits.advance_nextDescIdx hidx (!ps.isEmpty)
      have hroom' : ((w.st.vqs i).advance (!ps.isEmpty)).nextDescIdx.toNat + ps.length ≤
          ((w.st.vqs i).advance (!ps.isEmpty)).size.toNat := by
        rw [hnext]
        change _ ≤ (w.st.vqs i).size.toNat
        omega
      cases j with
      | zero =>
          -- the later placements of the chain keep clear of the first entry
          have hkept : readDesc (memoryAfter m (w.placeChain i (p' :: ps)).trace)
                (entryAddr (w.st.vqs i).descGpa (w.st.vqs i).nextDescIdx.toNat) =
              readDesc (memoryAfter m
                (w.place i p'.addr p'.len p'.deviceWritable (!ps.isEmpty)).trace)
                (entryAddr (w.st.vqs i).descGpa (w.st.vqs i).nextDescIdx.toNat) := by
            apply readDesc_congr
            intro k hk
            have hframe := placeChain_frame m i ps
              (w.place i p'.addr p'.len p'.deviceWritable (!ps.isEmpty))
              (o := 16 * (w.st.vqs i).nextDescIdx.toNat + k)
            rw [place_vq] at hframe
            rw [entryAddr, UInt64.add_assoc, ← UInt64.ofNat_add]
            exact hframe (hfits.advance _) hroom' (by omega) (by omega)
          have hfirst : p' = p := by simpa using hp
          rw [Nat.add_zero, hkept, ← hfirst]
          have hmore : (!ps.isEmpty) = decide (0 + 1 < ps.length + 1) := by
            cases ps <;> simp
          rw [VqState.chainDesc, List.length_cons, ← hmore, Nat.add_zero, ← hfits.descNext_eq hidx]
          exact hfits.place_entry hidx m w.trace p' (!ps.isEmpty)
      | succ j =>
          have hp' : ps[j]? = some p := by simpa using hp
          have hrest := ih (w.place i p'.addr p'.len p'.deviceWritable (!ps.isEmpty)) (j := j)
          rw [place_vq] at hrest
          have hentry := hrest (hfits.advance _) hroom' hp'
          have hlt : decide (j + 1 < ps.length) = decide (j + 1 + 1 < ps.length + 1) := by
            simp
          have hidxEq : (w.st.vqs i).nextDescIdx.toNat + 1 + j =
              (w.st.vqs i).nextDescIdx.toNat + (j + 1) := by
            omega
          rw [VqState.chainDesc, hnext, hlt, hidxEq] at hentry
          exact hentry

private theorem placeChain_availIdx (m : ByteMemory) (i : Fin n) {ps : List Piece} (hne : ps ≠ [])
    (w : World n ξ) :
    (w.st.vqs i).availIdx (memoryAfter m (w.placeChain i ps).trace) =
      ((w.st.vqs i).nextAvailIdx + 1).toUInt16 := by
  obtain ⟨v, hv, hq⟩ := placeChain_last i ps.dropLast (ps.getLast hne) w
  rw [List.dropLast_append_getLast] at hv
  have havail : (v.st.vqs i).availGpa = (w.st.vqs i).availGpa := by
    rw [hq]
    rfl
  have hnext : (v.st.vqs i).nextAvailIdx = (w.st.vqs i).nextAvailIdx := by
    rw [hq]
    rfl
  have hsame := ByteMemory.read_write_same
    (memoryAfter m (.memWrite (v.st.vqs i).ringSlot (le16 (v.st.vqs i).nextDescIdx.toUInt16) ::
      .memWrite (v.st.vqs i).descSlot (descBytes (ps.getLast hne).addr (ps.getLast hne).len
        (descFlags (ps.getLast hne).deviceWritable false) (v.st.vqs i).descNext) :: v.trace))
    ((v.st.vqs i).availGpa + 2) (le16 ((v.st.vqs i).nextAvailIdx + 1).toUInt16) (by simp)
  rw [le16_length, havail, hnext] at hsame
  rw [VqState.availIdx, hv]
  change UInt16.ofNat (ofLe (ByteMemory.read (memoryAfter m (.memWrite ((v.st.vqs i).availGpa + 2)
    (le16 ((v.st.vqs i).nextAvailIdx + 1).toUInt16) :: _)) _ 2)) = _
  rw [havail, hnext, memoryAfter]
  refine (congrArg (fun bs => UInt16.ofNat (ofLe bs)) hsame).trans ?_
  rw [ofLe_le16, UInt16.ofNat_toNat]

/-- A store inside the buffer pool. -/
def Event.InPool (n : Nat) (e : Event) : Prop :=
  ∃ gpa data, e = .memWrite gpa data ∧ (kBufPoolBase n).toNat ≤ gpa.toNat ∧
    gpa.toNat + data.length ≤ kBufPoolEndNat

private theorem Event.InPool.isNotify {e : Event} (h : e.InPool n) : e.isNotify = false := by
  obtain ⟨gpa, data, rfl, -, -⟩ := h
  rfl

private theorem staging_trace {w w' : World n ξ} {lo : Nat} (hs : Steps stagingActs w w')
    (hlo : (kBufPoolBase n).toNat ≤ lo) (hpool : PoolInv lo w) :
    ∃ es, w'.trace = es ++ w.trace ∧ ∀ e ∈ es, e.InPool n := by
  have hboth := hs.invariant (fun v => PoolInv lo v ∧
    ∃ es, v.trace = es ++ w.trace ∧ ∀ e ∈ es, e.InPool n) ?_ ⟨hpool, [], rfl, by simp⟩
  · exact hboth.2
  · rintro a ha v v' hstep ⟨hv, es, htrace, hes⟩
    refine ⟨hv.step hstep, ?_⟩
    cases hstep with
    | writeBuf gpa len off data v halloc hfit =>
        obtain ⟨hge, hend⟩ := hv.alloc_inside halloc hfit
        refine ⟨.memWrite (gpa + off.toUInt64) data :: es, ?_, ?_⟩
        · exact congrArg (_ :: ·) htrace
        · intro e he
          rcases List.mem_cons.mp he with rfl | he
          · exact ⟨_, _, rfl, hlo.trans hge, hend⟩
          · exact hes e he
    | bump len v hfit => exact ⟨es, htrace, hes⟩
    | bindBuf id b v halloc => exact ⟨es, htrace, hes⟩
    | setExt f v => exact ⟨es, htrace, hes⟩
    | event e v he => exact absurd ha (by decide)
    | writeClamped gpa a data v hlen hclamp => exact absurd ha (by decide)
    | place i addr len deviceWritable chainNext v hsize => exact absurd ha (by decide)
    | setSize i requestedSize max v hmax => exact absurd ha (by decide)
    | submit vqIdx req v => exact absurd ha (by decide)

private theorem memoryAfter_below (m : ByteMemory) {es : List Event} (hes : ∀ e ∈ es, e.InPool n)
    (tr : List Event) {x : UInt64} (hx : x.toNat < (kBufPoolBase n).toNat) :
    memoryAfter m (es ++ tr) x = memoryAfter m tr x := by
  induction es with
  | nil => rfl
  | cons e es ih =>
      obtain ⟨gpa, data, rfl, hge, hend⟩ := hes e (by simp)
      rw [List.cons_append, memoryAfter, ByteMemory.write_outside]
      · exact ih fun e he => hes e (by simp [he])
      · have hlt := gpa.toNat_lt
        rw [kBufPoolEndNat] at hend
        rw [UInt64.toNat_sub]
        omega

private theorem memoryAfter_silent (m : ByteMemory) {es : List Event}
    (hes : ∀ e ∈ es, e.isMemWrite = false) (tr : List Event) :
    memoryAfter m (es ++ tr) = memoryAfter m tr := by
  induction es with
  | nil => rfl
  | cons e es ih =>
      have hrest := ih fun e he => hes e (by simp [he])
      have hfirst := hes e (by simp)
      cases e with
      | memWrite gpa data => cases hfirst
      | _ => exact hrest

/-- All or nothing, for a submission on queue `i` whose chains meet `chain`. -/
def AllOrNothing (m : ByteMemory) (i : Fin n) (chain : List Piece → Prop) (w w' : World n ξ) :
    Prop :=
  Untouched m i w w' ∨ ∃ ps, chain ps ∧ Placed m i ps w w'

/-- Queue `i` is in the areas of a reset, and they hold its descriptors. -/
structure InAreas (i : Fin n) (q : VqState) : Prop where
  desc : q.descGpa = (resetVq i).descGpa
  avail : q.availGpa = (resetVq i).availGpa
  size : q.size.toNat ≤ 256

theorem InAreas.fits {i : Fin n} {q : VqState} (h : InAreas i q) : q.Fits where
  avail := by
    rw [h.avail, h.desc]
    rfl
  size := h.size

private theorem InAreas.below {i : Fin n} {q : VqState} (h : InAreas i q) (hn : n ≤ 16) {x : UInt64}
    (hx : q.InRings x) : x.toNat < (kBufPoolBase n).toNat := by
  obtain ⟨hdesc, havail, -⟩ := resetVq_toNat (lt_of_lt_of_le i.isLt hn)
  have hsize := h.size
  have hi := i.isLt
  obtain ⟨r, hr, -, hstop⟩ := hx
  rw [kBufPoolBase_toNat hn]
  simp only [List.mem_cons, List.not_mem_nil, or_false] at hr
  rcases hr with rfl | rfl
  · simp only [VqState.descArea, Range.stop, h.desc, hdesc] at hstop
    omega
  · simp only [VqState.availArea, Range.stop, h.avail, havail] at hstop
    omega

private theorem notifies_eq_nil {es : List Event} (hes : ∀ e ∈ es, e.isNotify = false) :
    es.filter Event.isNotify = [] := by
  rw [List.filter_eq_nil_iff]
  intro e he
  rw [hes e he]
  exact Bool.false_ne_true

section Submission

variable {m : ByteMemory} {i : Fin n} {chain : List Piece → Prop} {w w' : World n ξ} {lo : Nat}

private theorem Untouched.refl (m : ByteMemory) (i : Fin n) (w : World n ξ) :
    Untouched m i w w where
  memory _ _ := rfl
  queue := rfl
  silent := by
    have hnew := newest_append [] w.trace
    rw [List.nil_append] at hnew
    rw [hnew]
    simp

private theorem untouched_of_staged (hs : Steps stagingActs w w') (hareas : InAreas i (w.st.vqs i))
    (hn : n ≤ 16) (hlo : (kBufPoolBase n).toNat ≤ lo) (hpool : PoolInv lo w) :
    Untouched m i w w' := by
  obtain ⟨es, htrace, hes⟩ := staging_trace hs hlo hpool
  constructor
  · intro x hx
    rw [htrace]
    exact memoryAfter_below m hes w.trace (hareas.below hn hx)
  · rw [hs.vqs_eq (by decide) (by decide)]
  · rw [htrace, newest_append]
    exact fun e he => (hes e he).isNotify

private theorem Outcome.allOrNothing (h : Outcome i chain w w') (hareas : InAreas i (w.st.vqs i))
    (hn : n ≤ 16) (hlo : (kBufPoolBase n).toNat ≤ lo) (hpool : PoolInv lo w)
    (hroom : ∀ ps, chain ps → ps ≠ [] ∧
      (w.st.vqs i).nextDescIdx.toNat + ps.length ≤ (w.st.vqs i).size.toNat) :
    AllOrNothing m i chain w w' := by
  cases h with
  | dropped hs => exact Or.inl (untouched_of_staged hs hareas hn hlo hpool)
  | published v ps after hs hps hst htrace hafter hplaced =>
      obtain ⟨hne, hfit⟩ := hroom ps hps
      obtain ⟨es, hstaged, hes⟩ := staging_trace hs hlo hpool
      obtain ⟨cs, hchain, hcs⟩ := placeChain_trace i ps v
      have hq : v.st.vqs i = w.st.vqs i := by
        rw [hs.vqs_eq (by decide) (by decide)]
      have hmem : memoryAfter m w'.trace = memoryAfter m (v.placeChain i ps).trace := by
        rw [htrace, memoryAfter_silent m fun e he => (hafter e he).1]
        rfl
      have hnew : newest w'.trace w.trace = after ++ notifyEvent i :: (cs ++ es) := by
        rw [htrace, hchain, hstaged, ← newest_append (after ++ notifyEvent i :: (cs ++ es)) w.trace]
        simp
      right
      refine ⟨ps, hps, hne, hfit, ?_, ?_, ?_, ?_⟩
      · intro j p hp
        rw [hmem, ← hq]
        apply placeChain_table m i ps v _ _ hp
        · rw [hq]
          exact hareas.fits
        · rw [hq]
          exact hfit
      · rw [hst, placeChain_queue i hne v, hq]
      · rw [hmem, ← hq]
        exact placeChain_availIdx m i hne v
      · have hnone : (cs ++ es).filter Event.isNotify = [] := by
          apply notifies_eq_nil
          intro e he
          rcases List.mem_append.mp he with hc | hs'
          · exact hcs e hc
          · exact (hes e hs').isNotify
        have hlate := notifies_eq_nil fun e he => (hafter e he).2
        have hbell : (notifyEvent i).isNotify = true := by
          simp [notifyEvent, Event.isNotify]
        rw [hnew, List.filter_append, hlate, List.filter_cons_of_pos hbell, hnone,
          List.nil_append]

end Submission

/-- The queue is set up and has room for `room` descriptors and one of slack. -/
def Ready (room : UInt32) (q : VqState) : Prop := q.size ≠ 0 ∧ ¬q.nextDescIdx + room ≥ q.size

theorem Ready.fits {room : UInt32} {q : VqState} (h : Ready room q) (hroom : room.toNat ≤ 8)
    (hsmall : q.nextDescIdx.toNat < 2 ^ 32 - 8) :
    q.nextDescIdx.toNat + room.toNat ≤ q.size.toNat := by
  have hlt := h.2
  rw [ge_iff_le, UInt32.le_iff_toNat_le, UInt32.toNat_add] at hlt
  omega

/-- The lengths and directions of the buffers of a chain determine how many there are. -/
theorem few_of_map {ps : List Piece} {shape : List (UInt32 × Bool)} {room : Nat}
    (h : ps.map (fun p => (p.len, p.deviceWritable)) = shape) (hpos : 0 < shape.length)
    (hle : shape.length ≤ room) : ps ≠ [] ∧ ps.length ≤ room := by
  have hlen := congrArg List.length h
  rw [List.length_map] at hlen
  exact ⟨List.ne_nil_of_length_pos (by omega), by omega⟩

theorem guarded_not_ready {room : UInt32} {i : Fin n} {w : World n ξ} {α : Type} (a : α)
    (k : State n ξ → Harness n ξ α) (h : ¬Ready room (w.st.vqs i)) :
    ((getState >>= fun s => if (s.vqs i).size = 0 then pure a else
      if (s.vqs i).nextDescIdx + room ≥ (s.vqs i).size then pure a else k s).run w).2 = w := by
  rw [run_bind, getState_run]
  dsimp only
  by_cases hsize : (w.st.vqs i).size = 0
  · rw [if_pos hsize]
    rfl
  · by_cases hfull : (w.st.vqs i).nextDescIdx + room ≥ (w.st.vqs i).size
    · rw [if_neg hsize, if_pos hfull]
      rfl
    · exact absurd ⟨hsize, hfull⟩ h

/-- A queue that is set up has its own areas. -/
def SetUpInAreas (i : Fin n) (w : World n ξ) : Prop :=
  (w.st.vqs i).size ≠ 0 → InAreas i (w.st.vqs i)

/-- A submission on queue `i` that checks for room for `room` descriptors before it starts. -/
structure Submitted (room : UInt32) (i : Fin n) (chain : List Piece → Prop) (w w' : World n ξ) :
    Prop where
  outcome : Outcome i chain w w'
  idle : ¬Ready room (w.st.vqs i) → w' = w
  few : ∀ ps, chain ps → ps ≠ [] ∧ ps.length ≤ room.toNat

theorem Submitted.allOrNothing {m : ByteMemory} {i : Fin n} {chain : List Piece → Prop}
    {w w' : World n ξ} {lo : Nat} {room : UInt32} (h : Submitted room i chain w w')
    (hroom : room.toNat ≤ 8) (hareas : SetUpInAreas i w) (hn : n ≤ 16)
    (hlo : (kBufPoolBase n).toNat ≤ lo) (hpool : PoolInv lo w)
    (hsmall : (w.st.vqs i).nextDescIdx.toNat < 2 ^ 32 - 8) : AllOrNothing m i chain w w' := by
  by_cases hready : Ready room (w.st.vqs i)
  · apply h.outcome.allOrNothing (hareas hready.1) hn hlo hpool
    intro ps hps
    have hfits := hready.fits hroom hsmall
    obtain ⟨hne, hle⟩ := h.few ps hps
    exact ⟨hne, by omega⟩
  · rw [h.idle hready]
    exact Or.inl (.refl m i w)

end VirtioCrash
