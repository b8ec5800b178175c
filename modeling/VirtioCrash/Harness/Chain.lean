import VirtioCrash.Harness.Layout
import VirtioCrash.Lib.SplitRing

/-!
# Published chains

A chain is a run of placements with `chain_next` set on all but the last. Guest memory after it is
read back as a device reads it: the ring entry the last placement wrote, and the walk from it.
-/

namespace VirtioCrash

open StateProgram Bytes SplitRing

variable {n : Nat} {ξ : Type}

/-- One buffer of a chain. -/
structure Piece where
  addr : UInt64
  len : UInt32
  deviceWritable : Bool
  deriving DecidableEq

/-- The placements of a chain. -/
def placeChain (i : Fin n) : List Piece → Harness n ξ Unit
  | [] => pure ()
  | p :: ps => do
      let _ ← placeDesc i p.addr p.len p.deviceWritable (!ps.isEmpty)
      placeChain i ps

def World.placeChain (i : Fin n) : List Piece → World n ξ → World n ξ
  | [], w => w
  | p :: ps, w => World.placeChain i ps (w.place i p.addr p.len p.deviceWritable (!ps.isEmpty))

theorem placeChain_run (i : Fin n) (ps : List Piece) (w : World n ξ) :
    (placeChain i ps).run w = ((), w.placeChain i ps) := by
  induction ps generalizing w with
  | nil => rfl
  | cons p ps ih =>
      simp only [placeChain, StateT.run_bind, placeDesc_run]
      exact ih _

/-- `op_vq_add_desc` messages that place the pieces of a chain on queue `i`. -/
def ChainOps (target : TargetRule) (bufs : UInt32 → Option Buf) (i : Fin n) :
    List VqAddDesc → List Piece → Prop
  | [], [] => True
  | d :: ds, p :: ps =>
      d.vqIdx.toNat = i ∧ target bufs d.bufId d.len d.exoticRegion = some (p.addr, p.len) ∧
        d.deviceWritable = p.deviceWritable ∧ d.chainNext = !ps.isEmpty ∧
          ChainOps target bufs i ds ps
  | _, _ => False

/-- The messages of a chain do what its placements do. -/
theorem addDesc_chain (target : TargetRule) (i : Fin n) (ds : List VqAddDesc) (ps : List Piece)
    (w : World n ξ) (hsize : (w.st.vqs i).size ≠ 0) (h : ChainOps target w.st.bufs i ds ps) :
    ds.foldl (fun w d => w.addDesc target d) w = w.placeChain i ps := by
  induction ds generalizing ps w with
  | nil =>
      cases ps with
      | nil => rfl
      | cons p ps => exact absurd h (by simp [ChainOps])
  | cons d ds ih =>
      cases ps with
      | nil => exact absurd h (by simp [ChainOps])
      | cons p ps =>
          obtain ⟨hi, htarget, hwrite, hchain, hrest⟩ := h
          have hlt : d.vqIdx.toNat < n := hi ▸ i.isLt
          have hfin : (⟨d.vqIdx.toNat, hlt⟩ : Fin n) = i := Fin.ext hi
          have hadd : w.addDesc target d =
              w.place i p.addr p.len p.deviceWritable (!ps.isEmpty) := by
            simp [World.addDesc, hlt, hfin, hsize, htarget, hwrite, hchain]
          rw [List.foldl_cons, hadd]
          refine ih ps _ ?_ hrest
          simpa [World.place, VqState.advance] using hsize

/-- The queue a chain's last placement finds: `k` descriptors further, with the ring untouched. -/
def VqState.skip (q : VqState) (k : Nat) : VqState :=
  { q with nextDescIdx := q.nextDescIdx + UInt32.ofNat k }

theorem placeChain_last (i : Fin n) (ps : List Piece) (p : Piece) (w : World n ξ) :
    ∃ v : World n ξ, w.placeChain i (ps ++ [p]) = v.place i p.addr p.len p.deviceWritable false ∧
      v.st.vqs i = (w.st.vqs i).skip ps.length := by
  induction ps generalizing w with
  | nil =>
      refine ⟨w, rfl, ?_⟩
      simp [VqState.skip]
  | cons p' ps ih =>
      obtain ⟨v, hv, hq⟩ := ih (w.place i p'.addr p'.len p'.deviceWritable true)
      have hmore : (ps ++ [p]).isEmpty = false := by simp
      refine ⟨v, ?_, ?_⟩
      · rw [← hv, List.cons_append, World.placeChain, hmore]
        rfl
      · rw [hq]
        simp [World.place, VqState.advance, VqState.skip, UInt32.add_assoc, UInt32.add_comm 1]

/-- The byte a publication stores at an address of the avail ring, if it stores one there. -/
def VqState.availByte (q : VqState) (x : UInt64) : Option UInt8 :=
  (le16 (q.nextAvailIdx + 1).toUInt16)[(x - (q.availGpa + 2)).toNat]?.or
    (le16 q.nextDescIdx.toUInt16)[(x - q.ringSlot).toNat]?

private theorem memoryAfter_place (m : ByteMemory) (es : List Event) (q : VqState) (p : Piece)
    (x : UInt64) :
    memoryAfter m (q.placeEvents p.addr p.len p.deviceWritable false ++ es) x =
      (q.availByte x).getD (((memoryAfter m es).write q.descSlot
        (descBytes p.addr p.len (descFlags p.deviceWritable false) q.descNext)) x) := by
  simp only [VqState.placeEvents, VqState.availByte, memoryAfter, ByteMemory.write,
    List.cons_append, List.nil_append, if_false, Bool.false_eq_true,
    List.getD_eq_getElem?_getD, Option.getD_or]

/-- The index of the avail ring, which a publication stores last, is not in its ring entry. -/
theorem ringSlot_offset (q : VqState) (i : Nat) (hi : i < 2) :
    2 ≤ (q.ringSlot + UInt64.ofNat i - (q.availGpa + 2)).toNat := by
  have hsub (a y z : UInt64) : a + 4 + y + z - (a + 2) = 2 + y + z := by grind
  rw [VqState.ringSlot, hsub, UInt64.toNat_add, UInt64.toNat_add, UInt32.toNat_toUInt64,
    UInt32.toNat_mul, UInt64.toNat_ofNat']
  simp only [UInt32.reduceToNat, UInt64.reduceToNat]
  omega

private theorem ring_entry (m : ByteMemory) (es : List Event) (q : VqState) (p : Piece) :
    ofLe ((memoryAfter m (q.placeEvents p.addr p.len p.deviceWritable false ++ es)).read
      q.ringSlot 2) = q.nextDescIdx.toNat % 2 ^ 16 := by
  have hread : (memoryAfter m (q.placeEvents p.addr p.len p.deviceWritable false ++ es)).read
      q.ringSlot 2 = le16 q.nextDescIdx.toUInt16 := by
    simp only [VqState.placeEvents, memoryAfter, List.cons_append, List.nil_append, if_false,
      Bool.false_eq_true]
    rw [ByteMemory.read_write_outside]
    · have hsame := ByteMemory.read_write_same ((memoryAfter m es).write q.descSlot
        (descBytes p.addr p.len (descFlags p.deviceWritable false) q.descNext)) q.ringSlot
        (le16 q.nextDescIdx.toUInt16) (by simp)
      rwa [le16_length] at hsame
    · intro i hi
      rw [le16_length]
      exact ringSlot_offset q i hi
  rw [hread, ofLe_le16, UInt32.toNat_toUInt16]

/-- The visits a chain is meant to cause: one for each piece, in consecutive table entries from
`next_desc_idx + j` on. -/
def VqState.visits (q : VqState) : Nat → List Piece → List Visit
  | _, [] => []
  | j, p :: ps =>
      ⟨(q.nextDescIdx.toNat + j) % q.size.toNat, p.addr, p.len, p.deviceWritable⟩ ::
        q.visits (j + 1) ps

/-- A chain that was placed on a queue can be walked from its ring entry: the entry is the table
index of the first piece, and the walk from it visits the pieces and stops. -/
def Walkable (m : ByteMemory) (q : VqState) (ps : List Piece) : Prop :=
  ofLe (m.read q.ringSlot 2) = q.nextDescIdx.toNat % q.size.toNat ∧
    Walks m q.descGpa (ofLe (m.read q.ringSlot 2)) (q.visits 0 ps)

/-- No byte a publication stores in the avail ring changes the address, the length or the flag bits
of the descriptor of `p`. -/
def VqState.PublishHarmless (q : VqState) (p : Piece) : Prop :=
  (∀ j < 12, ∀ b ∈ q.availByte (q.descSlot + UInt64.ofNat j),
    (descBytes p.addr p.len (descFlags p.deviceWritable false) q.descNext)[j]? = some b) ∧
  ∀ b ∈ q.availByte (q.descSlot + 12), b.toNat % 4 = (descFlags p.deviceWritable false).toNat

private theorem visits_mem (q : VqState) (j₀ : Nat) (ps : List Piece) (j : Nat)
    (hj : j < ps.length) :
    ∃ v ∈ q.visits j₀ ps, v.idx = (q.nextDescIdx.toNat + (j₀ + j)) % q.size.toNat := by
  induction ps generalizing j₀ j with
  | nil => exact absurd hj (Nat.not_lt_zero j)
  | cons p ps ih =>
      cases j with
      | zero => exact ⟨_, List.mem_cons_self, rfl⟩
      | succ j =>
          obtain ⟨v, hv, hidx⟩ := ih (j₀ + 1) j (by simpa using hj)
          refine ⟨v, List.mem_cons_of_mem _ hv, ?_⟩
          rw [hidx]
          congr 2
          omega

/-- The entry of a chain of two or more names its last piece; it is the first piece's index only
where the chain is too long for 16-bit links. -/
private theorem entry_ne_first {N k e : Nat} (hk : 0 < k) (hlt : k < 2 ^ e)
    (hentry : (N + k) % 2 ^ 32 % 2 ^ 16 = N % 2 ^ e) (he : e < 32) :
    ∃ j, 0 < j ∧ j ≤ k ∧ 2 ^ 16 ≤ (N + j) % 2 ^ e := by
  have h16 : (N + k) % 2 ^ 32 % 2 ^ 16 = (N + k) % 2 ^ 16 :=
    Nat.mod_mod_of_dvd _ (Nat.pow_dvd_pow 2 (by omega))
  rw [h16] at hentry
  by_cases hsmall : e ≤ 16
  · -- the entry counts modulo the size too
    have hmod : (N + k) % 2 ^ e = N % 2 ^ e := by
      rw [← Nat.mod_mod_of_dvd (N + k) (Nat.pow_dvd_pow 2 hsmall), hentry, Nat.mod_mod]
    have hdvd : 2 ^ e ∣ k := Nat.add_modEq_left_iff.mp hmod
    exact absurd (Nat.le_of_dvd hk hdvd) (by omega)
  · -- the links of a chain that long would have to name an entry they cannot hold
    have hbig : 2 ^ 16 < 2 ^ e := Nat.pow_lt_pow_right (by omega) (by omega)
    have hfirst : N % 2 ^ e < 2 ^ 16 := hentry ▸ Nat.mod_lt _ (by decide)
    have hN : N % 2 ^ 16 = N % 2 ^ e := by
      rw [← Nat.mod_mod_of_dvd N (Nat.pow_dvd_pow 2 (by omega : 16 ≤ e)), Nat.mod_eq_of_lt hfirst]
    have hdvd : 2 ^ 16 ∣ k := Nat.add_modEq_left_iff.mp (hentry.trans hN.symm)
    have hlong := Nat.le_of_dvd hk hdvd
    refine ⟨2 ^ 16 - N % 2 ^ e, by omega, by omega, ?_⟩
    rw [← Nat.mod_add_mod, Nat.add_sub_of_le (le_of_lt hfirst), Nat.mod_eq_of_lt hbig]

private theorem not_walkable_of_two (m : ByteMemory) (i : Fin n) (p : Piece) (ps : List Piece)
    (w : World n ξ) (hsize : ∃ e, (w.st.vqs i).size.toNat = 2 ^ e) (hne : ps ≠ [])
    (hlen : ps.length < (w.st.vqs i).size.toNat) :
    ¬Walkable (memoryAfter m (w.placeChain i (p :: ps)).trace) (w.st.vqs i) (p :: ps) := by
  rintro ⟨hentry, hwalk⟩
  obtain ⟨e, he⟩ := hsize
  have hlt := (w.st.vqs i).size.toNat_lt
  rw [he] at hlt hlen hentry
  have he32 : e < 32 := (Nat.pow_lt_pow_iff_right (by omega)).mp hlt
  obtain ⟨pre, last, hsplit⟩ : ∃ pre last, p :: ps = pre ++ [last] :=
    ⟨_, _, (List.dropLast_append_getLast (List.cons_ne_nil p ps)).symm⟩
  have hprelen : pre.length = ps.length := by
    have := congrArg List.length hsplit
    simpa using this.symm
  obtain ⟨v, hv, hq⟩ := placeChain_last i pre last w
  have hring : (w.st.vqs i).ringSlot = (v.st.vqs i).ringSlot := by
    rw [hq]
    rfl
  have hread := ring_entry m v.trace (v.st.vqs i) last
  rw [hsplit, hv, hring] at hentry
  change ofLe ((memoryAfter m ((v.st.vqs i).placeEvents last.addr last.len last.deviceWritable
    false ++ v.trace)).read (v.st.vqs i).ringSlot 2) = _ at hentry
  rw [hread, hq, hprelen] at hentry
  have hnum : ((w.st.vqs i).skip ps.length).nextDescIdx.toNat =
      ((w.st.vqs i).nextDescIdx.toNat + ps.length) % 2 ^ 32 := by
    simp only [VqState.skip, UInt32.toNat_add, UInt32.toNat_ofNat', Nat.add_mod_mod]
  rw [hnum] at hentry
  obtain ⟨j, hj, hjk, hbig⟩ :=
    entry_ne_first (List.length_pos_iff.mpr hne) hlen hentry he32
  obtain ⟨u, hu, hidx⟩ := visits_mem (w.st.vqs i) 1 ps (j - 1) (by omega)
  have hsmall := Walks.idx_lt hwalk u hu
  rw [hidx, he, show 1 + (j - 1) = j by omega] at hsmall
  omega

private theorem descBytes_getElem (addr : UInt64) (len : UInt32) (flags next : UInt16) :
    (∀ j, (hj : j < 8) →
      (descBytes addr len flags next)[j]? = some ((le64 addr).get ⟨j, by simpa using hj⟩)) ∧
    (∀ j, (hj : j < 4) →
      (descBytes addr len flags next)[8 + j]? = some ((le32 len).get ⟨j, by simpa using hj⟩)) ∧
    (descBytes addr len flags next)[12]? = some (UInt8.ofNat (flags.toNat % 256)) := by
  refine ⟨?_, ?_, ?_⟩
  · intro j hj
    rw [descBytes, List.append_assoc, List.append_assoc, List.getElem?_append_left (by simpa)]
    exact List.getElem?_eq_getElem (by simpa using hj)
  · intro j hj
    rw [descBytes, List.append_assoc, List.append_assoc,
      List.getElem?_append_right (by simp), le64_length, Nat.add_sub_cancel_left,
      List.getElem?_append_left (by simpa)]
    exact List.getElem?_eq_getElem (by simpa using hj)
  · rw [descBytes, List.append_assoc, List.append_assoc, List.getElem?_append_right (by simp),
      List.getElem?_append_right (by simp), List.getElem?_append_left (by simp)]
    rfl

private theorem place_byte (m : ByteMemory) (es : List Event) (q : VqState) (p : Piece) (j : Nat)
    (b : UInt8) (hj : j < 16)
    (hb : (descBytes p.addr p.len (descFlags p.deviceWritable false) q.descNext)[j]? = some b) :
    memoryAfter m (q.placeEvents p.addr p.len p.deviceWritable false ++ es)
        (q.descSlot + UInt64.ofNat j) =
      (q.availByte (q.descSlot + UInt64.ofNat j)).getD b := by
  obtain ⟨hlt, hget⟩ := List.getElem?_eq_some_iff.mp hb
  rw [memoryAfter_place, ByteMemory.write_inside _ _ _ j hlt (by omega), hget]

private theorem getD_eq_iff {α : Type} (o : Option α) (b : α) :
    o.getD b = b ↔ ∀ a ∈ o, some b = some a := by
  cases o with
  | none => simp
  | some a => simp [eq_comm]

private theorem placed_desc_iff (m : ByteMemory) (es : List Event) (q : VqState) (p : Piece) :
    let d := readDesc (memoryAfter m (q.placeEvents p.addr p.len p.deviceWritable false ++ es))
      q.descSlot
    (d.addr = p.addr ∧ d.len = p.len ∧ d.writable = p.deviceWritable ∧ d.hasNext = false) ↔
      q.PublishHarmless p := by
  intro d
  obtain ⟨haddr, hlen, hflags⟩ := descBytes_getElem p.addr p.len
    (descFlags p.deviceWritable false) q.descNext
  have hbyte := place_byte m es q p
  have hfirst : d.addr = p.addr ↔ ∀ j < 8, ∀ b ∈ q.availByte (q.descSlot + UInt64.ofNat j),
      (descBytes p.addr p.len (descFlags p.deviceWritable false) q.descNext)[j]? = some b := by
    rw [readDesc_addr_iff]
    refine forall_congr' fun j => forall_congr' fun hj => ?_
    rw [hbyte j _ (by omega) (haddr j hj), haddr j hj]
    exact getD_eq_iff _ _
  have hsecond : d.len = p.len ↔ ∀ j < 4, ∀ b ∈ q.availByte (q.descSlot + UInt64.ofNat (8 + j)),
      (descBytes p.addr p.len (descFlags p.deviceWritable false) q.descNext)[8 + j]? = some b := by
    rw [readDesc_len_iff]
    refine forall_congr' fun j => forall_congr' fun hj => ?_
    have hoff : q.descSlot + 8 + UInt64.ofNat j = q.descSlot + UInt64.ofNat (8 + j) := by
      rw [UInt64.ofNat_add, ← UInt64.add_assoc]
      rfl
    rw [hoff, hbyte (8 + j) _ (by omega) (hlen j hj), hlen j hj]
    exact getD_eq_iff _ _
  have hthird : (d.writable = p.deviceWritable ∧ d.hasNext = false) ↔
      ∀ b ∈ q.availByte (q.descSlot + 12),
        b.toNat % 4 = (descFlags p.deviceWritable false).toNat := by
    have hmod := readDesc_flags_mod
      (memoryAfter m (q.placeEvents p.addr p.len p.deviceWritable false ++ es)) q.descSlot
    have hb12 := hbyte 12 _ (by omega) hflags
    change memoryAfter m _ (q.descSlot + 12) = (q.availByte (q.descSlot + 12)).getD _ at hb12
    rw [hb12] at hmod
    have hbits : (d.writable = p.deviceWritable ∧ d.hasNext = false) ↔
        d.flags.toNat % 4 = (descFlags p.deviceWritable false).toNat := by
      rw [Descriptor.writable, Descriptor.hasNext]
      cases p.deviceWritable <;> simp [descFlags, kDescWrite] <;> omega
    rw [hbits, hmod]
    rcases q.availByte (q.descSlot + 12) with _ | b
    · cases p.deviceWritable <;> simp [descFlags, kDescWrite]
    · simp
  constructor
  · rintro ⟨h1, h2, h3, h4⟩
    refine ⟨?_, hthird.mp ⟨h3, h4⟩⟩
    intro j hj
    by_cases h8 : j < 8
    · exact hfirst.mp h1 j h8
    · have hsum : 8 + (j - 8) = j := by omega
      have := hsecond.mp h2 (j - 8) (by omega)
      rwa [hsum] at this
  · rintro ⟨hbytes, hbit⟩
    obtain ⟨h3, h4⟩ := hthird.mpr hbit
    exact ⟨hfirst.mpr fun j hj => hbytes j (by omega),
      hsecond.mpr fun j hj => hbytes (8 + j) (by omega), h3, h4⟩

private theorem walkable_one_iff (m : ByteMemory) (i : Fin n) (p : Piece) (w : World n ξ) :
    Walkable (memoryAfter m (w.placeChain i [p]).trace) (w.st.vqs i) [p] ↔
      (w.st.vqs i).nextDescIdx.toNat % 2 ^ 16 =
          (w.st.vqs i).nextDescIdx.toNat % (w.st.vqs i).size.toNat ∧
        (w.st.vqs i).PublishHarmless p := by
  have htrace : (w.placeChain i [p]).trace =
      (w.st.vqs i).placeEvents p.addr p.len p.deviceWritable false ++ w.trace := rfl
  rw [htrace, Walkable, ring_entry]
  refine and_congr_right fun hentry => ?_
  have hsmall : (w.st.vqs i).nextDescIdx.toNat % (w.st.vqs i).size.toNat < 2 ^ 16 :=
    hentry ▸ Nat.mod_lt _ (by decide)
  have hslot : entryAddr (w.st.vqs i).descGpa ((w.st.vqs i).nextDescIdx.toNat % 2 ^ 16) =
      (w.st.vqs i).descSlot := by
    rw [entryAddr, VqState.descSlot, hentry]
    congr 1
    apply UInt64.toNat_inj.mp
    rw [UInt64.toNat_ofNat', UInt32.toNat_toUInt64, UInt32.toNat_mul, VqState.descIdx,
      UInt32.toNat_mod]
    simp only [UInt32.reduceToNat]
    omega
  have hdesc := placed_desc_iff m w.trace (w.st.vqs i) p
  dsimp only at hdesc
  rw [← hdesc]
  simp only [VqState.visits, Walks, visitAt, hslot, Visit.mk.injEq, Nat.add_zero]
  constructor
  · rintro ⟨⟨-, haddr, hlen, hwrite⟩, hlast⟩
    exact ⟨haddr, hlen, hwrite, hlast⟩
  · rintro ⟨haddr, hlen, hwrite, hlast⟩
    exact ⟨⟨hentry, haddr, hlen, hwrite⟩, hlast⟩

/-- A chain can be walked from its ring entry exactly when it has one piece, `next_desc_idx` is
still its own table index, and the publication is harmless. -/
theorem walkable_iff (m : ByteMemory) (i : Fin n) (ps : List Piece) (w : World n ξ)
    (hsize : ∃ e, (w.st.vqs i).size.toNat = 2 ^ e) (hne : ps ≠ [])
    (hlen : ps.length ≤ (w.st.vqs i).size.toNat) :
    Walkable (memoryAfter m (w.placeChain i ps).trace) (w.st.vqs i) ps ↔
      ∃ p, ps = [p] ∧ (w.st.vqs i).nextDescIdx.toNat % 2 ^ 16 =
          (w.st.vqs i).nextDescIdx.toNat % (w.st.vqs i).size.toNat ∧
        (w.st.vqs i).PublishHarmless p := by
  rcases ps with _ | ⟨p, _ | ⟨p', ps⟩⟩
  · exact absurd rfl hne
  · rw [walkable_one_iff]
    simp
  · have hlt : (p' :: ps).length < (w.st.vqs i).size.toNat := hlen
    have hnot := not_walkable_of_two m i p (p' :: ps) w hsize (by simp) hlt
    simp [hnot]

end VirtioCrash
