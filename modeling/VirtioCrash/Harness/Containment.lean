import VirtioCrash.Harness.AbsoluteWrite

/-!
# Where the harness writes

The memory writes of the steps stay inside `[kPoolBase, kBufPoolEnd)`: buffers by the pool
invariant, absolute writes by their clamp, and ring writes as long as the indices they are computed
from are small.
-/

namespace VirtioCrash

open StateProgram BumpAllocator

variable {n : Nat} {ξ : Type}

/-- `len` bytes at `gpa` are inside the reserved DRAM region. -/
def InRegion (gpa : UInt64) (len : Nat) : Prop :=
  kPoolBase.toNat ≤ gpa.toNat ∧ gpa.toNat + len ≤ kBufPoolEndNat

instance (gpa : UInt64) (len : Nat) : Decidable (InRegion gpa len) :=
  inferInstanceAs (Decidable (_ ∧ _))

/-- Every memory write of the trace is inside the reserved DRAM region. -/
def Contained (trace : List Event) : Prop :=
  ∀ gpa data, .memWrite gpa data ∈ trace → InRegion gpa data.length

theorem contained_nil : Contained [] := by
  intro gpa data h
  cases h

private theorem Contained.cons {trace : List Event} {e : Event} (h : Contained trace)
    (he : ∀ gpa data, e = .memWrite gpa data → InRegion gpa data.length) :
    Contained (e :: trace) := by
  intro gpa data hmem
  rcases List.mem_cons.mp hmem with heq | hmem
  · exact he gpa data heq.symm
  · exact h gpa data hmem

theorem Contained.cons_of_not_write {trace : List Event} {e : Event} (h : Contained trace)
    (he : e.isMemWrite = false) : Contained (e :: trace) := by
  refine h.cons ?_
  rintro gpa data rfl
  cases he

private theorem Contained.cons_write {trace : List Event} {gpa : UInt64} {data : List UInt8}
    (h : Contained trace) (hin : InRegion gpa data.length) :
    Contained (.memWrite gpa data :: trace) := by
  refine h.cons ?_
  intro gpa' data' heq
  cases heq
  exact hin

private theorem inRegion_of_alloc {lo : Nat} {w : World n ξ} (hlo : kPoolBase.toNat ≤ lo)
    (hpool : PoolInv lo w) {gpa : UInt64} {len off : UInt32} {k : Nat}
    (halloc : .alloc gpa len ∈ sinceReset w.hist) (hfit : off.toNat + k ≤ len.toNat) :
    InRegion (gpa + off.toUInt64) k := by
  obtain ⟨hge, hend⟩ := hpool.alloc_inside halloc hfit
  exact ⟨hlo.trans hge, hend⟩

private theorem inRegion_of_clamp (hn : n ≤ 16) {gpa a : UInt64} {len : UInt32}
    (hlen : len.toNat ≤ 4096) (ha : clampGpa n gpa len = some a) : InRegion a len.toNat := by
  have hbase := kBufPoolBase_toNat hn
  have hpool : kPoolBase.toNat = 0x47000000 := rfl
  obtain ⟨a', ha', haddr⟩ := clampGpa_eq hn gpa hlen
  have hroom : (kBufPoolBase n).toNat + len.toNat < kBufPoolEndNat := by
    rw [hbase, kBufPoolEndNat]
    omega
  have hinside := clampedGpa_inside gpa.toNat hroom
  cases ha'.symm.trans ha
  rw [InRegion, haddr, hpool]
  omega

private theorem Step.contained {a : Act} {w w' : World n ξ} {lo : Nat} (hs : Step a w w')
    (ha : a ≠ .place) (hn : n ≤ 16) (hlo : kPoolBase.toNat ≤ lo) (hpool : PoolInv lo w)
    (h : Contained w.trace) : Contained w'.trace := by
  cases hs with
  | place i addr len deviceWritable chainNext w hsize => exact absurd rfl ha
  | event e w he => exact h.cons_of_not_write he
  | writeBuf gpa len off data w halloc hfit =>
      exact h.cons_write (inRegion_of_alloc hlo hpool halloc hfit)
  | writeClamped gpa a data w hlen hclamp =>
      have hsmall : (UInt32.ofNat data.length).toNat = data.length := by
        rw [UInt32.toNat_ofNat']
        omega
      have hin := inRegion_of_clamp hn (by rw [hsmall]; exact hlen) hclamp
      rw [hsmall] at hin
      exact h.cons_write hin
  | setSize i requestedSize max w hmax => exact h
  | bump len w hfit => exact h
  | bindBuf id b w halloc => exact h
  | setExt f w => exact h
  | submit vqIdx req w => exact h

theorem Steps.contained {A : List Act} {w w' : World n ξ} {lo : Nat} (hs : Steps A w w')
    (hA : Act.place ∉ A) (hn : n ≤ 16) (hlo : kPoolBase.toNat ≤ lo) (hpool : PoolInv lo w)
    (h : Contained w.trace) : Contained w'.trace := by
  have hboth := hs.invariant (fun v => PoolInv lo v ∧ Contained v.trace) ?_ ⟨hpool, h⟩
  · exact hboth.2
  · intro a ha v v' hstep hv
    have hne : a ≠ .place := fun he => hA (he ▸ ha)
    exact ⟨hv.1.step hstep, hstep.contained hne hn hlo hv.1 hv.2⟩

/-- The indices of queue `i` are small enough for a placement to stay below `kBufPoolEnd`. -/
structure IndicesFit (i : Nat) (q : VqState) (chainNext : Bool) : Prop where
  desc : q.descIdx.toNat % 2 ^ 28 < 983040 - 768 * i
  ring : chainNext = false → (q.nextAvailIdx % q.size).toNat < 7862270 - 6144 * i

instance (i : Nat) (q : VqState) (chainNext : Bool) : Decidable (IndicesFit i q chainNext) :=
  decidable_of_iff (q.descIdx.toNat % 2 ^ 28 < 983040 - 768 * i ∧
      (chainNext = false → (q.nextAvailIdx % q.size).toNat < 7862270 - 6144 * i))
    ⟨fun h => ⟨h.1, h.2⟩, fun h => ⟨h.desc, h.ring⟩⟩

private theorem placeEvents_inRegion {i : Nat} (hi : i < 16) {q : VqState} (addr : UInt64)
    (len : UInt32) (deviceWritable : Bool) {chainNext : Bool}
    (hdesc : q.descGpa.toNat = 0x47000000 + i * 0x3000)
    (havail : q.availGpa.toNat = 0x47000000 + i * 0x3000 + 0x1000)
    (hfit : IndicesFit i q chainNext) :
    Contained (q.placeEvents addr len deviceWritable chainNext) := by
  have hpool : kPoolBase.toNat = 0x47000000 := rfl
  have hslot : q.descSlot.toNat = q.descGpa.toNat + 16 * (q.descIdx.toNat % 2 ^ 28) := by
    have hd := hfit.desc
    rw [VqState.descSlot, UInt64.toNat_add, UInt32.toNat_toUInt64, UInt32.toNat_mul]
    simp only [UInt32.reduceToNat]
    omega
  have hdescIn : InRegion q.descSlot 16 := by
    have hd := hfit.desc
    rw [InRegion, kBufPoolEndNat, hslot, hdesc, hpool]
    omega
  have hlen : (descBytes addr len (descFlags deviceWritable chainNext) q.descNext).length = 16 := by
    simp [descBytes]
  rw [VqState.placeEvents]
  cases chainNext with
  | true =>
      refine contained_nil.cons_write ?_
      rw [hlen]
      exact hdescIn
  | false =>
      have hr := hfit.ring rfl
      have hring : q.ringSlot.toNat =
          q.availGpa.toNat + 4 + 2 * (q.nextAvailIdx % q.size).toNat := by
        rw [VqState.ringSlot, UInt64.toNat_add, UInt64.toNat_add, UInt32.toNat_toUInt64,
          UInt32.toNat_mul]
        simp only [UInt32.reduceToNat, UInt64.reduceToNat]
        omega
      have hidx : (q.availGpa + 2).toNat = q.availGpa.toNat + 2 := by
        rw [UInt64.toNat_add]
        simp only [UInt64.reduceToNat]
        omega
      refine Contained.cons_write (Contained.cons_write (contained_nil.cons_write ?_) ?_) ?_
      · rw [hlen]
        exact hdescIn
      · rw [InRegion, kBufPoolEndNat, hring, havail, hpool, Bytes.le16_length]
        omega
      · rw [InRegion, kBufPoolEndNat, hidx, havail, hpool, Bytes.le16_length]
        omega

theorem contained_place {w : World n ξ} {i : Fin n} {addr : UInt64} {len : UInt32}
    {deviceWritable chainNext : Bool} (hn : n ≤ 16) (haddr : AddressesReset w)
    (hfit : IndicesFit i (w.st.vqs i) chainNext) (h : Contained w.trace) :
    Contained (w.place i addr len deviceWritable chainNext).trace := by
  obtain ⟨hdesc, havail, -⟩ := haddr.toNat hn i
  have hevents := placeEvents_inRegion (lt_of_lt_of_le i.isLt hn) addr len deviceWritable hdesc
    havail hfit
  intro gpa data hmem
  rcases List.mem_append.mp hmem with hmem | hmem
  · exact hevents gpa data hmem
  · exact h gpa data hmem

end VirtioCrash
