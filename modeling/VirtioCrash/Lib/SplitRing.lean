import VirtioCrash.Lib.ByteMemory

/-!
# Descriptor chains in guest memory

A split virtqueue's descriptor table as a device reads it: 16-byte entries that point to a buffer
and, by the first flag bit and the `next` field, to another entry. `Walks` says which entries the
device visits from a head.
-/

namespace SplitRing

open Bytes

structure Descriptor where
  addr : UInt64
  len : UInt32
  flags : UInt16
  next : UInt16
  deriving DecidableEq

namespace Descriptor

def hasNext (d : Descriptor) : Bool := d.flags.toNat % 2 = 1
def writable (d : Descriptor) : Bool := d.flags.toNat / 2 % 2 = 1

end Descriptor

/-- The descriptor stored at an address. -/
def readDesc (m : ByteMemory) (a : UInt64) : Descriptor where
  addr := UInt64.ofNat (ofLe (m.read a 8))
  len := UInt32.ofNat (ofLe (m.read (a + 8) 4))
  flags := UInt16.ofNat (ofLe (m.read (a + 12) 2))
  next := UInt16.ofNat (ofLe (m.read (a + 14) 2))

/-- The address of a table entry. -/
def entryAddr (table : UInt64) (idx : Nat) : UInt64 := table + UInt64.ofNat (16 * idx)

/-- A visited table entry and the buffer it names. -/
structure Visit where
  idx : Nat
  addr : UInt64
  len : UInt32
  writable : Bool
  deriving DecidableEq

def visitAt (m : ByteMemory) (table : UInt64) (idx : Nat) : Visit :=
  let d := readDesc m (entryAddr table idx)
  ⟨idx, d.addr, d.len, d.writable⟩

/-- From entry `idx` a device visits exactly the given entries, in order, and then stops. -/
def Walks (m : ByteMemory) (table : UInt64) : Nat → List Visit → Prop
  | _, [] => False
  | idx, v :: vs =>
      visitAt m table idx = v ∧
        match vs with
        | [] => (readDesc m (entryAddr table idx)).hasNext = false
        | _ :: _ =>
            (readDesc m (entryAddr table idx)).hasNext = true ∧
              Walks m table (readDesc m (entryAddr table idx)).next.toNat vs

/-- Every entry after the head is reached through a 16-bit field. -/
theorem Walks.idx_lt {m : ByteMemory} {table : UInt64} {idx : Nat} {v : Visit} {vs : List Visit}
    (h : Walks m table idx (v :: vs)) : ∀ u ∈ vs, u.idx < 2 ^ 16 := by
  induction vs generalizing idx v with
  | nil => simp
  | cons v' vs ih =>
      obtain ⟨-, -, htail⟩ := h
      have hhead : visitAt m table (readDesc m (entryAddr table idx)).next.toNat = v' := htail.1
      have hv' : v'.idx = (readDesc m (entryAddr table idx)).next.toNat := by
        rw [← hhead]
        rfl
      intro u hu
      rcases List.mem_cons.mp hu with rfl | hu
      · rw [hv']
        exact UInt16.toNat_lt _
      · exact ih htail u hu

private theorem ofLe_read_eq_iff (m : ByteMemory) (a : UInt64) (bs : List UInt8) :
    ofLe (m.read a bs.length) = ofLe bs ↔
      ∀ i, (hi : i < bs.length) → m (a + UInt64.ofNat i) = bs[i] := by
  constructor
  · intro h i hi
    have heq := ofLe_injective (m.read_length a bs.length) h
    have hget := congrArg (fun cs : List UInt8 => cs[i]?) heq
    simpa [ByteMemory.read, hi] using hget
  · intro h
    congr 1
    apply List.ext_getElem
    · simp
    · intro i hi hi'
      simpa [ByteMemory.read] using h i hi'

theorem readDesc_addr_iff (m : ByteMemory) (a addr : UInt64) :
    (readDesc m a).addr = addr ↔
      ∀ i, (hi : i < 8) → m (a + UInt64.ofNat i) = (le64 addr).get ⟨i, by simpa using hi⟩ := by
  have hlt := ofLe_lt (m.read a 8)
  rw [ByteMemory.read_length] at hlt
  have hiff := ofLe_read_eq_iff m a (le64 addr)
  simp only [le64_length, ofLe_le64] at hiff
  refine Iff.trans ?_ hiff
  rw [readDesc, ← UInt64.toNat_inj, UInt64.toNat_ofNat', Nat.mod_eq_of_lt]
  exact hlt

theorem readDesc_len_iff (m : ByteMemory) (a : UInt64) (len : UInt32) :
    (readDesc m a).len = len ↔
      ∀ i, (hi : i < 4) → m (a + 8 + UInt64.ofNat i) = (le32 len).get ⟨i, by simpa using hi⟩ := by
  have hlt := ofLe_lt (m.read (a + 8) 4)
  rw [ByteMemory.read_length] at hlt
  have hiff := ofLe_read_eq_iff m (a + 8) (le32 len)
  simp only [le32_length, ofLe_le32] at hiff
  refine Iff.trans ?_ hiff
  rw [readDesc, ← UInt32.toNat_inj, UInt32.toNat_ofNat', Nat.mod_eq_of_lt]
  exact hlt

theorem readDesc_flags_mod (m : ByteMemory) (a : UInt64) :
    (readDesc m a).flags.toNat % 4 = (m (a + 12)).toNat % 4 := by
  have hread : m.read (a + 12) 2 = [m (a + 12), m (a + 12 + 1)] := by
    simp [ByteMemory.read, List.range_succ]
  rw [readDesc, hread, UInt16.toNat_ofNat']
  simp only [ofLe]
  omega

theorem readDesc_congr {m m' : ByteMemory} {a : UInt64}
    (h : ∀ k < 16, m (a + UInt64.ofNat k) = m' (a + UInt64.ofNat k)) :
    readDesc m a = readDesc m' a := by
  have hread (off l : Nat) (hle : off + l ≤ 16) :
      m.read (a + UInt64.ofNat off) l = m'.read (a + UInt64.ofNat off) l := by
    apply List.map_congr_left
    intro k hk
    have hlt := List.mem_range.mp hk
    have hsum := h (off + k) (by omega)
    rwa [UInt64.ofNat_add, ← UInt64.add_assoc] at hsum
  have h0 := hread 0 8 (by omega)
  have h8 := hread 8 4 (by omega)
  have h12 := hread 12 2 (by omega)
  have h14 := hread 14 2 (by omega)
  rw [show UInt64.ofNat 0 = 0 from rfl, UInt64.add_zero] at h0
  change m.read (a + 8) 4 = m'.read (a + 8) 4 at h8
  change m.read (a + 12) 2 = m'.read (a + 12) 2 at h12
  change m.read (a + 14) 2 = m'.read (a + 14) 2 at h14
  rw [readDesc, readDesc, h0, h8, h12, h14]

end SplitRing
