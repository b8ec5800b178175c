import VirtioCrash.Lib.Bytes

/-!
# Byte-addressed memory

A 64-bit address space of bytes. A write covers the addresses `a`, `a + 1`, … modulo `2^64`, as a
byte-wise walk through the address space does.
-/

/-- The contents of a 64-bit address space. -/
abbrev ByteMemory := UInt64 → UInt8

namespace ByteMemory

/-- Store a byte string at an address. -/
def write (m : ByteMemory) (a : UInt64) (bs : List UInt8) : ByteMemory :=
  fun x => bs.getD (x - a).toNat (m x)

/-- The `k` bytes from an address. -/
def read (m : ByteMemory) (a : UInt64) (k : Nat) : List UInt8 :=
  (List.range k).map fun i => m (a + UInt64.ofNat i)

@[simp] theorem read_length (m : ByteMemory) (a : UInt64) (k : Nat) : (m.read a k).length = k := by
  simp [read]

theorem write_outside (m : ByteMemory) (a x : UInt64) (bs : List UInt8)
    (h : bs.length ≤ (x - a).toNat) : m.write a bs x = m x := by
  simp [write, List.getElem?_eq_none h]

theorem write_inside (m : ByteMemory) (a : UInt64) (bs : List UInt8) (i : Nat)
    (hi : i < bs.length) (hlt : i < 2 ^ 64) : m.write a bs (a + UInt64.ofNat i) = bs[i] := by
  have hoff : (a + UInt64.ofNat i - a).toNat = i := by
    rw [UInt64.add_comm, UInt64.add_sub_cancel]
    simpa using hlt
  show bs.getD (a + UInt64.ofNat i - a).toNat (m (a + UInt64.ofNat i)) = bs[i]
  rw [hoff, List.getD_eq_getElem?_getD, List.getElem?_eq_getElem hi, Option.getD_some]

theorem read_write_same (m : ByteMemory) (a : UInt64) (bs : List UInt8)
    (hlen : bs.length ≤ 2 ^ 64) : (m.write a bs).read a bs.length = bs := by
  apply List.ext_getElem
  · simp
  · intro i hi hi'
    simp only [read, List.getElem_map, List.getElem_range]
    exact write_inside m a bs i hi' (by omega)

/-- A read whose addresses are all outside a store does not see it. -/
theorem read_write_outside (m : ByteMemory) (a b : UInt64) (bs : List UInt8) (k : Nat)
    (h : ∀ i < k, bs.length ≤ (b + UInt64.ofNat i - a).toNat) :
    (m.write a bs).read b k = m.read b k := by
  apply List.map_congr_left
  intro i hi
  exact write_outside m a _ bs (h i (List.mem_range.mp hi))

theorem read_write_slice (m : ByteMemory) (a : UInt64) (bs : List UInt8) (k l : Nat)
    (h : k + l ≤ bs.length) (hlen : bs.length ≤ 2 ^ 64) :
    (m.write a bs).read (a + UInt64.ofNat k) l = Bytes.slice bs k l := by
  apply List.ext_getElem
  · simp only [read_length, Bytes.slice, List.length_take, List.length_drop]
    omega
  · intro i hi hi'
    have hlt : i < l := by simpa using hi
    have hsum : a + UInt64.ofNat k + UInt64.ofNat i = a + UInt64.ofNat (k + i) := by
      rw [UInt64.ofNat_add, UInt64.add_assoc]
    simp only [read, List.getElem_map, List.getElem_range, hsum, Bytes.slice, List.getElem_take,
      List.getElem_drop]
    exact write_inside m a bs (k + i) (by omega) (by omega)

theorem write_offset_outside (m : ByteMemory) (base : UInt64) {o o' : Nat} (bs : List UInt8)
    (ho : o < 2 ^ 32) (ho' : o' < 2 ^ 32) (hlen : bs.length ≤ 2 ^ 32)
    (h : o < o' ∨ o' + bs.length ≤ o) :
    m.write (base + UInt64.ofNat o') bs (base + UInt64.ofNat o) = m (base + UInt64.ofNat o) := by
  apply write_outside
  have hsub (b x y : UInt64) : b + x - (b + y) = x - y := by grind
  rw [hsub, UInt64.toNat_sub, UInt64.toNat_ofNat', UInt64.toNat_ofNat']
  omega

theorem read_write_offset_outside (m : ByteMemory) (base : UInt64) (o o' k : Nat)
    (bs : List UInt8) (ho : o + k < 2 ^ 32) (ho' : o' < 2 ^ 32) (hlen : bs.length ≤ 2 ^ 32)
    (h : o + k ≤ o' ∨ o' + bs.length ≤ o) :
    (m.write (base + UInt64.ofNat o') bs).read (base + UInt64.ofNat o) k =
      m.read (base + UInt64.ofNat o) k := by
  apply List.map_congr_left
  intro i hi
  have hik := List.mem_range.mp hi
  rw [UInt64.add_assoc, ← UInt64.ofNat_add]
  exact write_offset_outside m base bs (by omega) ho' hlen (by omega)

theorem write_offset (m : ByteMemory) (base x : UInt64) (off : Nat) (bs : List UInt8)
    (h : off + bs.length < 2 ^ 64) :
    m.write (base + UInt64.ofNat off) bs x =
      if off ≤ (x - base).toNat ∧ (x - base).toNat < off + bs.length then
        bs.getD ((x - base).toNat - off) 0
      else m x := by
  have hsub : x - (base + UInt64.ofNat off) = x - base - UInt64.ofNat off := by grind
  have hlt := (x - base).toNat_lt
  have hdist : (x - (base + UInt64.ofNat off)).toNat =
      (2 ^ 64 - off + (x - base).toNat) % 2 ^ 64 := by
    rw [hsub, UInt64.toNat_sub, UInt64.toNat_ofNat', Nat.mod_eq_of_lt (show off < 2 ^ 64 by omega)]
  split
  · rename_i hin
    have hd : (x - (base + UInt64.ofNat off)).toNat = (x - base).toNat - off := by omega
    have hget := List.getElem?_eq_getElem (show (x - base).toNat - off < bs.length by omega)
    rw [write, hd, List.getD_eq_getElem?_getD, List.getD_eq_getElem?_getD, hget]
    rfl
  · apply write_outside
    omega

/-- The first `total` bytes from `base` hold `chunk` again and again. -/
def cyclic (m : ByteMemory) (base : UInt64) (chunk : List UInt8) (total : Nat) : ByteMemory :=
  fun x =>
    if (x - base).toNat < total then chunk.getD ((x - base).toNat % chunk.length) 0 else m x

end ByteMemory
