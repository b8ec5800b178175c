import VirtioCrash.Harness.World
import VirtioCrash.Lib.BumpAllocator
import Mathlib.Tactic.Ring

/-!
# The buffer pool

The bump allocator behind `alloc_gpa`, `alloc_buf` and `op_guest_mem_write`. Each of them tests
that the request and its padding fit below `kBufPoolEnd` before it moves `buf_alloc`.
-/

namespace VirtioCrash

open StateProgram

variable {n : Nat} {ξ η : Type}

/-- `(buf_alloc + len + 16) & ~uint64_t{0xf}` -/
def bumpNext (bufAlloc : UInt64) (len : UInt32) : UInt64 :=
  (bufAlloc + len.toUInt64 + 16) &&& ~~~(0xf : UInt64)

/-- The guard of every allocation. -/
def PoolFull (bufAlloc : UInt64) (len : UInt32) : Prop :=
  bufAlloc + len.toUInt64 + 16 > kBufPoolEnd

instance (bufAlloc : UInt64) (len : UInt32) : Decidable (PoolFull bufAlloc len) :=
  inferInstanceAs (Decidable (_ > _))

/-- The range at the bump pointer is handed out. -/
def World.bump (len : UInt32) (w : World n ξ) : World n ξ :=
  { w with
    st := { w.st with bufAlloc := bumpNext w.st.bufAlloc len }
    hist := .alloc w.st.bufAlloc len :: w.hist }

def World.bindBuf (id : UInt32) (b : Buf) (w : World n ξ) : World n ξ :=
  { w with st := { w.st with bufs := Function.update w.st.bufs id (some b) } }

def bump (len : UInt32) : Harness n ξ Unit := modify (World.bump len)

def bindBuf (id : UInt32) (b : Buf) : Harness n ξ Unit := modify (World.bindBuf id b)

/-- `alloc_gpa`: 0 when the pool is full. -/
def allocGpa (len : UInt32) : Harness n ξ UInt64 := do
  let s ← getState
  if PoolFull s.bufAlloc len then return 0
  bump len
  return s.bufAlloc

/-- `op_guest_mem_write` of the harnesses that allocate in place. -/
def opGuestMemWrite (bufId : UInt32) (data : List UInt8) : Harness n ξ Unit := do
  let len := UInt32.ofNat (min data.length 4096)
  let s ← getState
  if PoolFull s.bufAlloc len then return
  let gpa := s.bufAlloc
  bump len
  if len ≠ 0 then
    qtestMemwrite gpa (data.take len.toNat)
  bindBuf bufId ⟨gpa, len⟩

/-- The fields of a harness that mints buffer ids, before its own device-aware ones. -/
structure Synth (η : Type) where
  synthBufId : UInt32
  device : η

/-- `alloc_buf`: stage `len` of the bytes under a fresh id; 0 when the pool is full. -/
def allocBuf (bytes : List UInt8) (len : UInt32) : Harness n (Synth η) UInt32 := do
  let s ← getState
  if PoolFull s.bufAlloc len then return 0
  let gpa := s.bufAlloc
  bump len
  if len ≠ 0 then
    qtestMemwrite gpa (bytes.take len.toNat)
  let id := s.ext.synthBufId
  modifyExt fun e => { e with synthBufId := e.synthBufId + 1 }
  bindBuf id ⟨gpa, len⟩
  return id

private theorem toNat_and_not_fifteen (x : UInt64) :
    (x &&& ~~~(0xf : UInt64)).toNat = x.toNat / 16 * 16 := by
  have hmask : ∀ i < 64, (~~~(15#64)).getLsbD i = decide (4 ≤ i) := by decide
  have h : x &&& ~~~(0xf : UInt64) = (x >>> 4) <<< 4 := by
    apply UInt64.toBitVec_inj.1
    apply BitVec.eq_of_getLsbD_eq
    intro i hi
    have hm := hmask i hi
    rw [UInt64.toBitVec_and, UInt64.toBitVec_not, BitVec.getLsbD_and,
      show UInt64.toBitVec 0xf = 15#64 from rfl, hm]
    by_cases h4 : i < 4
    · simp [h4]
    · simp [hi, show 4 ≤ i by omega, show 4 + (i - 4) = i by omega]
  have hx := x.toNat_lt
  rw [h]
  simp only [UInt64.toNat_shiftLeft, UInt64.toNat_shiftRight, Nat.shiftLeft_eq,
    Nat.shiftRight_eq_div_pow]
  simp
  omega

private theorem bump_sum_toNat (p : UInt64) (len : UInt32) (hp : p ≤ kBufPoolEnd) :
    (p + len.toUInt64 + 16).toNat = p.toNat + len.toNat + 16 := by
  have hp' : p.toNat ≤ 0x47F00000 := UInt64.le_iff_toNat_le.mp hp
  have hl := len.toNat_lt
  simp only [UInt64.toNat_add, UInt32.toNat_toUInt64, UInt64.reduceToNat]
  omega

theorem bumpNext_toNat (p : UInt64) (len : UInt32) (hp : p ≤ kBufPoolEnd) :
    (bumpNext p len).toNat = (p.toNat + len.toNat + 16) / 16 * 16 := by
  rw [bumpNext, toNat_and_not_fifteen, bump_sum_toNat p len hp]

theorem not_poolFull_iff (p : UInt64) (len : UInt32) (hp : p ≤ kBufPoolEnd) :
    ¬PoolFull p len ↔ p.toNat + len.toNat + 16 ≤ 0x47F00000 := by
  rw [PoolFull, gt_iff_lt, UInt64.lt_iff_toNat_lt, bump_sum_toNat p len hp]
  exact not_lt

theorem allocGpa_full (len : UInt32) (w : World n ξ) (h : PoolFull w.st.bufAlloc len) :
    (allocGpa len).run w = (0, w) := by
  simp [allocGpa, getState, h]
  rfl

theorem opGuestMemWrite_full (bufId : UInt32) (data : List UInt8) (w : World n ξ)
    (h : PoolFull w.st.bufAlloc (UInt32.ofNat (min data.length 4096))) :
    (opGuestMemWrite bufId data).run w = ((), w) := by
  simp [opGuestMemWrite, getState, h]
  rfl

theorem allocBuf_full (bytes : List UInt8) (len : UInt32) (w : World n (Synth η))
    (h : PoolFull w.st.bufAlloc len) : (allocBuf bytes len).run w = (0, w) := by
  simp [allocBuf, getState, h]
  rfl

end VirtioCrash
