import VirtioCrash.Harness.Pool
import VirtioCrash.Lib.BitClear

/-!
# Virtqueues

Queue set-up and descriptor placement, as `op_vq_setup` and `place_desc` do it in the harnesses.
`placeDesc_run` says all a placement does; the proofs about rings start from it.
-/

namespace VirtioCrash

open StateProgram Bytes

variable {n : Nat} {ξ : Type}

/-- `while (size && (size & (size - 1))) size &= size - 1`; 32 passes are enough for 32 bits. -/
def clearLowBits : Nat → UInt32 → UInt32
  | 0, size => size
  | fuel + 1, size =>
      if size ≠ 0 ∧ size &&& (size - 1) ≠ 0 then clearLowBits fuel (size &&& (size - 1)) else size

/-- The queue size `op_vq_setup` settles on. -/
def vqSize (requestedSize max : UInt32) : UInt32 :=
  let size := if requestedSize ≠ 0 then requestedSize else 64
  let size := if size > max then max else size
  let size := clearLowBits 32 size
  if size = 0 then 1 else size

def opVqSetup (vqIdx requestedSize : UInt32) : Harness n ξ Unit := do
  if h : vqIdx.toNat < n then
    let i : Fin n := ⟨vqIdx.toNat, h⟩
    mmioWritel rQueueSel vqIdx
    let max ← mmioReadl rQueueNumMax
    if max = 0 then return
    let size := vqSize requestedSize max
    modifyVq i fun q => { q with size := size }
    let s ← getState
    let q := s.vqs i
    mmioWritel rQueueNum size
    mmioWritel rQdescLo q.descGpa.toUInt32
    mmioWritel rQdescHi (q.descGpa >>> 32).toUInt32
    mmioWritel rQdrvLo q.availGpa.toUInt32
    mmioWritel rQdrvHi (q.availGpa >>> 32).toUInt32
    mmioWritel rQdevLo q.usedGpa.toUInt32
    mmioWritel rQdevHi (q.usedGpa >>> 32).toUInt32
    mmioWritel rQueueReady 1

def descFlags (deviceWritable chainNext : Bool) : UInt16 :=
  (if deviceWritable then kDescWrite else 0) ||| (if chainNext then kDescNext else 0)

/-- A 16-byte split-virtqueue descriptor: le64 addr, le32 len, le16 flags, le16 next. -/
def descBytes (addr : UInt64) (len : UInt32) (flags next : UInt16) : List UInt8 :=
  le64 addr ++ le32 len ++ le16 flags ++ le16 next

namespace VqState

/-- The table slot the next descriptor goes to. -/
def descIdx (q : VqState) : UInt32 := q.nextDescIdx % q.size

def descSlot (q : VqState) : UInt64 := q.descGpa + (q.descIdx * 16).toUInt64

def descNext (q : VqState) : UInt16 := ((q.descIdx + 1) % q.size).toUInt16

/-- The ring entry the next published chain goes to. -/
def ringSlot (q : VqState) : UInt64 :=
  q.availGpa + 4 + (q.nextAvailIdx % q.size * 2).toUInt64

/-- The counters after a placement. -/
def advance (q : VqState) (chainNext : Bool) : VqState :=
  { q with
    nextDescIdx := q.nextDescIdx + 1
    nextAvailIdx := if chainNext then q.nextAvailIdx else q.nextAvailIdx + 1 }

/-- The memory writes of a placement, newest first. -/
def placeEvents (q : VqState) (addr : UInt64) (len : UInt32) (deviceWritable chainNext : Bool) :
    List Event :=
  (if chainNext then [] else
    [.memWrite (q.availGpa + 2) (le16 (q.nextAvailIdx + 1).toUInt16),
      .memWrite q.ringSlot (le16 q.nextDescIdx.toUInt16)]) ++
  [.memWrite q.descSlot (descBytes addr len (descFlags deviceWritable chainNext) q.descNext)]

/-- The history of a placement, newest first. -/
def placeMarks (q : VqState) (vqIdx : Nat) (addr : UInt64) (len : UInt32)
    (deviceWritable chainNext : Bool) : List Mark :=
  .place vqIdx addr len deviceWritable chainNext :: if q.size = 0 then [.divByZero] else []

end VqState

/-- `place_desc` of the net, gpu and scsi harnesses. -/
def placeDesc (i : Fin n) (addr : UInt64) (len : UInt32) (deviceWritable chainNext : Bool) :
    Harness n ξ UInt32 := do
  let s ← getState
  let q := s.vqs i
  if q.size = 0 then
    note .divByZero
  let idx := q.nextDescIdx % q.size
  let flags := descFlags deviceWritable chainNext
  let next := ((idx + 1) % q.size).toUInt16
  qtestMemwrite (q.descGpa + (idx * 16).toUInt64) (descBytes addr len flags next)
  note (.place i addr len deviceWritable chainNext)
  let head := q.nextDescIdx
  modifyVq i fun q => { q with nextDescIdx := q.nextDescIdx + 1 }
  if ¬chainNext then
    let hh := head.toUInt16
    qtestMemwrite (q.availGpa + 4 + (q.nextAvailIdx % q.size * 2).toUInt64) (le16 hh)
    modifyVq i fun q => { q with nextAvailIdx := q.nextAvailIdx + 1 }
    let aidx := (q.nextAvailIdx + 1).toUInt16
    qtestMemwrite (q.availGpa + 2) (le16 aidx)
  return head

/-- A placement on queue `i`, as a step of the world. -/
def World.place (i : Fin n) (addr : UInt64) (len : UInt32) (deviceWritable chainNext : Bool)
    (w : World n ξ) : World n ξ :=
  let q := w.st.vqs i
  { w with
    trace := q.placeEvents addr len deviceWritable chainNext ++ w.trace
    st := { w.st with vqs := Function.update w.st.vqs i (q.advance chainNext) }
    hist := q.placeMarks i addr len deviceWritable chainNext ++ w.hist }

theorem placeDesc_run (i : Fin n) (addr : UInt64) (len : UInt32) (deviceWritable chainNext : Bool)
    (w : World n ξ) :
    (placeDesc i addr len deviceWritable chainNext).run w =
      ((w.st.vqs i).nextDescIdx, w.place i addr len deviceWritable chainNext) := by
  by_cases hsize : (w.st.vqs i).size = 0 <;> cases chainNext <;>
    simp [placeDesc, getState, note, qtestMemwrite, emit, modifyVq, hsize, World.emit, World.note,
      World.setVq, World.place, VqState.placeEvents, VqState.placeMarks, VqState.advance,
      VqState.descSlot, VqState.descNext, VqState.ringSlot, VqState.descIdx] <;> rfl

end VirtioCrash
