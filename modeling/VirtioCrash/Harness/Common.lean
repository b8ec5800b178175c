import VirtioCrash.Harness.Ring

/-!
# The common virtio operations

The operations every harness's `VirtioOp` starts with. The harnesses handle most of them by the
same text; `Handlers` holds the ones whose text differs between them.
-/

namespace VirtioCrash

open StateProgram Bytes

variable {n : Nat} {ξ : Type}

structure VqAddDesc where
  vqIdx : UInt32
  bufId : UInt32
  len : UInt32
  deviceWritable : Bool
  chainNext : Bool
  exoticRegion : UInt32
  deriving DecidableEq

/-- The cases the `VirtioOp` messages of the harnesses share. -/
inductive CommonOp where
  | getFeatures
  | setFeatures (features : UInt64)
  | configRead (offset size : UInt32)
  | configWrite (offset : UInt32) (data : List UInt8)
  | vqSelect (vqIdx : UInt32)
  | vqSetup (vqIdx size : UInt32)
  | setStatus (bits : UInt32)
  | guestMemWrite (bufId : UInt32) (data : List UInt8)
  | vqAddDesc (d : VqAddDesc)
  | vqKick (vqIdx : UInt32)
  | vqWaitUsed (vqIdx : UInt32)
  | reset
  | memWriteAbsolute (gpa : UInt64) (data : List UInt8)
  | mmioCorrupt (offset value size : UInt32)
  | opNotSet
  deriving DecidableEq

/-- A queue as `reset_iteration_state` leaves it. -/
def resetVq (i : Nat) : VqState where
  descGpa := kPoolBase + UInt64.ofNat i * kVqStride
  availGpa := kPoolBase + UInt64.ofNat i * kVqStride + kVqDescSize
  usedGpa := kPoolBase + UInt64.ofNat i * kVqStride + kVqDescSize + kVqAvailSize
  size := 0
  nextDescIdx := 0
  nextAvailIdx := 0

def World.resetRings (w : World n ξ) : World n ξ :=
  { w with
    st := { w.st with
      vqs := fun i => resetVq i
      bufAlloc := kBufPoolBase n
      bufs := fun _ => none }
    hist := .reset :: w.hist }

/-- `reset_iteration_state` up to the fields only one harness has. -/
def resetCommon : Harness n ξ Unit := do
  mmioWritel rStatus 0
  mmioWritel rStatus (kStatusAck ||| kStatusDriver)
  modify World.resetRings

def opGetFeatures : Harness n ξ Unit := do
  mmioWritel rDevFeaturesSel 0
  let _ ← mmioReadl rDevFeatures
  mmioWritel rDevFeaturesSel 1
  let _ ← mmioReadl rDevFeatures

def opSetFeatures (f : UInt64) : Harness n ξ Unit := do
  mmioWritel rDrvFeaturesSel 0
  mmioWritel rDrvFeatures f.toUInt32
  mmioWritel rDrvFeaturesSel 1
  mmioWritel rDrvFeatures (f >>> 32).toUInt32
  let st ← mmioReadl rStatus
  mmioWritel rStatus (st ||| kStatusFeaturesOk)

/-- The config read of the blk and net harnesses, by size. -/
def opConfigReadSized (offset size : UInt32) : Harness n ξ Unit := do
  let off := rConfig + (offset &&& 0xff).toUInt64
  if size ≥ 4 then
    let _ ← mmioReadl off
  else if size ≥ 2 then
    let _ ← mmioRead 2 off
  else
    let _ ← mmioRead 1 off

/-- The config read of the gpu and scsi harnesses. -/
def opConfigReadWord (offset _size : UInt32) : Harness n ξ Unit := do
  let _ ← mmioReadl (rConfig + (offset &&& 0xff).toUInt64)

/-- The words `ConfigWrite` stores: those of `data` from `i` on that are whole and end inside the
256 bytes of config space. -/
def configWords (off : Nat) : Nat → List UInt8 → List (UInt64 × UInt32)
  | i, b0 :: b1 :: b2 :: b3 :: rest =>
      if off + i + 4 ≤ 0x100 then
        (rConfig + UInt64.ofNat (off + i), UInt32.ofNat (ofLe [b0, b1, b2, b3])) ::
          configWords off (i + 4) rest
      else []
  | _, _ => []

def opConfigWrite (offset : UInt32) (data : List UInt8) : Harness n ξ Unit :=
  (configWords (offset &&& 0xff).toNat 0 data).forM fun word => mmioWritel word.1 word.2

def opVqSelect (vqIdx : UInt32) : Harness n ξ Unit := mmioWritel rQueueSel (vqIdx &&& 0xff)

/-- Zero clears the status register, other bits are ORed into it. -/
def opSetStatus (bits : UInt32) : Harness n ξ Unit := do
  if bits = 0 then
    mmioWritel rStatus 0
  else
    let st ← mmioReadl rStatus
    mmioWritel rStatus (st ||| bits)

/-- `op_vq_kick` of the blk and net harnesses. -/
def opVqKick (vqIdx : UInt32) : Harness n ξ Unit := do
  mmioWritel rQueueNotify vqIdx
  flushEvents

/-- `op_vq_wait_used` of the blk, net and gpu harnesses. -/
def opVqWaitUsed (_vqIdx : UInt32) : Harness n ξ Unit := do
  flushEvents
  let st ← mmioReadl rIntStatus
  if st ≠ 0 then
    mmioWritel rIntAck st

/-- `op_mmio_corrupt` of the blk, net and gpu harnesses. -/
def opMmioCorrupt (offset value size : UInt32) : Harness n ξ Unit := do
  let off := (offset &&& 0x1ff).toUInt64
  if size = 1 then
    mmioWrite 1 off (value &&& 0xff)
  else if size = 2 then
    mmioWrite 2 off (value &&& 0xffff)
  else
    mmioWrite 4 off value

/-- The address `op_memwrite_absolute` stores `len` bytes at, if it stores them. -/
def clampGpa (n : Nat) (gpa : UInt64) (len : UInt32) : Option UInt64 :=
  if gpa < kBufPoolBase n ∨ gpa > kBufPoolEnd - len.toUInt64 then
    let span := kBufPoolEnd - kBufPoolBase n - len.toUInt64
    if span = 0 then none else some (kBufPoolBase n + gpa % span)
  else some gpa

def opMemwriteAbsolute (gpa : UInt64) (data : List UInt8) : Harness n ξ Unit := do
  if data.isEmpty then return
  let len := UInt32.ofNat (min data.length 4096)
  match clampGpa n gpa len with
  | none => return
  | some a => qtestMemwrite a (data.take len.toNat)

/-- The non-RAM windows a descriptor can point into, in `exotic_region` order: the UART, the
device's own registers, the GIC distributor and the other virtio-mmio slots. -/
def exoticBases : Fin 4 → UInt64
  | 0 => 0x09000000
  | 1 => kVirtioMmioBase
  | 2 => 0x08000000
  | 3 => 0x0a000000

def exoticSizes : Fin 4 → UInt32
  | 0 => 0x1000
  | 1 => 0x200
  | 2 => 0x10000
  | 3 => 0x3e00

def exoticAddr (bufId exoticRegion : UInt32) : UInt64 :=
  let ri := Fin.ofNat 4 ((exoticRegion - 1) % 4).toNat
  exoticBases ri + (bufId % (exoticSizes ri / 4) * 4).toUInt64

/-- Where `op_vq_add_desc` points its descriptor, and how long it is; the blk, net and gpu
harnesses share this part of it. `none` when the buffer id is unknown. -/
def descTarget (bufs : UInt32 → Option Buf) (bufId len exoticRegion : UInt32) :
    Option (UInt64 × UInt32) :=
  if exoticRegion ≠ 0 then some (exoticAddr bufId exoticRegion, min len 4)
  else (bufs bufId).map fun buf => (buf.gpa, min len buf.len)

/-- How `op_vq_add_desc` picks a descriptor's address and length from the buffers and the message's
`buf_id`, `len` and `exotic_region`. -/
abbrev TargetRule :=
  (UInt32 → Option Buf) → UInt32 → UInt32 → UInt32 → Option (UInt64 × UInt32)

/-- `op_vq_add_desc` over `place_desc`, for the rule that picks the descriptor's target. -/
def addDescWith (target : TargetRule) (d : VqAddDesc) : Harness n ξ Unit := do
  if h : d.vqIdx.toNat < n then
    let i : Fin n := ⟨d.vqIdx.toNat, h⟩
    let s ← getState
    if (s.vqs i).size = 0 then return
    match target s.bufs d.bufId d.len d.exoticRegion with
    | none => return
    | some (gpa, dlen) =>
        let _ ← placeDesc i gpa dlen d.deviceWritable d.chainNext

/-- What `addDescWith` does to the world. -/
def World.addDesc (target : TargetRule) (d : VqAddDesc) (w : World n ξ) : World n ξ :=
  if h : d.vqIdx.toNat < n then
    if (w.st.vqs ⟨d.vqIdx.toNat, h⟩).size = 0 then w
    else
      match target w.st.bufs d.bufId d.len d.exoticRegion with
      | none => w
      | some (gpa, dlen) =>
          w.place ⟨d.vqIdx.toNat, h⟩ gpa dlen d.deviceWritable d.chainNext
  else w

theorem addDescWith_run (target : TargetRule) (d : VqAddDesc) (w : World n ξ) :
    (addDescWith target d).run w = ((), w.addDesc target d) := by
  by_cases hi : d.vqIdx.toNat < n
  · by_cases hsize : (w.st.vqs ⟨d.vqIdx.toNat, hi⟩).size = 0
    · simp [addDescWith, World.addDesc, getState, hi, hsize]
      rfl
    · rcases ht : target w.st.bufs d.bufId d.len d.exoticRegion with _ | ⟨gpa, dlen⟩
      · simp [addDescWith, World.addDesc, getState, hi, hsize, ht]
        rfl
      · simp [addDescWith, World.addDesc, getState, hi, hsize, ht, placeDesc_run]
        rfl
  · simp [addDescWith, World.addDesc, hi]
    rfl

/-- `place_desc` for `g_state.bufs[id]`, which would default-construct an entry that is missing. -/
def placeBuf (i : Fin n) (id : UInt32) (deviceWritable chainNext : Bool) : Harness n ξ UInt32 := do
  let s ← getState
  let b := (s.bufs id).getD ⟨0, 0⟩
  placeDesc i b.gpa b.len deviceWritable chainNext

/-- The doorbell of a queue and the device's synchronous work. -/
def notify (i : Fin n) : Harness n ξ Unit := do
  mmioWritel rQueueNotify (UInt32.ofNat i)
  flushEvents

/-- The operations whose text differs between the harnesses. -/
structure Handlers (n : Nat) (ξ : Type) where
  configRead : UInt32 → UInt32 → Harness n ξ Unit
  guestMemWrite : UInt32 → List UInt8 → Harness n ξ Unit
  vqAddDesc : VqAddDesc → Harness n ξ Unit
  vqKick : UInt32 → Harness n ξ Unit
  vqWaitUsed : UInt32 → Harness n ξ Unit
  resetIterationState : Harness n ξ Unit
  mmioCorrupt : UInt32 → UInt32 → UInt32 → Harness n ξ Unit

/-- The cases of `dispatch` for the common operations. -/
def dispatchCommon (h : Handlers n ξ) : CommonOp → Harness n ξ Unit
  | .getFeatures => opGetFeatures
  | .setFeatures features => opSetFeatures features
  | .configRead offset size => h.configRead offset size
  | .configWrite offset data => opConfigWrite offset data
  | .vqSelect vqIdx => opVqSelect vqIdx
  | .vqSetup vqIdx size => opVqSetup vqIdx size
  | .setStatus bits => opSetStatus bits
  | .guestMemWrite bufId data => h.guestMemWrite bufId data
  | .vqAddDesc d => h.vqAddDesc d
  | .vqKick vqIdx => h.vqKick vqIdx
  | .vqWaitUsed vqIdx => h.vqWaitUsed vqIdx
  | .reset => h.resetIterationState
  | .memWriteAbsolute gpa data => opMemwriteAbsolute gpa data
  | .mmioCorrupt offset value size => h.mmioCorrupt offset value size
  | .opNotSet => pure ()

end VirtioCrash
