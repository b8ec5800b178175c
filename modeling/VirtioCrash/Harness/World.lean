import VirtioCrash.Lib.StateProgram
import VirtioCrash.Lib.ByteMemory

/-!
# The harness world

The state every `proto_fuzz_virtio_*.cc` harness keeps in its thread-local `g_state`, the effects
its `qtest_*` calls have, and the program type its functions are translated into. What the device
answers to a read is a function of everything that happened before and of the access.
-/

namespace VirtioCrash

open StateProgram

/-- Slot 31 of the arm-virt virtio-mmio window, where the single device lands. -/
def kVirtioMmioBase : UInt64 := 0x0a003e00

def rDevFeatures : UInt64 := 0x010
def rDevFeaturesSel : UInt64 := 0x014
def rDrvFeatures : UInt64 := 0x020
def rDrvFeaturesSel : UInt64 := 0x024
def rQueueSel : UInt64 := 0x030
def rQueueNumMax : UInt64 := 0x034
def rQueueNum : UInt64 := 0x038
def rQueueReady : UInt64 := 0x044
def rQueueNotify : UInt64 := 0x050
def rIntStatus : UInt64 := 0x060
def rIntAck : UInt64 := 0x064
def rStatus : UInt64 := 0x070
def rQdescLo : UInt64 := 0x080
def rQdescHi : UInt64 := 0x084
def rQdrvLo : UInt64 := 0x090
def rQdrvHi : UInt64 := 0x094
def rQdevLo : UInt64 := 0x0a0
def rQdevHi : UInt64 := 0x0a4
def rConfig : UInt64 := 0x100

def kStatusAck : UInt32 := 0x01
def kStatusDriver : UInt32 := 0x02
def kStatusFeaturesOk : UInt32 := 0x08

def kDescNext : UInt16 := 0x1
def kDescWrite : UInt16 := 0x2

def kPoolBase : UInt64 := 0x47000000
def kVqDescSize : UInt64 := 0x1000
def kVqAvailSize : UInt64 := 0x1000
def kVqUsedSize : UInt64 := 0x1000
def kVqStride : UInt64 := kVqDescSize + kVqAvailSize + kVqUsedSize
def kBufPoolEnd : UInt64 := 0x47F00000

/-- The buffer pool follows the areas of the `kMaxQueues` queues. -/
def kBufPoolBase (kMaxQueues : Nat) : UInt64 :=
  kPoolBase + UInt64.ofNat kMaxQueues * kVqStride

/-- Where thread B's bump pointer starts: the upper half of the buffer pool. -/
def kBufPoolMid (kMaxQueues : Nat) : UInt64 :=
  kBufPoolBase kMaxQueues + (kBufPoolEnd - kBufPoolBase kMaxQueues) / 2

/-- What a harness function does to the machine. -/
inductive Event where
  | mmioRead (width : Nat) (addr : UInt64) (value : UInt32)
  | mmioWrite (width : Nat) (addr : UInt64) (value : UInt32)
  | memWrite (gpa : UInt64) (data : List UInt8)
  | flushEvents
  | setLink (netdev : String) (up : Bool)
  | consoleLookup (index : UInt32) (found : Bool)
  | consoleResize (index : UInt32) (width height : Int)
  deriving DecidableEq

/-- What a harness function asks of the machine. -/
inductive Query where
  | mmio (width : Nat) (addr : UInt64)
  | console (index : UInt32)
  deriving DecidableEq

/-- The machine's answers, given the events so far (newest first). -/
abbrev Device := List Event → Query → UInt32

/-- History variables: what the harness state does not record but its properties speak about. -/
inductive Mark where
  | reset
  | alloc (gpa : UInt64) (len : UInt32)
  | place (vqIdx : Nat) (addr : UInt64) (len : UInt32) (deviceWritable chainNext : Bool)
  | submit (vqIdx : Nat) (req : List UInt8)
  | divByZero
  deriving DecidableEq

/-- Guest memory after the events (newest first), from its contents before them. -/
def memoryAfter (m : ByteMemory) : List Event → ByteMemory
  | [] => m
  | .memWrite gpa data :: es => (memoryAfter m es).write gpa data
  | _ :: es => memoryAfter m es

/-- The queue and slot tables have 4, 8 or 16 entries; an index is taken modulo that. -/
instance neZero_four : NeZero (4 : Nat) := ⟨by decide⟩

instance neZero_eight : NeZero (8 : Nat) := ⟨by decide⟩

instance neZero_sixteen : NeZero (16 : Nat) := ⟨by decide⟩

structure VqState where
  descGpa : UInt64
  availGpa : UInt64
  usedGpa : UInt64
  size : UInt32
  nextDescIdx : UInt32
  nextAvailIdx : UInt32
  deriving DecidableEq

structure Buf where
  gpa : UInt64
  len : UInt32
  deriving DecidableEq

/-- `g_state` of a harness with `n` queues; `ext` holds the fields only that harness has. -/
structure State (n : Nat) (ξ : Type) where
  vqs : Fin n → VqState
  bufAlloc : UInt64
  bufs : UInt32 → Option Buf
  ext : ξ

/-- One thread of a harness in its machine. Traces and history are newest first. -/
structure World (n : Nat) (ξ : Type) where
  dev : Device
  trace : List Event
  st : State n ξ
  hist : List Mark

/-- A harness function. -/
abbrev Harness (n : Nat) (ξ α : Type) := StateM (World n ξ) α

variable {n : Nat} {ξ : Type}

namespace World

def emit (e : Event) (w : World n ξ) : World n ξ := { w with trace := e :: w.trace }

def note (m : Mark) (w : World n ξ) : World n ξ := { w with hist := m :: w.hist }

def setVq (i : Fin n) (q : VqState) (w : World n ξ) : World n ξ :=
  { w with st := { w.st with vqs := Function.update w.st.vqs i q } }

def setExt (f : ξ → ξ) (w : World n ξ) : World n ξ :=
  { w with st := { w.st with ext := f w.st.ext } }

end World

def emit (e : Event) : Harness n ξ Unit := modify (World.emit e)

def note (m : Mark) : Harness n ξ Unit := modify (World.note m)

def getState : Harness n ξ (State n ξ) := do
  let w ← get
  return w.st

theorem getState_run (w : World n ξ) : (getState : Harness n ξ (State n ξ)).run w = (w.st, w) :=
  rfl

def modifyVq (i : Fin n) (f : VqState → VqState) : Harness n ξ Unit :=
  modify fun w => w.setVq i (f (w.st.vqs i))

def modifyExt (f : ξ → ξ) : Harness n ξ Unit := modify (World.setExt f)

/-- `qtest_read{b,w,l}` at an offset of the device's register window. -/
def mmioRead (width : Nat) (off : UInt64) : Harness n ξ UInt32 := do
  let w ← get
  let v := w.dev w.trace (.mmio width (kVirtioMmioBase + off))
  emit (.mmioRead width (kVirtioMmioBase + off) v)
  return v

/-- `qtest_write{b,w,l}` at an offset of the device's register window. -/
def mmioWrite (width : Nat) (off : UInt64) (v : UInt32) : Harness n ξ Unit :=
  emit (.mmioWrite width (kVirtioMmioBase + off) v)

def mmioReadl (off : UInt64) : Harness n ξ UInt32 := mmioRead 4 off

def mmioWritel (off : UInt64) (v : UInt32) : Harness n ξ Unit := mmioWrite 4 off v

def qtestMemwrite (gpa : UInt64) (data : List UInt8) : Harness n ξ Unit := emit (.memWrite gpa data)

def flushEvents : Harness n ξ Unit := emit .flushEvents

end VirtioCrash
