import VirtioCrash.Harness.Confined
import VirtioCrash.Lib.CheckedProgram

/-!
# The ring code with its array indices and remainders checked

The functions of the harnesses that index an array or take a remainder, over raw indices: an index
outside its array and a remainder by zero are faults. Where their guards let them, they do what the
functions of the model do.
-/

namespace VirtioCrash

open StateProgram StateProgram.Checked Bytes

variable {n : Nat} {ξ α β : Type}

inductive Fault where
  | divByZero
  | outOfRange (length : Nat) (index : UInt32)
  deriving DecidableEq

abbrev CheckedHarness (n : Nat) (ξ α : Type) := Checked Fault (World n ξ) α

namespace Checked

/-- The element an index names, in an array of `length` elements. -/
def index (length : Nat) (i : UInt32) : CheckedHarness n ξ (Fin length) :=
  if h : i.toNat < length then pure ⟨i.toNat, h⟩ else throw (.outOfRange length i)

/-- `a % b` -/
def rem [Mod α] [OfNat α 0] [DecidableEq α] (a b : α) : CheckedHarness n ξ α :=
  if b = 0 then throw .divByZero else pure (a % b)

/-- `g_state.vqs[vq_idx]` -/
def vqAt (vqIdx : UInt32) : CheckedHarness n ξ VqState := do
  let i ← index n vqIdx
  let s ← total getState
  return s.vqs i

/-- `for (uint32_t i = 0; i < length; ++i)` with a store to element `i` of an array. -/
def fill (length : Nat) (store : Fin length → World n ξ → World n ξ) : CheckedHarness n ξ Unit :=
  (List.range length).forM fun i => do
    let j ← index length (UInt32.ofNat i)
    total <| modify (store j)

def placeDesc (vqIdx : UInt32) (addr : UInt64) (len : UInt32) (deviceWritable chainNext : Bool) :
    CheckedHarness n ξ UInt32 := do
  let i ← index n vqIdx
  let s ← total getState
  let q := s.vqs i
  let idx ← rem q.nextDescIdx q.size
  let flags := descFlags deviceWritable chainNext
  let next ← rem (idx + 1) q.size
  total <| qtestMemwrite (q.descGpa + (idx * 16).toUInt64) (descBytes addr len flags next.toUInt16)
  total <| note (.place i addr len deviceWritable chainNext)
  let head := q.nextDescIdx
  total <| modifyVq i fun q => { q with nextDescIdx := q.nextDescIdx + 1 }
  if ¬chainNext then
    let hh := head.toUInt16
    let slot ← rem q.nextAvailIdx q.size
    total <| qtestMemwrite (q.availGpa + 4 + (slot * 2).toUInt64) (le16 hh)
    total <| modifyVq i fun q => { q with nextAvailIdx := q.nextAvailIdx + 1 }
    let aidx := (q.nextAvailIdx + 1).toUInt16
    total <| qtestMemwrite (q.availGpa + 2) (le16 aidx)
  return head

def opVqSetup (vqIdx requestedSize : UInt32) : CheckedHarness n ξ Unit := do
  if vqIdx.toNat ≥ n then return
  let i ← index n vqIdx
  total <| mmioWritel rQueueSel vqIdx
  let max ← total <| mmioReadl rQueueNumMax
  if max = 0 then return
  let size := vqSize requestedSize max
  total <| modifyVq i fun q => { q with size := size }
  let s ← total getState
  let q := s.vqs i
  total <| mmioWritel rQueueNum size
  total <| mmioWritel rQdescLo q.descGpa.toUInt32
  total <| mmioWritel rQdescHi (q.descGpa >>> 32).toUInt32
  total <| mmioWritel rQdrvLo q.availGpa.toUInt32
  total <| mmioWritel rQdrvHi (q.availGpa >>> 32).toUInt32
  total <| mmioWritel rQdevLo q.usedGpa.toUInt32
  total <| mmioWritel rQdevHi (q.usedGpa >>> 32).toUInt32
  total <| mmioWritel rQueueReady 1

def opVqAddDesc (d : VqAddDesc) : CheckedHarness n ξ Unit := do
  if d.vqIdx.toNat ≥ n then return
  let q ← vqAt d.vqIdx
  if q.size = 0 then return
  if d.exoticRegion ≠ 0 then
    let ri ← rem (d.exoticRegion - 1) 4
    let base ← index 4 ri
    let size ← index 4 ri
    let word ← rem d.bufId (exoticSizes size / 4)
    let _ ← placeDesc d.vqIdx (exoticBases base + (word * 4).toUInt64) (min d.len 4)
      d.deviceWritable d.chainNext
  else
    let s ← total getState
    match s.bufs d.bufId with
    | none => return
    | some buf =>
        let _ ← placeDesc d.vqIdx buf.gpa (min d.len buf.len) d.deviceWritable d.chainNext

def opMemwriteAbsolute (gpa : UInt64) (data : List UInt8) : CheckedHarness n ξ Unit := do
  if data.isEmpty then return
  let len := UInt32.ofNat (min data.length 4096)
  if gpa < kBufPoolBase n ∨ gpa > kBufPoolEnd - len.toUInt64 then
    let span := kBufPoolEnd - kBufPoolBase n - len.toUInt64
    if span = 0 then return
    let off ← rem gpa span
    total <| qtestMemwrite (kBufPoolBase n + off) (data.take len.toNat)
  else
    total <| qtestMemwrite gpa (data.take len.toNat)

/-- `place_desc` for `g_state.bufs[id]`. -/
def placeBuf (vqIdx id : UInt32) (deviceWritable chainNext : Bool) : CheckedHarness n ξ UInt32 := do
  let s ← total getState
  let b := (s.bufs id).getD ⟨0, 0⟩
  placeDesc vqIdx b.gpa b.len deviceWritable chainNext

/-- The doorbell of a queue and the device's synchronous work. -/
def notify (vqIdx : UInt32) : CheckedHarness n ξ Unit := do
  total <| mmioWritel rQueueNotify vqIdx
  total flushEvents

theorem index_bind {length : Nat} {i : UInt32} (h : i.toNat < length)
    (f : Fin length → CheckedHarness n ξ β) : (index length i >>= f) = f ⟨i.toNat, h⟩ := by
  rw [index, dif_pos h, pure_bind]

theorem rem_bind [Mod α] [OfNat α 0] [DecidableEq α] {b : α} (h : b ≠ 0) (a : α)
    (f : α → CheckedHarness n ξ β) : (rem a b >>= f) = f (a % b) := by
  rw [rem, if_neg h, pure_bind]

private theorem vqAt_bind_run {vqIdx : UInt32} (hi : vqIdx.toNat < n)
    (f : VqState → CheckedHarness n ξ β) (w : World n ξ) :
    (vqAt vqIdx >>= f).run w = (f (w.st.vqs ⟨vqIdx.toNat, hi⟩)).run w := by
  rw [vqAt, index_bind hi]
  rfl

theorem fill_run {length : Nat} (hlength : length ≤ 2 ^ 32)
    (store : Fin length → World n ξ → World n ξ) (w : World n ξ) :
    (fill length store).run w =
      .ok ((), (List.finRange length).foldl (fun w j => store j w) w) := by
  have hrange : List.range length = (List.finRange length).map Fin.val := by
    simp
  have hforM (js : List (Fin length)) : ((js.map Fin.val).forM fun i => do
        let j ← index length (UInt32.ofNat i)
        total (modify (store j)) : CheckedHarness n ξ Unit) =
      js.forM fun j => total (modify (store j)) := by
    induction js with
    | nil => rfl
    | cons j js ih =>
        have hj : (UInt32.ofNat j).toNat = j := by
          simp
          omega
        have hlt : (UInt32.ofNat j).toNat < length := by omega
        have hfin : (⟨(UInt32.ofNat j).toNat, hlt⟩ : Fin length) = j := Fin.ext hj
        change ((index length (UInt32.ofNat j) >>= fun j => total (modify (store j))) >>= fun _ =>
            (js.map Fin.val).forM _) =
          (total (modify (store j)) >>= fun _ => js.forM _)
        rw [ih, index_bind hlt, hfin]
  rw [fill, hrange, hforM]
  exact faultless_forM _ (fun _ _ _ => rfl) w

theorem fill_bind_run {length : Nat} (hlength : length ≤ 2 ^ 32)
    (store : Fin length → World n ξ → World n ξ) (f : Unit → CheckedHarness n ξ β) (w : World n ξ) :
    (fill length store >>= f).run w =
      (f ()).run ((List.finRange length).foldl (fun w j => store j w) w) := by
  rw [StateT.run_bind, fill_run hlength]
  rfl

variable {vqIdx : UInt32}

private theorem placeDesc_faultless (hi : vqIdx.toNat < n) (addr : UInt64) (len : UInt32)
    (deviceWritable chainNext : Bool) :
    Faultless (SetUp ⟨vqIdx.toNat, hi⟩)
      (placeDesc vqIdx addr len deviceWritable chainNext : CheckedHarness n ξ UInt32)
      (VirtioCrash.placeDesc ⟨vqIdx.toNat, hi⟩ addr len deviceWritable chainNext) := by
  intro w hset
  have hsize : (w.st.vqs ⟨vqIdx.toNat, hi⟩).size ≠ 0 := hset
  rw [VirtioCrash.placeDesc_run, placeDesc, index_bind hi, total_bind_run]
  simp only [getState_run]
  rw [rem_bind hsize, rem_bind hsize, rem_bind hsize]
  cases chainNext <;>
    simp only [Bool.false_eq_true, not_false_eq_true, not_true_eq_false, if_true, if_false, pure_eq,
      total_bind, total_run] <;>
    simp [qtestMemwrite, emit, note, modifyVq, World.emit, World.note, World.setVq,
      World.place, VqState.placeEvents, VqState.placeMarks, VqState.advance, VqState.descSlot,
      VqState.descNext, VqState.ringSlot, VqState.descIdx, hsize] <;> rfl

private theorem placeBuf_faultless (hi : vqIdx.toNat < n) (id : UInt32)
    (deviceWritable chainNext : Bool) :
    Faultless (SetUp ⟨vqIdx.toNat, hi⟩)
      (placeBuf vqIdx id deviceWritable chainNext : CheckedHarness n ξ UInt32)
      (VirtioCrash.placeBuf ⟨vqIdx.toNat, hi⟩ id deviceWritable chainNext) := by
  intro w hset
  rw [placeBuf, VirtioCrash.placeBuf, total_bind_run, StateProgram.run_bind]
  exact placeDesc_faultless hi _ _ _ _ w hset

private theorem notify_faultless {P : World n ξ → Prop} (hi : vqIdx.toNat < n) :
    Faultless P (notify vqIdx) (VirtioCrash.notify ⟨vqIdx.toNat, hi⟩) := by
  intro w _
  rw [VirtioCrash.notify, show UInt32.ofNat vqIdx.toNat = vqIdx from UInt32.ofNat_toNat]
  rfl

theorem opVqSetup_run (vqIdx requestedSize : UInt32) (w : World n ξ) :
    (opVqSetup vqIdx requestedSize).run w =
      .ok ((VirtioCrash.opVqSetup vqIdx requestedSize).run w) := by
  rw [opVqSetup, VirtioCrash.opVqSetup]
  by_cases hi : vqIdx.toNat < n
  · rw [if_neg (not_le.mpr hi), dif_pos hi, index_bind hi, total_bind_run, total_bind_run]
    rw [StateProgram.run_bind, StateProgram.run_bind]
    split
    · rfl
    · rfl
  · rw [if_pos (not_lt.mp hi), dif_neg hi]
    rfl

theorem opMemwriteAbsolute_run (gpa : UInt64) (data : List UInt8) (w : World n ξ) :
    (opMemwriteAbsolute gpa data).run w =
      .ok ((VirtioCrash.opMemwriteAbsolute gpa data).run w) := by
  rw [opMemwriteAbsolute, VirtioCrash.opMemwriteAbsolute]
  by_cases hempty : data.isEmpty
  · rw [if_pos hempty, if_pos hempty]
    rfl
  rw [if_neg hempty, if_neg hempty]
  dsimp only
  generalize UInt32.ofNat (min data.length 4096) = len
  by_cases hout : gpa < kBufPoolBase n ∨ gpa > kBufPoolEnd - len.toUInt64
  · rw [if_pos hout]
    by_cases hspan : kBufPoolEnd - kBufPoolBase n - len.toUInt64 = 0
    · have hclamp : clampGpa n gpa len = none := by
        rw [clampGpa, if_pos hout]
        exact if_pos hspan
      rw [if_pos hspan, hclamp]
      rfl
    · have hclamp : clampGpa n gpa len =
          some (kBufPoolBase n + gpa % (kBufPoolEnd - kBufPoolBase n - len.toUInt64)) := by
        rw [clampGpa, if_pos hout]
        exact if_neg hspan
      rw [if_neg hspan, rem_bind hspan, hclamp]
      rfl
  · have hclamp : clampGpa n gpa len = some gpa := by
      rw [clampGpa, if_neg hout]
    rw [if_neg hout, hclamp]
    rfl

private theorem region_lt (exoticRegion : UInt32) : ((exoticRegion - 1) % 4).toNat < 4 := by
  rw [UInt32.toNat_mod]
  exact Nat.mod_lt _ (by decide)

private theorem region_eq (exoticRegion : UInt32) :
    (⟨((exoticRegion - 1) % 4).toNat, region_lt exoticRegion⟩ : Fin 4) =
      Fin.ofNat 4 ((exoticRegion - 1) % 4).toNat :=
  Fin.ext (Nat.mod_eq_of_lt (region_lt exoticRegion)).symm

private theorem exoticWords_ne_zero (ri : Fin 4) : exoticSizes ri / 4 ≠ 0 := by
  revert ri
  decide

theorem opVqAddDesc_run (d : VqAddDesc) (w : World n ξ) :
    (opVqAddDesc d).run w = .ok ((addDescWith descTarget d).run w) := by
  rw [opVqAddDesc, addDescWith]
  by_cases hi : d.vqIdx.toNat < n
  · rw [if_neg (not_le.mpr hi), dif_pos hi, vqAt_bind_run hi, StateProgram.run_bind, getState_run]
    dsimp only
    by_cases hsize : (w.st.vqs ⟨d.vqIdx.toNat, hi⟩).size = 0
    · rw [if_pos hsize, if_pos hsize]
      rfl
    rw [if_neg hsize, if_neg hsize]
    have hplace (addr : UInt64) (len : UInt32) :
        (placeDesc d.vqIdx addr len d.deviceWritable d.chainNext >>= fun _ => pure ()).run w =
          .ok ((VirtioCrash.placeDesc ⟨d.vqIdx.toNat, hi⟩ addr len d.deviceWritable d.chainNext >>=
            fun _ => pure ()).run w) := by
      rw [StateT.run_bind, placeDesc_faultless hi addr len _ _ w hsize]
      rfl
    by_cases hexotic : d.exoticRegion ≠ 0
    · rw [if_pos hexotic, rem_bind (by decide), index_bind (region_lt _), index_bind (region_lt _),
        rem_bind (exoticWords_ne_zero _), hplace, descTarget, if_pos hexotic, region_eq]
      rfl
    · rw [if_neg hexotic, total_bind_run, descTarget, if_neg hexotic, getState_run]
      dsimp only
      cases w.st.bufs d.bufId with
      | none => rfl
      | some buf => exact hplace buf.gpa (min d.len buf.len)
  · rw [if_pos (not_lt.mp hi), dif_neg hi]
    rfl

/-- On a queue that is set up, `c` meets no fault and does what the submission `m` does. -/
structure Submission (i : Fin n) (c : CheckedHarness n ξ α) (m : Harness n ξ α) : Prop where
  submits : Submits typedActs i m
  faultless : Faultless (SetUp i) c m

namespace Submission

variable {i : Fin n}

theorem total {m : Harness n ξ α} (hm : Within (Steps typedActs) m) :
    Submission i (Checked.total m) m :=
  ⟨hm.from, Faultless.total m⟩

theorem pure (a : α) : Submission i (Pure.pure a : CheckedHarness n ξ α) (Pure.pure a) :=
  ⟨(Within.pure a).from, Faultless.pure a⟩

theorem bind {c : CheckedHarness n ξ α} {m : Harness n ξ α} {fc : α → CheckedHarness n ξ β}
    {f : α → Harness n ξ β} (h : Submission i c m) (hf : ∀ a, Submission i (fc a) (f a)) :
    Submission i (c >>= fc) (m >>= f) :=
  ⟨Submits.bind h.submits fun a => (hf a).submits,
    h.faultless.bind (kept_setUp i) h.submits fun a => (hf a).faultless⟩

theorem ite {b : Prop} [Decidable b] {c c' : CheckedHarness n ξ α} {m m' : Harness n ξ α}
    (h : Submission i c m) (h' : Submission i c' m') :
    Submission i (if b then c else c') (if b then m else m') :=
  ⟨WithinFrom.ite h.submits h'.submits, h.faultless.ite h'.faultless⟩

theorem placeBuf (hi : vqIdx.toNat < n) (id : UInt32) (deviceWritable chainNext : Bool) :
    Submission ⟨vqIdx.toNat, hi⟩
      (Checked.placeBuf vqIdx id deviceWritable chainNext : CheckedHarness n ξ UInt32)
      (VirtioCrash.placeBuf ⟨vqIdx.toNat, hi⟩ id deviceWritable chainNext) :=
  ⟨submits_placeBuf (by decide) _ _ _ _, placeBuf_faultless hi _ _ _⟩

theorem notify (hi : vqIdx.toNat < n) :
    Submission ⟨vqIdx.toNat, hi⟩ (Checked.notify vqIdx : CheckedHarness n ξ Unit)
      (VirtioCrash.notify ⟨vqIdx.toNat, hi⟩) :=
  ⟨(within_notify (by decide) _).from, notify_faultless hi⟩

end Submission

theorem guarded_run (hi : vqIdx.toNat < n) (room : UInt32) {c : CheckedHarness n ξ Unit}
    {m : Harness n ξ Unit} (h : Submission ⟨vqIdx.toNat, hi⟩ c m) (w : World n ξ) :
    (vqAt vqIdx >>= fun q => if q.size = 0 then pure () else
        vqAt vqIdx >>= fun q => if q.nextDescIdx + room ≥ q.size then pure () else c).run w =
      .ok ((getState >>= fun s => if (s.vqs ⟨vqIdx.toNat, hi⟩).size = 0 then pure () else
        if (s.vqs ⟨vqIdx.toNat, hi⟩).nextDescIdx + room ≥ (s.vqs ⟨vqIdx.toNat, hi⟩).size
          then pure () else m).run w) := by
  rw [vqAt_bind_run hi, StateProgram.run_bind, getState_run]
  dsimp only
  by_cases hsize : (w.st.vqs ⟨vqIdx.toNat, hi⟩).size = 0
  · rw [if_pos hsize, if_pos hsize]
    rfl
  rw [if_neg hsize, if_neg hsize, vqAt_bind_run hi]
  split
  · rfl
  · exact h.faultless w hsize

end Checked

end VirtioCrash
