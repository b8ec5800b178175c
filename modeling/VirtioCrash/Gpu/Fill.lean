import VirtioCrash.Gpu.Submission

/-!
# The fill loop

A backing is filled with a chunk that is stored again and again, the last time cut to what is left,
and so is the room for a response. The counter of the loop has 32 bits and moves by the length of
the chunk: the loop ends as long as a chunk behind the last byte does not wrap the counter around.
-/

namespace VirtioCrash.Gpu

open StateProgram

abbrev GpuWorld := World kMaxQueues GpuDevice

/-- What one pass of the loop stores. -/
def passData (chunk : List UInt8) (total off : UInt32) : List UInt8 :=
  chunk.take (min (UInt32.ofNat chunk.length) (total - off)).toNat

def fillPass (gpa : UInt64) (chunk : List UInt8) (total off : UInt32) (w : GpuWorld) : GpuWorld :=
  w.emit (.memWrite (gpa + off.toUInt64) (passData chunk total off))

/-- The loop, entered with the counter at `off`, ends and takes one world to the other. -/
inductive FillLoop (gpa : UInt64) (chunk : List UInt8) (total : UInt32) :
    UInt32 → GpuWorld → GpuWorld → Prop
  | done (off : UInt32) (w : GpuWorld) (hoff : ¬off < total) : FillLoop gpa chunk total off w w
  | pass (off : UInt32) (w w' : GpuWorld) (hoff : off < total)
      (hrest : FillLoop gpa chunk total (off + UInt32.ofNat chunk.length)
        (fillPass gpa chunk total off w) w') : FillLoop gpa chunk total off w w'

/-- A chunk after the last byte keeps the counter inside its 32 bits. -/
structure Fillable (chunk : List UInt8) (total : UInt32) : Prop where
  pos : 0 < chunk.length
  fits : chunk.length + total.toNat ≤ 2 ^ 32

section Loop

variable {gpa : UInt64} {chunk : List UInt8} {total : UInt32}

private theorem fillChunks_done (fuel : Nat) {off : UInt32} (hoff : ¬off < total) (w : GpuWorld) :
    (fillChunks gpa chunk total fuel off).run w = ((), w) := by
  cases fuel with
  | zero => rfl
  | succ fuel =>
      rw [fillChunks, if_neg hoff]
      rfl

private theorem fillChunks_pass (fuel : Nat) {off : UInt32} (hoff : off < total) (w : GpuWorld) :
    (fillChunks gpa chunk total (fuel + 1) off).run w =
      (fillChunks gpa chunk total fuel (off + UInt32.ofNat chunk.length)).run
        (fillPass gpa chunk total off w) := by
  rw [fillChunks, if_pos hoff]
  rfl

private theorem passData_length (off : UInt32) (hoff : off < total) :
    off.toNat + (passData chunk total off).length ≤ total.toNat := by
  have hlt := UInt32.lt_iff_toNat_lt.mp hoff
  have hsub := UInt32.toNat_sub_of_le total off (UInt32.le_iff_toNat_le.mpr hlt.le)
  have hmin := Bytes.min_toNat (UInt32.ofNat chunk.length) (total - off)
  rw [passData, List.length_take]
  omega

/-- The event stores inside the first `total` bytes from `gpa`. -/
def StoresIn (gpa : UInt64) (total : UInt32) (e : Event) : Prop :=
  ∃ (off : UInt32) (data : List UInt8), e = .memWrite (gpa + off.toUInt64) data ∧
    off < total ∧ off.toNat + data.length ≤ total.toNat

variable (gpa chunk total) in
theorem fillChunks_stores (fuel : Nat) (off : UInt32) (w : GpuWorld) :
    ∃ es, ((fillChunks gpa chunk total fuel off).run w).2 = { w with trace := es ++ w.trace } ∧
      ∀ e ∈ es, StoresIn gpa total e := by
  induction fuel generalizing off w with
  | zero => exact ⟨[], rfl, fun e he => absurd he List.not_mem_nil⟩
  | succ fuel ih =>
      by_cases hoff : off < total
      · obtain ⟨es, hrun, hes⟩ := ih (off + UInt32.ofNat chunk.length)
          (fillPass gpa chunk total off w)
        refine ⟨es ++ [.memWrite (gpa + off.toUInt64) (passData chunk total off)], ?_, ?_⟩
        · rw [fillChunks_pass fuel hoff, hrun, List.append_assoc]
          rfl
        · intro e he
          rcases List.mem_append.mp he with hrest | hpass
          · exact hes e hrest
          · rw [List.mem_singleton.mp hpass]
            exact ⟨off, _, rfl, hoff, passData_length off hoff⟩
      · rw [fillChunks_done _ hoff]
        exact ⟨[], rfl, fun e he => absurd he List.not_mem_nil⟩

private theorem Fillable.chunk_toNat (h : Fillable chunk total) {off : UInt32}
    (hoff : off < total) : (UInt32.ofNat chunk.length).toNat = chunk.length := by
  have hlt := UInt32.lt_iff_toNat_lt.mp hoff
  have hfits := h.fits
  rw [UInt32.toNat_ofNat', Nat.mod_eq_of_lt (by omega)]

private theorem Fillable.next_toNat (h : Fillable chunk total) {off : UInt32} (hoff : off < total) :
    (off + UInt32.ofNat chunk.length).toNat = off.toNat + chunk.length := by
  have hlt := UInt32.lt_iff_toNat_lt.mp hoff
  have hfits := h.fits
  rw [UInt32.toNat_add, h.chunk_toNat hoff, Nat.mod_eq_of_lt (by omega)]

private theorem Fillable.pass_length (h : Fillable chunk total) {off : UInt32}
    (hoff : off < total) :
    (passData chunk total off).length = min chunk.length (total.toNat - off.toNat) := by
  have hlt := UInt32.lt_iff_toNat_lt.mp hoff
  have hsub := UInt32.toNat_sub_of_le total off (UInt32.le_iff_toNat_le.mpr hlt.le)
  rw [passData, List.length_take, Bytes.min_toNat, h.chunk_toNat hoff, hsub]
  omega

private theorem fillChunks_loop (h : Fillable chunk total) (fuel : Nat) (off : UInt32)
    (hfuel : total.toNat ≤ off.toNat + fuel) (w : GpuWorld) :
    FillLoop gpa chunk total off w ((fillChunks gpa chunk total fuel off).run w).2 := by
  induction fuel generalizing off w with
  | zero =>
      apply FillLoop.done
      rw [UInt32.lt_iff_toNat_lt]
      omega
  | succ fuel ih =>
      by_cases hoff : off < total
      · have hpos := h.pos
        have hnext := h.next_toNat hoff
        rw [fillChunks_pass fuel hoff]
        apply FillLoop.pass _ _ _ hoff
        apply ih
        omega
      · rw [fillChunks_done _ hoff]
        exact .done off w hoff

variable (gpa) in
theorem fillWith_loop (h : Fillable chunk total) (w : GpuWorld) :
    FillLoop gpa chunk total 0 w ((fillWith gpa chunk total).run w).2 :=
  fillChunks_loop h total.toNat 0 (Nat.le_add_left _ _) w

private theorem toUInt64_eq_ofNat (off : UInt32) : off.toUInt64 = UInt64.ofNat off.toNat := by
  apply UInt64.toNat_inj.mp
  rw [UInt32.toNat_toUInt64, UInt64.toNat_ofNat', Nat.mod_eq_of_lt]
  have := off.toNat_lt
  omega

/-- From a multiple of the chunk's length on, the rest of the memory to fill holds the chunk again
and again; all other memory is as it was. -/
private theorem FillLoop.memory (h : Fillable chunk total) {off : UInt32} {w w' : GpuWorld}
    (hloop : FillLoop gpa chunk total off w w') (hoff : off.toNat % chunk.length = 0)
    (m : ByteMemory) (x : UInt64) :
    memoryAfter m w'.trace x =
      if off.toNat ≤ (x - gpa).toNat ∧ (x - gpa).toNat < total.toNat then
        chunk.getD ((x - gpa).toNat % chunk.length) 0
      else memoryAfter m w.trace x := by
  induction hloop with
  | done off w hend =>
      have hle := UInt32.lt_iff_toNat_lt.not.mp hend
      rw [if_neg (by omega)]
  | pass off w w' hlt hrest ih =>
      have hlen := h.pass_length hlt
      have hnat := UInt32.lt_iff_toNat_lt.mp hlt
      have hsmall := off.toNat_lt
      have hfits := h.fits
      have hstep := h.next_toNat hlt
      have hpass : memoryAfter m (fillPass gpa chunk total off w).trace x =
          if off.toNat ≤ (x - gpa).toNat ∧
              (x - gpa).toNat < off.toNat + (passData chunk total off).length then
            (passData chunk total off).getD ((x - gpa).toNat - off.toNat) 0
          else memoryAfter m w.trace x := by
        rw [← ByteMemory.write_offset _ _ _ _ _ (by omega), ← toUInt64_eq_ofNat]
        rfl
      rw [ih (by rw [hstep, Nat.add_mod_right, hoff]), hpass, hstep, hlen]
      -- three parts: below `off`, this pass, and the passes behind it
      by_cases hbefore : (x - gpa).toNat < off.toNat
      · rw [if_neg (by omega), if_neg (by omega), if_neg (by omega)]
      · by_cases hhere : (x - gpa).toNat < off.toNat + chunk.length
        · have hmod : (x - gpa).toNat % chunk.length = (x - gpa).toNat - off.toNat := by
            obtain ⟨k, hk⟩ := Nat.dvd_of_mod_eq_zero hoff
            rw [show (x - gpa).toNat = (x - gpa).toNat - off.toNat + chunk.length * k by omega,
              Nat.add_mul_mod_self_left, Nat.mod_eq_of_lt (by omega)]
            omega
          rw [if_neg (by omega)]
          by_cases hin : (x - gpa).toNat < total.toNat
          · rw [if_pos (by omega), if_pos (by omega), hmod, List.getD_eq_getElem?_getD,
              List.getD_eq_getElem?_getD]
            congr 1
            apply List.getElem?_take_of_lt
            have hcut := hlen
            rw [passData, List.length_take] at hcut
            omega
          · rw [if_neg (by omega), if_neg (by omega)]
        · by_cases hin : (x - gpa).toNat < total.toNat
          · rw [if_pos (by omega), if_pos (by omega)]
          · rw [if_neg (by omega), if_neg (by omega), if_neg (by omega)]

/-- After the whole loop the memory holds the chunk cyclically. -/
theorem FillLoop.cyclic (h : Fillable chunk total) {w w' : GpuWorld}
    (hloop : FillLoop gpa chunk total 0 w w') (m : ByteMemory) :
    memoryAfter m w'.trace = (memoryAfter m w.trace).cyclic gpa chunk total.toNat := by
  funext x
  rw [hloop.memory h (Nat.zero_mod _), ByteMemory.cyclic]
  simp only [UInt32.toNat_zero, Nat.zero_le, true_and]

end Loop

end VirtioCrash.Gpu
