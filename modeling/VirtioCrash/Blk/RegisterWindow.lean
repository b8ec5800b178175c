import VirtioCrash.Blk.Harness
import VirtioCrash.Harness.Request
import VirtioCrash.Harness.ConfigSpace

/-!
# The register accesses of the blk harness

The three ops that take a register offset from the message mask it differently and pick the width of
the access by another field. Only `ConfigWrite` looks whether the access still ends in its window;
the other two can run a few bytes past it.
-/

namespace VirtioCrash.Blk

open StateProgram Bytes

/-- The access of an event, if it is one, lies in the register window of the device. -/
def InWindow : Event → Prop
  | .mmioRead width addr _ =>
      kVirtioMmioBase.toNat ≤ addr.toNat ∧ addr.toNat + width ≤ kVirtioMmioBase.toNat + 0x200
  | .mmioWrite width addr _ =>
      kVirtioMmioBase.toNat ≤ addr.toNat ∧ addr.toNat + width ≤ kVirtioMmioBase.toNat + 0x200
  | _ => True

/-- What dispatching an op does to the machine, newest first. -/
def issued (op : VirtioOp) (w : World kMaxQueues Unit) : List Event :=
  newest ((dispatch op).run w).2.trace w.trace

/-- Every register access that dispatch issues for the op is inside the window. -/
def StaysInWindow (op : VirtioOp) (w : World kMaxQueues Unit) : Prop :=
  ∀ e ∈ issued op w, InWindow e

private theorem staysInWindow_single {op : VirtioOp} {w : World kMaxQueues Unit} {e : Event}
    (h : issued op w = [e]) : StaysInWindow op w ↔ InWindow e := by
  simp [StaysInWindow, h]

private theorem issued_emit {op : VirtioOp} {w : World kMaxQueues Unit} {e : Event}
    (h : ((dispatch op).run w).2 = w.emit e) : issued op w = [e] := by
  rw [issued, h]
  exact newest_append [e] w.trace

private theorem window_toNat {o : Nat} (ho : o < 0x200) :
    (kVirtioMmioBase + UInt64.ofNat o).toNat = kVirtioMmioBase.toNat + o := by
  rw [UInt64.toNat_add, UInt64.toNat_ofNat']
  simp only [kVirtioMmioBase, UInt64.reduceToNat]
  omega

private theorem config_toNat {o : Nat} (ho : o < 0x100) :
    (kVirtioMmioBase + (rConfig + UInt64.ofNat o)).toNat =
      kVirtioMmioBase.toNat + 0x100 + o := by
  rw [UInt64.toNat_add, UInt64.toNat_add, UInt64.toNat_ofNat']
  simp only [kVirtioMmioBase, rConfig, UInt64.reduceToNat]
  omega

private theorem masked_offset (offset m : UInt32) (k : Nat) {size : Nat} (hsize : size = 2 ^ k)
    (hm : m.toNat = 2 ^ k - 1) :
    (offset &&& m).toUInt64 = UInt64.ofNat (offset.toNat % size) := by
  rw [hsize, ← and_mask_toNat offset m k hm]
  exact (UInt64.ofNat_toNat (x := (offset &&& m).toUInt64)).symm

/-- The width of a config read by its size. -/
def readWidth (size : UInt32) : Nat := if size ≥ 4 then 4 else if size ≥ 2 then 2 else 1

private theorem issued_configRead (offset size : UInt32) (w : World kMaxQueues Unit) :
    ∃ v, issued (.configRead offset size) w =
      [.mmioRead (readWidth size)
        (kVirtioMmioBase + (rConfig + UInt64.ofNat (offset.toNat % 0x100))) v] := by
  have hoff := masked_offset offset 0xff 8 (rfl : 0x100 = 2 ^ 8) rfl
  have hread (width : Nat) (off : UInt64) (h : (dispatch (.configRead offset size)) =
      (do let _ ← mmioRead width off)) :
      ∃ v, issued (.configRead offset size) w = [.mmioRead width (kVirtioMmioBase + off) v] := by
    refine ⟨w.dev w.trace (.mmio width (kVirtioMmioBase + off)), issued_emit ?_⟩
    rw [h]
    rfl
  apply hread
  rw [readWidth, ← hoff]
  change opConfigReadSized offset size = _
  rw [opConfigReadSized]
  by_cases h4 : size ≥ 4
  · rw [if_pos h4, if_pos h4]
    rfl
  · by_cases h2 : size ≥ 2
    · rw [if_neg h4, if_pos h2, if_neg h4, if_pos h2]
    · rw [if_neg h4, if_neg h2, if_neg h4, if_neg h2]

private theorem configRead_inWindow_iff (offset size : UInt32) (w : World kMaxQueues Unit) :
    StaysInWindow (.configRead offset size) w ↔
      offset.toNat % 0x100 + readWidth size ≤ 0x100 := by
  obtain ⟨v, hv⟩ := issued_configRead offset size w
  have haddr := config_toNat (o := offset.toNat % 0x100) (Nat.mod_lt _ (by decide))
  rw [staysInWindow_single hv, InWindow, haddr]
  omega

/-- The width of a corrupting write by its size. -/
def corruptWidth (size : UInt32) : Nat := if size = 1 then 1 else if size = 2 then 2 else 4

private theorem issued_mmioCorrupt (offset value size : UInt32) (w : World kMaxQueues Unit) :
    ∃ v, issued (.mmioCorrupt offset value size) w =
      [.mmioWrite (corruptWidth size)
        (kVirtioMmioBase + UInt64.ofNat (offset.toNat % 0x200)) v] := by
  have hoff := masked_offset offset 0x1ff 9 (rfl : 0x200 = 2 ^ 9) rfl
  have hwrite (width : Nat) (off : UInt64) (v : UInt32)
      (h : (dispatch (.mmioCorrupt offset value size)) = mmioWrite width off v) :
      ∃ v, issued (.mmioCorrupt offset value size) w =
        [.mmioWrite width (kVirtioMmioBase + off) v] := by
    refine ⟨v, issued_emit ?_⟩
    rw [h]
    rfl
  rw [corruptWidth, ← hoff]
  by_cases h1 : size = 1
  · rw [if_pos h1]
    apply hwrite 1 _ (value &&& 0xff)
    change opMmioCorrupt offset value size = _
    rw [opMmioCorrupt, if_pos h1]
  · by_cases h2 : size = 2
    · rw [if_neg h1, if_pos h2]
      apply hwrite 2 _ (value &&& 0xffff)
      change opMmioCorrupt offset value size = _
      rw [opMmioCorrupt, if_neg h1, if_pos h2]
    · rw [if_neg h1, if_neg h2]
      apply hwrite 4 _ value
      change opMmioCorrupt offset value size = _
      rw [opMmioCorrupt, if_neg h1, if_neg h2]

private theorem mmioCorrupt_inWindow_iff (offset value size : UInt32) (w : World kMaxQueues Unit) :
    StaysInWindow (.mmioCorrupt offset value size) w ↔
      offset.toNat % 0x200 + corruptWidth size ≤ 0x200 := by
  obtain ⟨v, hv⟩ := issued_mmioCorrupt offset value size w
  have haddr := window_toNat (o := offset.toNat % 0x200) (Nat.mod_lt _ (by decide))
  rw [staysInWindow_single hv, InWindow, haddr]
  omega

private theorem forM_mmioWritel_trace (words : List (UInt64 × UInt32)) (w : World kMaxQueues Unit) :
    ((words.forM fun word => mmioWritel word.1 word.2 :
        Harness kMaxQueues Unit Unit).run w).2.trace =
      (words.map fun word => .mmioWrite 4 (kVirtioMmioBase + word.1) word.2).reverse ++
        w.trace := by
  induction words generalizing w with
  | nil => rfl
  | cons word words ih =>
      change ((words.forM fun word => mmioWritel word.1 word.2 :
        Harness kMaxQueues Unit Unit).run (w.emit _)).2.trace = _
      rw [ih]
      simp [World.emit]

private theorem issued_configWrite (offset : UInt32) (data : List UInt8)
    (w : World kMaxQueues Unit) :
    issued (.configWrite offset data) w =
      ((List.range (fittingWords (offset.toNat % 0x100) data)).map fun k =>
        .mmioWrite 4 (kVirtioMmioBase + (configWord (offset.toNat % 0x100) data k).1)
          (configWord (offset.toNat % 0x100) data k).2).reverse := by
  have hoff : (offset &&& 0xff).toNat = offset.toNat % 0x100 := and_mask_toNat offset 0xff 8 rfl
  change newest ((opConfigWrite offset data).run w).2.trace w.trace = _
  rw [opConfigWrite, forM_mmioWritel_trace, newest_append, configWords_eq, hoff, Nat.add_zero,
    List.map_map]
  rfl

private theorem configWrite_inWindow (offset : UInt32) (data : List UInt8)
    (w : World kMaxQueues Unit) : StaysInWindow (.configWrite offset data) w := by
  intro e he
  rw [issued_configWrite, List.mem_reverse, List.mem_map] at he
  obtain ⟨k, hk, rfl⟩ := he
  have hfit := List.mem_range.mp hk
  rw [fittingWords] at hfit
  have haddr := config_toNat (o := offset.toNat % 0x100 + 4 * k) (by omega)
  rw [InWindow, configWord, haddr]
  omega

/-- The op takes a register offset from the message. -/
def isRegisterOp : VirtioOp → Bool
  | .configRead _ _ | .configWrite _ _ | .mmioCorrupt _ _ _ => true
  | _ => false

/-- The accesses stay in the window, and a config write stores exactly the words that fit. -/
structure RegisterSound (op : VirtioOp) (w : World kMaxQueues Unit) : Prop where
  inWindow : StaysInWindow op w
  words : ∀ offset data, op = .configWrite offset data → issued op w =
    ((List.range (fittingWords (offset.toNat % 0x100) data)).map fun k =>
      .mmioWrite 4 (kVirtioMmioBase + (configWord (offset.toNat % 0x100) data k).1)
        (configWord (offset.toNat % 0x100) data k).2).reverse

/-- The access that starts at the masked offset ends in the window. -/
def EndsInWindow : VirtioOp → Prop
  | .configRead offset size => offset.toNat % 0x100 + readWidth size ≤ 0x100
  | .mmioCorrupt offset _ size => offset.toNat % 0x200 + corruptWidth size ≤ 0x200
  | _ => True

/-- A config read and a corrupting write are in the window exactly when their access ends there;
config writes always are. -/
theorem registerOps_inWindow_iff {op : VirtioOp} (hop : isRegisterOp op)
    (w : World kMaxQueues Unit) : RegisterSound op w ↔ EndsInWindow op := by
  cases op with
  | configRead offset size =>
      rw [EndsInWindow, ← configRead_inWindow_iff offset size w]
      constructor
      · exact fun h => h.inWindow
      · exact fun h => ⟨h, fun _ _ heq => by cases heq⟩
  | mmioCorrupt offset value size =>
      rw [EndsInWindow, ← mmioCorrupt_inWindow_iff offset value size w]
      constructor
      · exact fun h => h.inWindow
      · exact fun h => ⟨h, fun _ _ heq => by cases heq⟩
  | configWrite offset data =>
      refine iff_of_true ⟨configWrite_inWindow offset data w, ?_⟩ trivial
      intro offset' data' heq
      cases heq
      exact issued_configWrite offset data w
  | _ => cases hop

/-- The last word of the config space. -/
theorem registerOps_inWindow_last_word :
    RegisterSound (.configRead 0xfc 4) ⟨fun _ _ => 0, [], constructed, []⟩ :=
  (registerOps_inWindow_iff rfl _).mpr (show 0xfc % 0x100 + readWidth 4 ≤ 0x100 by decide)

/-- A word read at the last byte of the config space. -/
theorem registerOps_leave_window :
    ¬∀ (op : VirtioOp) (w : World kMaxQueues Unit), isRegisterOp op → RegisterSound op w := by
  intro h
  have hread := (h (.configRead 0xff 4) ⟨fun _ _ => 0, [], constructed, []⟩ rfl).inWindow
  have hfits := (configRead_inWindow_iff 0xff 4 _).mp hread
  revert hfits
  decide

end VirtioCrash.Blk
