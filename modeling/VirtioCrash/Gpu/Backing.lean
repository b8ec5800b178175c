import VirtioCrash.Gpu.Fill
import VirtioCrash.Gpu.RequestFormat
import VirtioCrash.Harness.Reached

/-!
# The backing of a resource

ATTACH_BACKING allocates one region, fills it and describes it entry by entry. The fill goes
through the region in steps of the fill's length and the entries in steps of the entry size; both
end where the region ends.
-/

namespace VirtioCrash.Gpu

open StateProgram Bytes BumpAllocator

/-- The number of entries and the size of each. -/
def backingCount (m : GpuResourceAttachBacking) : Nat := clamped m.numEntries 1 16

def backingSize (m : GpuResourceAttachBacking) : Nat := clamped m.entrySize 1 4096

/-- The length `op_attach_backing` allocates. -/
def backingTotal (m : GpuResourceAttachBacking) : UInt32 :=
  clamp m.numEntries 1 16 * clamp m.entrySize 1 4096

/-- What the region is filled with. -/
def fillChunk (m : GpuResourceAttachBacking) : List UInt8 :=
  if m.fill.isEmpty then zeroChunk else m.fill

/-- The memory an entry describes. -/
def MemEntry.range (e : MemEntry) : Range := ⟨e.addr, e.length⟩

/-- The request describes the region from `g` on entry by entry. -/
structure DescribesRegion (m : GpuResourceAttachBacking) (g : UInt64) (req : List UInt8)
    (entries : List MemEntry) : Prop where
  length : req.length = 32 + 16 * backingCount m
  decoded : ∃ hdr rid, decodeRequest req = some (hdr, .resourceAttachBacking rid entries)
  count : entries.length = backingCount m
  sizes : ∀ e ∈ entries, e.length = backingSize m ∧ e.padding = 0
  tiles : Tiles g.toNat (entries.map MemEntry.range) (g.toNat + backingCount m * backingSize m)
  disjoint : (entries.map MemEntry.range).Pairwise Range.Disjoint

/-- The run from `w` to `v` fills the region from `g` on and nothing else. -/
structure FillsRegion (m : GpuResourceAttachBacking) (g : UInt64) (w v : GpuWorld) : Prop where
  ends : FillLoop g (fillChunk m) (backingTotal m) 0 (w.bump (backingTotal m)) v
  region : .alloc g (backingTotal m) ∈ sinceReset v.hist ∧
    (backingTotal m).toNat = backingCount m * backingSize m ∧
    g.toNat + backingCount m * backingSize m ≤ kBufPoolEnd.toNat
  contents : ∀ (mem : ByteMemory) (j : Nat), j < backingCount m * backingSize m →
    memoryAfter mem v.trace (g + UInt64.ofNat j) = m.fill.getD (j % m.fill.length) 0
  frame : ∀ (mem : ByteMemory) (x : UInt64),
    (∀ j < backingCount m * backingSize m, x ≠ g + UInt64.ofNat j) →
      memoryAfter mem v.trace x = memoryAfter mem w.trace x
  stores : ∃ es, v.trace = es ++ w.trace ∧ ∀ e ∈ es, StoresIn g (backingTotal m) e

private theorem backingTotal_toNat (m : GpuResourceAttachBacking) :
    (backingTotal m).toNat = backingCount m * backingSize m := by
  have hnr : (clamp m.numEntries 1 16).toNat = backingCount m := clamp_toNat (by decide)
  have hesz : (clamp m.entrySize 1 4096).toNat = backingSize m := clamp_toNat (by decide)
  rw [backingTotal, backing_toNat (clamp_le_sixteen _) (clamp_le_page _ (by decide)), hnr, hesz]

private theorem backingTotal_le (m : GpuResourceAttachBacking) :
    (backingTotal m).toNat ≤ 65536 := by
  rw [backingTotal_toNat]
  exact backing_le (clamped_bounds m.numEntries (by decide)).2
    (clamped_bounds m.entrySize (by decide)).2

private theorem fillable {m : GpuResourceAttachBacking} (hfill : m.fill.length < 2 ^ 31) :
    Fillable (fillChunk m) (backingTotal m) := by
  have hle := backingTotal_le m
  rw [fillChunk]
  by_cases hempty : m.fill.isEmpty
  · rw [if_pos hempty]
    constructor
    · decide
    · rw [zeroChunk, List.length_replicate]
      omega
  · rw [if_neg hempty]
    have hpos : 0 < m.fill.length := by
      rw [List.length_pos_iff]
      intro hnil
      exact hempty (by rw [hnil]; rfl)
    constructor
    · exact hpos
    · omega

private theorem fillChunk_getD (m : GpuResourceAttachBacking) (j : Nat) :
    (fillChunk m).getD (j % (fillChunk m).length) 0 = m.fill.getD (j % m.fill.length) 0 := by
  have hzero : ∀ n i, (List.replicate n (0 : UInt8)).getD i 0 = 0 := by
    intro n i
    rw [List.getD_eq_getElem?_getD, List.getElem?_replicate]
    split
    · rfl
    · rfl
  rw [fillChunk]
  by_cases hempty : m.fill.isEmpty
  · rw [if_pos hempty, List.isEmpty_iff.mp hempty, zeroChunk, hzero]
    rfl
  · rw [if_neg hempty]

private theorem fillsRegion {m : GpuResourceAttachBacking} (hfill : m.fill.length < 2 ^ 31)
    {w : GpuWorld} (hw : InPool w) (hfit : ¬PoolFull w.st.bufAlloc (backingTotal m)) :
    FillsRegion m w.st.bufAlloc w
      ((fillWith w.st.bufAlloc (fillChunk m) (backingTotal m)).run
        (w.bump (backingTotal m))).2 := by
  have hloop := fillWith_loop w.st.bufAlloc (fillable hfill) (w.bump (backingTotal m))
  have htotal := backingTotal_toNat m
  have hroom := (not_poolFull_iff _ _ hw.le_end).mp hfit
  have hmemory : ∀ mem x, memoryAfter mem ((fillWith w.st.bufAlloc (fillChunk m)
      (backingTotal m)).run (w.bump (backingTotal m))).2.trace x =
        if (x - w.st.bufAlloc).toNat < backingCount m * backingSize m then
          m.fill.getD ((x - w.st.bufAlloc).toNat % m.fill.length) 0
        else memoryAfter mem w.trace x := by
    intro mem x
    rw [hloop.cyclic (fillable hfill), ByteMemory.cyclic, fillChunk_getD, htotal]
    rfl
  obtain ⟨es, hrun, hes⟩ := fillChunks_stores w.st.bufAlloc (fillChunk m) (backingTotal m)
    (backingTotal m).toNat 0 (w.bump (backingTotal m))
  constructor
  · exact hloop
  · refine ⟨?_, htotal, ?_⟩
    · rw [fillWith, hrun]
      exact mem_sinceReset_bump (backingTotal m) w
    · rw [← htotal, kBufPoolEnd_toNat, kBufPoolEndNat]
      omega
  · intro mem j hj
    have hoff : (w.st.bufAlloc + UInt64.ofNat j - w.st.bufAlloc).toNat = j := by
      rw [UInt64.add_comm, UInt64.add_sub_cancel, UInt64.toNat_ofNat', Nat.mod_eq_of_lt (by omega)]
    rw [hmemory, hoff, if_pos hj]
  · intro mem x hx
    rw [hmemory, if_neg]
    intro hin
    apply hx _ hin
    rw [UInt64.ofNat_toNat]
    grind
  · refine ⟨es, ?_, hes⟩
    rw [fillWith, hrun]
    rfl

private theorem attachBackingReq_length (g : GpuDevice) (rid nr esz : UInt32) (gpa : UInt64) :
    (attachBackingReq g rid nr esz gpa).length = 32 + 16 * nr.toNat := by
  simp only [attachBackingReq, packCtrlHdr, List.length_append, le32_length, le64_length,
    sgEntries_length]
  omega

private theorem entriesAt_range (gpa nr esz : Nat) :
    (entriesAt gpa nr esz).map MemEntry.range = blocks gpa esz nr := by
  rw [entriesAt, List.map_map]
  exact List.map_id _

private theorem describesRegion (g : GpuDevice) (rid : UInt32) (m : GpuResourceAttachBacking)
    {gpa : UInt64} (hgpa : gpa.toNat + 65536 ≤ 2 ^ 64) :
    DescribesRegion m gpa
      (attachBackingReq g rid (clamp m.numEntries 1 16) (clamp m.entrySize 1 4096) gpa)
      (entriesAt gpa.toNat (backingCount m) (backingSize m)) := by
  have htiles := tiles_blocks gpa.toNat (backingSize m) (backingCount m)
  rw [← entriesAt_range] at htiles
  constructor
  · rw [attachBackingReq_length, clamp_toNat (by decide)]
    rfl
  · exact ⟨_, _, decode_attachBackingReq g rid m hgpa⟩
  · simp [entriesAt, blocks]
  · intro e he
    simp only [entriesAt, blocks, List.mem_map] at he
    obtain ⟨r, ⟨i, -, rfl⟩, rfl⟩ := he
    exact ⟨rfl, rfl⟩
  · exact htiles
  · exact htiles.disjoint

/-- An ATTACH_BACKING whose region is allocated fills the region, then submits a request whose
entries tile it. -/
theorem attachBacking_describes (m : GpuResourceAttachBacking) (hfill : m.fill.length < 2 ^ 31)
    {ops : List VirtioOp} {w : GpuWorld} (hw : Reached target ops w) {g : UInt64}
    (halloc : ((allocGpa (backingTotal m)).run w).1 = g) (hg : g ≠ 0) :
    ∃ v req entries, FillsRegion m g w v ∧ DescribesRegion m g req entries ∧
      ((opAttachBacking m).run w).2 = ((submitCmd kCmdVq req 24).run v).2.setExt
        (GpuDevice.setBacking (backingSlot m.backingSlot)
          ⟨g, backingTotal m, UInt32.ofNat (resourceSlot m.resourceSlot)⟩) := by
  have hpool : InPool w := inPool_of_poolInv (hw.poolInv confined (by decide)) (by decide)
  have hfit : ¬PoolFull w.st.bufAlloc (backingTotal m) := by
    intro hfull
    rw [allocGpa_full _ _ hfull] at halloc
    exact hg halloc.symm
  rw [allocGpa_fits _ _ hfit] at halloc
  change w.st.bufAlloc = g at halloc
  subst halloc
  have hend := UInt64.le_iff_toNat_le.mp hpool.le_end
  rw [kBufPoolEnd_toNat, kBufPoolEndNat] at hend
  refine ⟨_, _, _, fillsRegion hfill hpool hfit,
    describesRegion w.st.ext (w.st.ext.rid (resourceSlot m.resourceSlot)) m (by omega), ?_⟩
  rw [opAttachBacking_run]
  exact backedSubmit_run _ _ _ _ w hpool hfit

/-- Two entries of three bytes, filled with four. -/
def smallBacking : GpuResourceAttachBacking := ⟨0, 0, 2, 3, [1, 2, 3, 4]⟩

theorem attachBacking_describes_small :
    ∃ v req entries, FillsRegion smallBacking 0x4700c000
        (resetIterationState.run ⟨fun _ _ => 8, [], threadBState target, []⟩).2 v ∧
      DescribesRegion smallBacking 0x4700c000 req entries ∧
      ((opAttachBacking smallBacking).run
        (resetIterationState.run ⟨fun _ _ => 8, [], threadBState target, []⟩).2).2 =
          ((submitCmd kCmdVq req 24).run v).2.setExt (GpuDevice.setBacking (backingSlot 0)
            ⟨0x4700c000, backingTotal smallBacking, UInt32.ofNat (resourceSlot 0)⟩) :=
  attachBacking_describes smallBacking (by decide) (Reached.reset _) (by decide +kernel)
    (by decide)

end VirtioCrash.Gpu
