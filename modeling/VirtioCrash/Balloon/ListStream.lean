import VirtioCrash.Balloon.ListFormat
import VirtioCrash.Targets.Channels

/-!
# The lists of a run

Each of the four queues carries the lists of one kind, record by record and list by list.
-/

namespace VirtioCrash.Balloon

open StateProgram Bytes Decoder

def load (buf : List UInt8) : Load := ⟨buf, UInt32.ofNat buf.length, false⟩

def inflateVq : Fin kMaxQueues := 0

def deflateVq : Fin kMaxQueues := 1

def say : VirtioOp → Option (Envelope kMaxQueues)
  | .common _ => none
  | .inflate pfns => some (.lone inflateVq (load (packPfns pfns)))
  | .deflate pfns => some (.lone deflateVq (load (packPfns pfns)))
  | .stats entries => some (.lone statsVq (load (packStats entries)))
  | .freePage cmdId => some (.lone fpVq (load (le32 cmdId)))

/-- The page numbers the device reads: the first 1024, or a zero in place of none. -/
def pfnsOf (pfns : List UInt32) : List Nat :=
  if pfns = [] then [0] else (pfns.take 1024).map UInt32.toNat

/-- The statistics it reads: the first 64, or one of zeros. -/
def statsOf (entries : List StatsEntry) : List Stat :=
  if entries = [] then [⟨0, 0⟩] else (entries.take 64).map statOf

private theorem reads_packPfns (pfns : List UInt32) :
    (le 4).records 4 (packPfns pfns) = some (pfnsOf pfns) := by
  by_cases h : pfns = []
  · subst h
    decide
  · rw [pfnsOf, if_neg h, records_packPfns h]

private theorem reads_packStats (entries : List StatsEntry) :
    decodeStat.records 10 (packStats entries) = some (statsOf entries) := by
  by_cases h : entries = []
  · subst h
    decide
  · rw [statsOf, if_neg h, records_packStats h]

private theorem load_whole {buf : List UInt8} (h : buf.length ≤ 4096) :
    (load buf).bytes.length = (load buf).len.toNat := by
  change buf.length = (UInt32.ofNat buf.length).toNat
  rw [UInt32.toNat_ofNat']
  omega

private theorem packPfns_short (pfns : List UInt32) : (packPfns pfns).length ≤ 4096 := by
  by_cases h : pfns = []
  · subst h
    decide
  · exact packPfns_le h

private theorem packStats_short (entries : List StatsEntry) :
    (packStats entries).length ≤ 4096 := by
  by_cases h : entries = []
  · subst h
    decide
  · exact packStats_le h

private theorem speaks : target.Speaks asCommon say := by
  apply Target.Speaks.ofLone confined rfl
  · intro op c hc
    cases op with
    | common op => cases hc; exact ⟨rfl, rfl⟩
    | _ => cases hc
  · intro op hc
    cases op with
    | common op => cases hc
    | inflate pfns =>
        exact Or.inr ⟨inflateVq, load (packPfns pfns), rfl, load_whole (packPfns_short pfns), rfl⟩
    | deflate pfns =>
        exact Or.inr ⟨deflateVq, load (packPfns pfns), rfl, load_whole (packPfns_short pfns), rfl⟩
    | stats entries =>
        exact Or.inr
          ⟨statsVq, load (packStats entries), rfl, load_whole (packStats_short entries), rfl⟩
    | freePage cmdId => exact Or.inr ⟨fpVq, load (le32 cmdId), rfl, load_whole (by simp), rfl⟩

private theorem say_kind {op : VirtioOp} {msg : Envelope kMaxQueues} (h : say op = some msg) :
    (msg.vq = inflateVq → ∃ pfns l, op = .inflate pfns ∧ msg.loads = [l] ∧
      (le 4).records 4 l.bytes = some (pfnsOf pfns)) ∧
    (msg.vq = deflateVq → ∃ pfns l, op = .deflate pfns ∧ msg.loads = [l] ∧
      (le 4).records 4 l.bytes = some (pfnsOf pfns)) ∧
    (msg.vq = statsVq → ∃ entries l, op = .stats entries ∧ msg.loads = [l] ∧
      decodeStat.records 10 l.bytes = some (statsOf entries)) ∧
    (msg.vq = fpVq → ∃ cmdId l, op = .freePage cmdId ∧ msg.loads = [l] ∧
      (le 4).whole l.bytes = some cmdId.toNat) := by
  have hapart : [inflateVq, deflateVq, statsVq, fpVq].Nodup := by decide
  simp only [List.nodup_cons, List.mem_cons, List.not_mem_nil, or_false, not_or] at hapart
  obtain ⟨⟨hid, his, hif⟩, ⟨hds, hdf⟩, hsf, -⟩ := hapart
  cases op with
  | common op => cases h
  | inflate pfns =>
      cases h
      exact ⟨fun _ => ⟨pfns, _, rfl, rfl, reads_packPfns pfns⟩, fun hvq => absurd hvq hid,
        fun hvq => absurd hvq his, fun hvq => absurd hvq hif⟩
  | deflate pfns =>
      cases h
      exact ⟨fun hvq => absurd hvq.symm hid, fun _ => ⟨pfns, _, rfl, rfl, reads_packPfns pfns⟩,
        fun hvq => absurd hvq hds, fun hvq => absurd hvq hdf⟩
  | stats entries =>
      cases h
      exact ⟨fun hvq => absurd hvq.symm his, fun hvq => absurd hvq.symm hds,
        fun _ => ⟨entries, _, rfl, rfl, reads_packStats entries⟩, fun hvq => absurd hvq hsf⟩
  | freePage cmdId =>
      cases h
      exact ⟨fun hvq => absurd hvq.symm hif, fun hvq => absurd hvq.symm hdf,
        fun hvq => absurd hvq.symm hsf, fun _ => ⟨cmdId, _, rfl, rfl, (Decodes.le32 cmdId).whole⟩⟩

/-- In every run whose ops are `Conversing` on these queues, the device reads on each queue the
lists of its kind that were taken since the last reset, in order, each cut to its first entries and
no other, as soon as there is one of the kind. -/
theorem lists_arrive :
    target.Arrives asCommon say inflateVq .inflate (fun l => (le 4).records 4 l.bytes)
        (fun pfns => some (pfnsOf pfns)) ∧
      target.Arrives asCommon say deflateVq .deflate (fun l => (le 4).records 4 l.bytes)
        (fun pfns => some (pfnsOf pfns)) ∧
      target.Arrives asCommon say statsVq .stats (fun l => decodeStat.records 10 l.bytes)
        (fun entries => some (statsOf entries)) ∧
      target.Arrives asCommon say fpVq .freePage (fun l => (le 4).whole l.bytes)
        (fun cmdId => some cmdId.toNat) := by
  refine ⟨?_, ?_, ?_, ?_⟩
  · exact speaks.arrives (by decide) fun op msg hmsg => (say_kind hmsg).1
  · exact speaks.arrives (by decide) fun op msg hmsg => (say_kind hmsg).2.1
  · exact speaks.arrives (by decide) fun op msg hmsg => (say_kind hmsg).2.2.1
  · exact speaks.arrives (by decide) fun op msg hmsg => (say_kind hmsg).2.2.2

/-- Two lists for the inflate queue, the second one empty, and one for the deflate queue. -/
def twoLists : List VirtioOp :=
  [.common (.vqSetup 0 8), .inflate [1, 2, 3], .deflate [4], .inflate []]

theorem lists_arrive_twoLists :
    ((runFromReset target twoLists ⟨fun _ _ => 8, [], threadBState target, []⟩).found
        (fun _ => 0) inflateVq).map (fun l => (le 4).records 4 l.bytes) =
      [some [1, 2, 3], some [0]] :=
  lists_arrive.1.run (fun _ _ => VirtioOp.inflate.inj) (fun _ => 0) (by decide +kernel)
    [[1, 2, 3], []] (by simp) rfl

end VirtioCrash.Balloon
