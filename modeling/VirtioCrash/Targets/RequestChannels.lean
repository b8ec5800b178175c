import VirtioCrash.Targets.Channels

/-!
# Requests

A request is a message of several buffers: what the device is to read and room for its response
behind it. The harnesses publish the last buffer of a chain, so that the requests lie complete in
the table and the ring offers the device the room for their responses only.
-/

namespace VirtioCrash

open StateProgram

variable {n : Nat} {ξ Op : Type}

/-- The chains of a table, each with its buffers. -/
def chainsOf : List Part → List (List Load)
  | [] => []
  | q :: qs =>
      match q.more, chainsOf qs with
      | true, ls :: rest => (q.load :: ls) :: rest
      | _, rest => [q.load] :: rest

private theorem chainsOf_partsOf (l : Load) (ls : List Load) (qs : List Part) :
    chainsOf (partsOf (l :: ls) ++ qs) = (l :: ls) :: chainsOf qs := by
  induction ls generalizing l with
  | nil => rfl
  | cons l' ls ih =>
      have hrest := ih l'
      rw [partsOf, List.cons_append, chainsOf, hrest]
      rfl

private theorem chainsOf_flatMap {ms : List (List Load)} (h : ∀ ls ∈ ms, ls ≠ []) :
    chainsOf (ms.flatMap partsOf) = ms := by
  induction ms with
  | nil => rfl
  | cons ls ms ih =>
      have hrest := ih fun ls' hls' => h ls' (List.mem_cons_of_mem ls hls')
      cases ls with
      | nil => exact absurd rfl (h [] List.mem_cons_self)
      | cons l ls => rw [List.flatMap_cons, chainsOf_partsOf, hrest]

/-- In every run whose ops are `Conversing` on queue `i`, its table holds the messages that were
taken since the last reset, chain by chain, and as soon as there is one, what the ring offers the
device are the buffers for the responses: one of each message, and none that it could read. -/
def Target.Requests (t : Target n ξ Op) (asCommon : Op → Option CommonOp)
    (say : Op → Option (Envelope n)) (i : Fin n) : Prop :=
  ∀ (m : ByteMemory) (ops : List Op) (w : World n ξ),
    EveryOp t (Conversing asCommon i) ops (t.resetIterationState.run w).2 →
      let ms := messagesOf say (taken t asCommon say i [] ops (t.resetIterationState.run w).2)
      let v := runFromReset t ops w
      chainsOf (laidOut (memoryAfter m v.trace) (v.st.vqs i).descGpa
          (v.st.vqs i).nextDescIdx.toNat) = ms ∧
        (ms ≠ [] →
          let found := v.found m i
          found.length = ms.length ∧ found = ms.filterMap List.getLast? ∧
            ∀ l ∈ found, l.deviceWritable = true)

/-- The last buffer of a message is for the device to write. -/
def Answerable (ls : List Load) : Prop := ∃ l, ls.getLast? = some l ∧ l.deviceWritable = true

private theorem Answerable.ne_nil {ls : List Load} (h : Answerable ls) : ls ≠ [] := by
  obtain ⟨l, hlast, -⟩ := h
  rintro rfl
  cases hlast

private theorem ends_answerable {ms : List (List Load)} (h : ∀ ls ∈ ms, Answerable ls) :
    (ms.filterMap List.getLast?).length = ms.length ∧
      ∀ l ∈ ms.filterMap List.getLast?, l.deviceWritable = true := by
  induction ms with
  | nil => exact ⟨rfl, by simp⟩
  | cons ls ms ih =>
      obtain ⟨hlen, hall⟩ := ih fun ls' hls' => h ls' (List.mem_cons_of_mem ls hls')
      obtain ⟨l, hlast, hwritable⟩ := h ls List.mem_cons_self
      rw [List.filterMap_cons_some hlast, List.length_cons, List.length_cons, hlen]
      refine ⟨rfl, ?_⟩
      intro l' hl'
      rcases List.mem_cons.mp hl' with rfl | hl'
      · exact hwritable
      · exact hall l' hl'

private theorem mem_messagesOf {say : Op → Option (Envelope n)} {ops : List Op} {ls : List Load}
    (h : ls ∈ messagesOf say ops) : ∃ op ∈ ops, ∃ msg, say op = some msg ∧ msg.loads = ls := by
  obtain ⟨op, hop, hmap⟩ := List.mem_filterMap.mp h
  obtain ⟨msg, hmsg, hloads⟩ := Option.map_eq_some_iff.mp hmap
  exact ⟨op, hop, msg, hmsg, hloads⟩

/-- A queue whose messages are all requests. -/
theorem Target.Speaks.requests {t : Target n (Synth Unit) Op} {asCommon : Op → Option CommonOp}
    {say : Op → Option (Envelope n)} (ht : t.Speaks asCommon say) (hn : n ≤ 16) {i : Fin n}
    (hsay : ∀ op msg, say op = some msg → msg.vq = i → Answerable msg.loads) :
    t.Requests asCommon say i := by
  intro m ops w hops
  have hconveyed := ht.conveyed hn m i hops
  have hmem := taken_mem t asCommon
    (List.forall_mem_nil fun op => ∃ msg, say op = some msg ∧ msg.vq = i) ops
    (t.resetIterationState.run w).2
  generalize taken t asCommon say i [] ops (t.resetIterationState.run w).2 = held
    at hconveyed hmem ⊢
  have hall : ∀ ls ∈ messagesOf say held, Answerable ls := by
    intro ls hls
    obtain ⟨op, hop, msg, hmsg, rfl⟩ := mem_messagesOf hls
    obtain ⟨msg', hmsg', hvq⟩ := hmem op hop
    rw [hmsg] at hmsg'
    cases hmsg'
    exact hsay op msg hmsg hvq
  obtain ⟨hlen, hwritable⟩ := ends_answerable hall
  refine ⟨?_, fun hne => ?_⟩
  · rw [hconveyed.laidOut, chainsOf_flatMap fun ls hls => (hall ls hls).ne_nil]
  · have hfound := hconveyed.received (by
      intro hnil
      rw [hnil] at hlen
      exact hne (List.length_eq_zero_iff.mp hlen.symm))
    dsimp only
    rw [World.found, hfound]
    exact ⟨hlen, rfl, hwritable⟩

/-- An out and an in buffer. -/
def outInLoads (out inBuf : List UInt8) : List Load := [.all out false, .all inBuf true]

theorem whole_outIn {out inBuf : List UInt8} (hout : out.length < 2 ^ 32)
    (hin : inBuf.length < 2 ^ 32) : Whole (outInLoads out inBuf) := by
  intro l hl
  rcases List.mem_pair.mp hl with rfl | rfl
  · exact Load.all_length hout false
  · exact Load.all_length hin true

theorem answerable_outIn (out inBuf : List UInt8) : Answerable (outInLoads out inBuf) :=
  ⟨_, rfl, rfl⟩

end VirtioCrash
