import VirtioCrash.Harness.Message
import VirtioCrash.Targets.RingRuns
import Mathlib.Data.List.Forall2

/-!
# Virtqueues as channels

A target whose typed ops submit messages uses a virtqueue as a channel. As long as the run puts
nothing else on the queue and leaves the staged buffers alone, the table holds the messages that
were taken since the reset, whole and in order, and the ring names the last buffer of each of them:
a device finds the messages of one buffer, and of the others their end.
-/

namespace VirtioCrash

open StateProgram SplitRing

variable {n : Nat} {ξ η Op : Type}

/-- A message with its queue and the room its submission asks for. -/
structure Envelope (n : Nat) where
  vq : Fin n
  room : UInt32
  loads : List Load

/-- Handlers that stage into the pool and place one descriptor at a time. -/
structure Handlers.Standard (h : Handlers n ξ) : Prop where
  guestMemWrite : h.guestMemWrite = opGuestMemWrite
  vqAddDesc : ∃ rule, h.vqAddDesc = addDescWith rule

/-- A target that has the common ops of the harnesses without state of their own and submits
messages; `say` is the message of an op. -/
structure Target.Speaks (t : Target n (Synth Unit) Op) (asCommon : Op → Option CommonOp)
    (say : Op → Option (Envelope n)) : Prop where
  confined : t.Confined asCommon
  reset : t.resetIterationState = Plain.resetIterationState
  common : ∃ h : Handlers n (Synth Unit), h.Standard ∧
    ∀ op c, asCommon op = some c → t.dispatch op = dispatchCommon h c
  mute : ∀ op c, asCommon op = some c → say op = none
  speaks : ∀ op msg, say op = some msg → ∀ w, NoZero w msg.loads.length →
    ((t.dispatch op).run w).2 = w.submitted msg.room msg.vq msg.loads
  whole : ∀ op msg, say op = some msg → Whole msg.loads
  few : ∀ op msg, say op = some msg →
    msg.loads.length ≤ msg.room.toNat ∧ msg.room.toNat ≤ 8
  silent : ∀ op, asCommon op = none → say op = none → t.dispatch op = pure ()

/-- The message of a lone buffer. -/
def Envelope.lone (vq : Fin n) (l : Load) : Envelope n := ⟨vq, 1, [l]⟩

/-- A target whose messages are lone buffers. -/
theorem Target.Speaks.ofLone {t : Target n (Synth Unit) Op} {asCommon : Op → Option CommonOp}
    {say : Op → Option (Envelope n)} (hconfined : t.Confined asCommon)
    (hreset : t.resetIterationState = Plain.resetIterationState)
    (hcommon : ∀ op c, asCommon op = some c →
      t.dispatch op = dispatchCommon Plain.handlers c ∧ say op = none)
    (htyped : ∀ op, asCommon op = none → t.dispatch op = pure () ∧ say op = none ∨
      ∃ vq l, say op = some (.lone vq l) ∧ l.bytes.length = l.len.toNat ∧
        t.dispatch op = Plain.submitBuf vq l.bytes l.len l.deviceWritable) :
    t.Speaks asCommon say := by
  have hsays : ∀ op msg, say op = some msg → ∃ vq l, msg = .lone vq l ∧
      l.bytes.length = l.len.toNat ∧
        t.dispatch op = Plain.submitBuf vq l.bytes l.len l.deviceWritable := by
    intro op msg hmsg
    rcases hc : asCommon op with _ | c
    · rcases htyped op hc with ⟨-, hnone⟩ | ⟨vq, l, hsome, hlen, hrun⟩
      · rw [hnone] at hmsg
        cases hmsg
      · rw [hsome] at hmsg
        exact ⟨vq, l, (Option.some.inj hmsg).symm, hlen, hrun⟩
    · rw [(hcommon op c hc).2] at hmsg
      cases hmsg
  constructor
  · exact hconfined
  · exact hreset
  · exact ⟨Plain.handlers, ⟨rfl, _, rfl⟩, fun op c hc => (hcommon op c hc).1⟩
  · exact fun op c hc => (hcommon op c hc).2
  · intro op msg hmsg w hno
    obtain ⟨vq, l, rfl, hlen, hrun⟩ := hsays op msg hmsg
    have hself : Load.ofBytes l.bytes l.len l.deviceWritable = l := Load.ofBytes_self hlen.le _
    rw [hrun, submitted_submitBuf vq l.bytes l.len l.deviceWritable hno, hself]
    rfl
  · intro op msg hmsg
    obtain ⟨vq, l, rfl, hlen, -⟩ := hsays op msg hmsg
    intro l' hl'
    rwa [List.mem_singleton.mp hl']
  · intro op msg hmsg
    obtain ⟨vq, l, rfl, -, -⟩ := hsays op msg hmsg
    exact ⟨Nat.le_refl 1, (by decide : 1 ≤ 8)⟩
  · intro op hc hmsg
    rcases htyped op hc with ⟨hrun, -⟩ | ⟨vq, l, hsome, -, -⟩
    · exact hrun
    · rw [hmsg] at hsome
      cases hsome

/-- The ops whose messages queue `i` holds after one more of them. -/
def takeOp (asCommon : Op → Option CommonOp) (say : Op → Option (Envelope n)) (i : Fin n)
    (w : World n ξ) (held : List Op) (op : Op) : List Op :=
  if asCommon op = some .reset then []
  else
    match say op with
    | some msg => if msg.vq = i ∧ Takes msg.room msg.vq msg.loads w then held ++ [op] else held
    | none => held

/-- The ops since the last reset whose messages queue `i` took, oldest first. -/
def taken (t : Target n ξ Op) (asCommon : Op → Option CommonOp)
    (say : Op → Option (Envelope n)) (i : Fin n) : List Op → List Op → World n ξ → List Op
  | held, [], _ => held
  | held, op :: ops, w =>
      taken t asCommon say i (takeOp asCommon say i w held op) ops ((t.dispatch op).run w).2

/-- The messages of these ops. -/
def messagesOf (say : Op → Option (Envelope n)) (ops : List Op) : List (List Load) :=
  ops.filterMap fun op => (say op).map Envelope.loads

/-- The op sets queues up as `SetupKeeps` says (a size below 512, on a queue without descriptors or
the one it has), puts no loose descriptor on queue `i` and stores nothing by absolute address into
buffers that are handed out. -/
def Conversing (asCommon : Op → Option CommonOp) (i : Fin n) (w : World n ξ) (op : Op) : Prop :=
  SetupKeeps asCommon w op ∧
    match asCommon op with
    | some (.vqAddDesc d) => d.vqIdx.toNat ≠ i
    | some (.memWriteAbsolute gpa data) =>
        ∀ a ∈ clampGpa n gpa (UInt32.ofNat (min data.length 4096)), w.st.bufAlloc ≤ a
    | _ => True

instance (asCommon : Op → Option CommonOp) (i : Fin n) (w : World n ξ) (op : Op) :
    Decidable (Conversing asCommon i w op) := by
  refine @instDecidableAnd _ _ inferInstance ?_
  generalize asCommon op = c
  rcases c with _ | c
  · exact instDecidableTrue
  · induction c using CommonOp.casesOn with
    | memWriteAbsolute gpa data =>
        exact Option.decidableForallMem (p := fun a => w.st.bufAlloc ≤ a) _
    | _ => infer_instance

/-- Queue `i` carries the messages, all in the first lap of its table. -/
structure Conveyed (m : ByteMemory) (i : Fin n) (w : World n (Synth η)) (ms : List (List Load)) :
    Prop where
  rings : RingsShown m w
  ids : IdsFrom (2 ^ 31) w
  lap : (queueLog i w.hist).length ≤ (w.st.vqs i).size.toNat
  log : List.Forall₂ (Carries m w) (queueLog i w.hist).reverse (ms.flatMap partsOf)

private theorem Steps.queueLog_eq {A : List Act} (hA : Act.place ∉ A) {w w' : World n ξ}
    (hs : Steps A w w') (i : Nat) : queueLog i w'.hist = queueLog i w.hist := by
  apply hs.invariant fun v => queueLog i v.hist = queueLog i w.hist
  · intro a ha v v' hstep hv
    obtain ⟨ms, hms, hno⟩ := hstep.hist_eq
    have hsame := Steps.placements_eq hA (Steps.single ha hstep)
    rw [hms, placements, List.filterMap_append] at hsame
    rw [hms, queueLog_append (List.append_left_eq_self.mp hsame) hno]
    exact hv
  · rfl

section Conveyed

variable {m : ByteMemory} {i : Fin n} {w w' : World n (Synth η)} {ms : List (List Load)}

private theorem Conveyed.frame (h : Conveyed m i w ms) (hrings : RingsShown m w')
    (hids : IdsFrom (2 ^ 31) w')
    (hlog : queueLog i w'.hist = queueLog i w.hist)
    (hsize : queueLog i w.hist = [] ∨ (w'.st.vqs i).size = (w.st.vqs i).size)
    (hkeep : KeepsStaged w w') : Conveyed m i w' ms where
  rings := hrings
  ids := hids
  lap := by
    rw [hlog]
    rcases hsize with hempty | hsame
    · rw [hempty]
      exact Nat.zero_le _
    · rw [hsame]
      exact h.lap
  log := by
    rw [hlog]
    exact h.log.imp fun _ _ hp => hp.keep hkeep

private theorem StagedFrom.same {as : List Load} (h : StagedFrom w as) :
    (w.stageAll as).st.vqs = w.st.vqs ∧
      ∀ k : Fin n, queueLog k (w.stageAll as).hist = queueLog k w.hist :=
  ⟨h.steps.vqs_eq (by decide) (by decide),
    fun k => Steps.queueLog_eq (A := stagingActs) (by decide) h.steps k⟩

private theorem StagedFrom.ids {as : List Load} (h : StagedFrom w as) (hids : IdsFrom (2 ^ 31) w) :
    IdsFrom (2 ^ 31) (w.stageAll as) :=
  hids.mints (Nat.le_refl _) h.mints

private theorem Conveyed.drop (h : Conveyed m i w ms) (hn : n ≤ 16) {as : List Load}
    (hwhole : Whole as) (hfew : as.length ≤ 16)
    (hfit : fitCount w.st.bufAlloc (lensOf as) = as.length) : Conveyed m i (w.stageAll as) ms := by
  have hstaged : StagedFrom w as := loaded_stageAll hwhole hfew hfit
  obtain ⟨hvqs, hlog⟩ := hstaged.same
  obtain ⟨-, hkeep, -⟩ := holds_stageAll m hwhole hfit hfew h.rings.pool
  refine h.frame (h.rings.steps (by decide) hstaged.steps hn) (hstaged.ids h.ids) (hlog i)
    (Or.inr ?_) hkeep
  rw [hvqs]

private theorem send_queue (j : Fin n) {ls : List Load} (hstaged : StagedFrom w ls)
    (hpos : (w.st.vqs j).size ≠ 0) (k : Fin n) :
    queueLog k (w.send j ls).hist =
      if k = j then
        (chainPlacements j ((cargosAt w.st.bufAlloc ls).map Cargo.piece)).reverse ++
          queueLog k w.hist
      else queueLog k w.hist := by
  obtain ⟨hvqs, hlog⟩ := hstaged.same
  have hplaced := queueLog_placeChain j k ((cargosAt w.st.bufAlloc ls).map Cargo.piece)
    (w := w.stageAll ls) (by rw [hvqs]; exact hpos)
  rw [hlog k] at hplaced
  exact hplaced

private theorem keepsStaged_send {j : Fin n} {ls : List Load} (hstaged : StagedFrom w ls)
    (hareas : InAreas j (w.st.vqs j)) (hn : n ≤ 16) (hpos : (w.st.vqs j).size ≠ 0) :
    KeepsStaged (w.stageAll ls) (w.send j ls) := by
  obtain ⟨hvqs, -⟩ := hstaged.same
  have hplaced := keepsStaged_placeChain hn ((cargosAt w.st.bufAlloc ls).map Cargo.piece)
    (w := w.stageAll ls) (i := j) (by rw [hvqs]; exact hareas) (by rw [hvqs]; exact hpos)
  exact hplaced.trans
    (Steps.keepsStaged (A := [.event]) (by simp) (within_notify (by decide) j _))

private theorem Conveyed.count (h : Conveyed m i w ms) :
    (w.st.vqs i).nextDescIdx.toNat = (queueLog i w.hist).length := by
  have hlap := h.lap
  have hmax := h.rings.sizes i
  rw [h.rings.tracked i, UInt32.toNat_ofNat']
  change (queueLog i w.hist).length % 2 ^ 32 = _
  omega

private theorem Conveyed.send (h : Conveyed m i w ms) (hn : n ≤ 16) {room : UInt32} {j : Fin n}
    {ls : List Load} (hwhole : Whole ls) (hfew : ls.length ≤ room.toNat)
    (hroom : room.toNat ≤ 8) (htakes : Takes room j ls w) (hrings : RingsShown m (w.send j ls))
    (hsize : ((w.send j ls).st.vqs i).size = (w.st.vqs i).size) :
    Conveyed m i (w.send j ls) (if j = i then ms ++ [ls] else ms) := by
  obtain ⟨hready, hfit⟩ := htakes
  have hstaged : StagedFrom w ls := loaded_stageAll hwhole (by omega) hfit
  obtain ⟨-, hkeep, hholds⟩ := holds_stageAll m hwhole hfit (by omega) h.rings.pool
  have hlate := keepsStaged_send hstaged (h.rings.inAreas j) hn hready.1
  have hids : IdsFrom (2 ^ 31) (w.send j ls) :=
    (hstaged.ids h.ids).mints (Nat.le_refl _) (mints_placeChain j _ _)
  have hlog := send_queue j hstaged hready.1 i
  by_cases hj : j = i
  · subst hj
    rw [if_pos rfl] at hlog ⊢
    have hcount : (chainPlacements j ((cargosAt w.st.bufAlloc ls).map Cargo.piece)).length =
        ls.length := by
      have hmap := congrArg List.length
        (chainPlacements_map j ((cargosAt w.st.bufAlloc ls).map Cargo.piece))
      rw [List.length_map, List.length_map, List.length_map, cargosAt_length] at hmap
      exact hmap
    have hlap := h.lap
    have hmax := h.rings.sizes j
    have hnext := h.count
    have hfits := hready.fits hroom (by omega)
    constructor
    · exact hrings
    · exact hids
    · rw [hlog, List.length_append, List.length_reverse, hcount, hsize]
      omega
    · rw [hlog, List.reverse_append, List.reverse_reverse, List.flatMap_append,
        List.flatMap_singleton]
      refine List.rel_append (h.log.imp fun _ _ hp => hp.keep (hkeep.trans hlate)) ?_
      have hchain := carries_chain (m := m) j fun c hc => (hholds c hc).keep hlate
      rwa [cargosAt_load] at hchain
  · rw [if_neg hj]
    rw [if_neg fun he => hj he.symm] at hlog
    exact h.frame hrings hids hlog (Or.inr hsize) (hkeep.trans hlate)

end Conveyed

namespace Target.Speaks

variable {t : Target n (Synth Unit) Op} {asCommon : Op → Option CommonOp}
  {say : Op → Option (Envelope n)}

private theorem conveyed_reset (ht : t.Speaks asCommon say) (hn : n ≤ 16) (m : ByteMemory)
    (i : Fin n) (w : World n (Synth Unit)) : Conveyed m i (t.resetIterationState.run w).2 [] := by
  have hrings := ht.confined.reset_keeps (ringsShown_afterReset hn m) w
  have hroom := hrings.pool.le_end
  rw [ht.reset, Plain.resetIterationState_run] at hrings hroom ⊢
  have hlog : queueLog i (w.afterReset.setExt fun _ => Plain.resetExt).hist = [] :=
    queueLog_reset i w.hist
  constructor
  · exact hrings
  · exact IdsFrom.start hroom rfl
  · rw [hlog]
    exact Nat.zero_le _
  · rw [hlog]
    exact .nil

private theorem size_common (ht : t.Speaks asCommon say) {i : Fin n} {w : World n (Synth Unit)}
    {op : Op} (hreset : asCommon op ≠ some .reset) (hkeep : SetupKeeps asCommon w op) :
    queueLog i w.hist = [] ∨ (((t.dispatch op).run w).2.st.vqs i).size = (w.st.vqs i).size := by
  rcases ht.confined.dispatch_cases op w with ⟨hop, -⟩ | ⟨vqIdx, size, hi, hop, hrun⟩ |
    ⟨-, A, hA, hsteps⟩
  · exact absurd hop hreset
  · rw [SetupKeeps, hop] at hkeep
    rw [hrun, World.vqSetup]
    dsimp only
    split
    · exact Or.inr rfl
    · rename_i hmax
      by_cases hsame : i = ⟨vqIdx.toNat, hi⟩
      · subst hsame
        simpa [World.setVq] using (hkeep hi hmax).2
      · exact Or.inr (by simp [World.setVq, hsame])
  · exact Or.inr (hsteps.size_eq hA i)

private theorem keeps_common (ht : t.Speaks asCommon say) (hn : n ≤ 16) {m : ByteMemory} {i : Fin n}
    {w : World n (Synth Unit)} {op : Op} {c : CommonOp} (hc : asCommon op = some c)
    (hreset : c ≠ .reset) (hop : Conversing asCommon i w op) (hrings : RingsShown m w) :
    queueLog i ((t.dispatch op).run w).2.hist = queueLog i w.hist ∧
      KeepsStaged w ((t.dispatch op).run w).2 := by
  have hsteps := ht.confined.dispatch_common op c hc hreset w
  obtain ⟨-, hquiet⟩ := hop
  obtain ⟨handlers, hstandard, hcommon⟩ := ht.common
  rw [hc] at hquiet
  cases c with
  | reset => exact absurd rfl hreset
  | vqAddDesc d =>
      obtain ⟨rule, hrule⟩ := hstandard.vqAddDesc
      have hrun : ((t.dispatch op).run w).2 = w.addDesc rule d := by
        rw [hcommon op _ hc, dispatchCommon, hrule]
        exact congrArg Prod.snd (addDescWith_run rule d w)
      rw [hrun, World.addDesc]
      split
      · rename_i hi
        split
        · exact ⟨rfl, .refl w⟩
        · rename_i hpos
          split
          · exact ⟨rfl, .refl w⟩
          · refine ⟨?_, keepsStaged_place (hrings.inAreas _) hn hpos _ _ _ _⟩
            rw [queueLog_place _ _ _ _ _ _ hpos, if_neg fun he => hquiet (congrArg Fin.val he).symm]
      · exact ⟨rfl, .refl w⟩
  | guestMemWrite bufId data =>
      refine ⟨hsteps.queueLog_eq (by simp [CommonOp.acts]) i, ?_⟩
      rw [hcommon op _ hc, dispatchCommon, hstandard.guestMemWrite]
      exact keepsStaged_opGuestMemWrite bufId data w hrings.pool
  | memWriteAbsolute gpa data =>
      refine ⟨hsteps.queueLog_eq (by simp [CommonOp.acts]) i, ?_⟩
      rw [hcommon op _ hc]
      exact keepsStaged_opMemwriteAbsolute gpa data w hn hquiet
  | _ =>
      constructor
      · exact hsteps.queueLog_eq (by simp [CommonOp.acts]) i
      · exact hsteps.keepsStaged (by simp [CommonOp.acts])

private theorem conveyed_dispatch (ht : t.Speaks asCommon say) (hn : n ≤ 16) {m : ByteMemory}
    {i : Fin n} {w : World n (Synth Unit)} {held : List Op} (op : Op)
    (hop : Conversing asCommon i w op) (h : Conveyed m i w (messagesOf say held)) :
    Conveyed m i ((t.dispatch op).run w).2
      (messagesOf say (takeOp asCommon say i w held op)) := by
  have hrings := ht.confined.ringsShown_dispatch hn m op w hop.1 h.rings
  rw [takeOp]
  rcases hc : asCommon op with _ | c
  · rw [if_neg (by simp)]
    rcases hsay : say op with _ | msg
    · rw [ht.silent op hc hsay]
      exact h
    · have hid : w.st.ext.synthBufId ≠ 0 := by
        intro hzero
        have hge := h.ids.ge
        rw [hzero] at hge
        exact absurd hge (by decide)
      have hwhole := ht.whole op msg hsay
      obtain ⟨hfew, hroom⟩ := ht.few op msg hsay
      have hsize := (ht.confined.dispatch_typed op hc w).size_eq (by decide) i
      have hrun := ht.speaks op msg hsay w (h.ids.noZero (Nat.le_refl _) hid (by omega))
      rw [hrun] at hrings hsize ⊢
      dsimp only
      rw [World.submitted] at hrings hsize ⊢
      by_cases hready : Ready msg.room (w.st.vqs msg.vq)
      · rw [if_pos hready, World.delivered] at hrings hsize ⊢
        by_cases hfit : fitCount w.st.bufAlloc (lensOf msg.loads) = msg.loads.length
        · rw [if_pos hfit] at hrings hsize ⊢
          have hsent := h.send hn hwhole hfew hroom ⟨hready, hfit⟩ hrings hsize
          by_cases hj : msg.vq = i
          · rw [if_pos hj] at hsent
            rw [if_pos ⟨hj, hready, hfit⟩, messagesOf, List.filterMap_append]
            simpa [messagesOf, hsay] using hsent
          · rw [if_neg hj] at hsent
            rw [if_neg fun he => hj he.1]
            exact hsent
        · rw [if_neg hfit, if_neg fun he : _ ∧ _ => hfit he.2.2]
          have hle := fitCount_le w.st.bufAlloc (lensOf msg.loads)
          rw [lensOf_length] at hle
          apply h.drop hn (fun l hl => hwhole l (List.mem_of_mem_take hl))
          · rw [List.length_take]
            omega
          · rw [List.length_take, min_eq_left hle]
            have htake := fitCount_take w.st.bufAlloc (lensOf msg.loads)
            rwa [lensOf, ← List.map_take] at htake
      · rw [if_neg hready, if_neg fun he : _ ∧ _ => hready he.2.1]
        exact h
  · by_cases hreset : c = .reset
    · subst hreset
      rw [if_pos rfl, ht.confined.dispatch_reset op hc]
      exact ht.conveyed_reset hn m i w
    · rw [if_neg fun he => hreset (Option.some.inj he), ht.mute op c hc]
      obtain ⟨hlog, hkeep⟩ := ht.keeps_common hn hc hreset hop h.rings
      have hnever : asCommon op ≠ some .reset := by simpa [hc] using hreset
      refine h.frame hrings ?_ hlog (ht.size_common hnever hop.1) hkeep
      refine h.ids.steps ?_ (ht.confined.dispatch_common op c hc hreset w)
      cases c <;> simp [CommonOp.acts]

private theorem conveyed_run (ht : t.Speaks asCommon say) (hn : n ≤ 16) {m : ByteMemory} {i : Fin n}
    (ops : List Op) {w : World n (Synth Unit)} {held : List Op}
    (hops : EveryOp t (Conversing asCommon i) ops w)
    (h : Conveyed m i w (messagesOf say held)) :
    Conveyed m i (dispatchAll t ops w) (messagesOf say (taken t asCommon say i held ops w)) := by
  induction ops generalizing w held with
  | nil => exact h
  | cons op ops ih => exact ih hops.2 (ht.conveyed_dispatch hn op hops.1 h)

end Target.Speaks

private theorem filled_carries {m : ByteMemory} {w : World n ξ} (size : Nat) {ps : List Placement}
    {qs : List Part} (h : List.Forall₂ (Carries m w) ps qs) :
    (filled size ps).descs.map (readPart (memoryAfter m w.trace)) = qs.reverse ∧
      (filled size ps).heads.length = (qs.filter fun q => !q.more).length ∧
      (filled size ps).published.map (readLoad (memoryAfter m w.trace)) =
        (qs.filter fun q => !q.more).reverse.map Part.load := by
  induction h with
  | nil => exact ⟨rfl, rfl, rfl⟩
  | @cons p q ps qs hp hps ih =>
      obtain ⟨hdescs, hcount, hread⟩ := ih
      have hpart := hp.readPart size (filled size ps).descs.length
      have hload := congrArg Part.load hpart
      have hplaced : ((filled size ps).descs ++
          [p.descriptor size (filled size ps).descs.length]).map
            (readPart (memoryAfter m w.trace)) = (q :: qs).reverse := by
        rw [List.map_append, hdescs, List.map_singleton, hpart, List.reverse_cons]
      rw [filled]
      by_cases hmore : q.more = true
      · rw [if_pos (by rw [hp.more]; exact hmore),
          List.filter_cons_of_neg (by rw [hmore]; decide)]
        refine ⟨hplaced, hcount, ?_⟩
        rw [(filled_headsPlaced size ps).published_place, hread]
      · rw [if_neg (by rw [hp.more]; exact hmore),
          List.filter_cons_of_pos (by simpa using hmore)]
        refine ⟨hplaced, ?_, ?_⟩
        · rw [Filled.publish, List.length_append, List.length_singleton, List.length_cons]
          exact congrArg (· + 1) hcount
        · rw [(filled_headsPlaced size ps).published_publish, List.map_append, hread,
            List.reverse_cons, List.map_append]
          exact congrArg (_ ++ [·]) hload

private theorem partsOf_ends (ls : List Load) :
    ((partsOf ls).filter fun q => !q.more).map Part.load = ls.getLast?.toList := by
  induction ls with
  | nil => rfl
  | cons l ls ih =>
      rw [partsOf]
      cases ls with
      | nil => rfl
      | cons l' ls =>
          rw [List.filter_cons_of_neg (by simp), ih, List.getLast?_cons_cons]

private theorem flatMap_ends (ms : List (List Load)) :
    ((ms.flatMap partsOf).filter fun q => !q.more).map Part.load = ms.filterMap List.getLast? := by
  induction ms with
  | nil => rfl
  | cons ls ms ih =>
      rw [List.flatMap_cons, List.filter_append, List.map_append, ih, partsOf_ends,
        List.filterMap_cons]
      cases ls.getLast? with
      | none => rfl
      | some l => rfl

section Device

variable {m : ByteMemory} {i : Fin n} {w : World n (Synth η)} {ms : List (List Load)}

private theorem Conveyed.filled (h : Conveyed m i w ms) (size : Nat) :
    (VirtioCrash.filled size (queueLog i w.hist)).descs.map (readPart (memoryAfter m w.trace)) =
        ms.flatMap partsOf ∧
      (VirtioCrash.filled size (queueLog i w.hist)).heads.length =
        (ms.filterMap List.getLast?).length ∧
      (VirtioCrash.filled size (queueLog i w.hist)).published.map
          (readLoad (memoryAfter m w.trace)) = ms.filterMap List.getLast? := by
  have hlog := List.rel_reverse h.log
  rw [List.reverse_reverse] at hlog
  obtain ⟨hdescs, hcount, hread⟩ := filled_carries size hlog
  have hends := flatMap_ends ms
  rw [List.reverse_reverse] at hdescs
  rw [List.filter_reverse, List.length_reverse] at hcount
  rw [List.filter_reverse, List.reverse_reverse] at hread
  refine ⟨hdescs, ?_, hread.trans hends⟩
  rw [hcount, ← hends, List.length_map]

theorem Conveyed.laidOut (h : Conveyed m i w ms) :
    VirtioCrash.laidOut (memoryAfter m w.trace) (w.st.vqs i).descGpa
      (w.st.vqs i).nextDescIdx.toNat = ms.flatMap partsOf := by
  obtain ⟨hdescs, -, -⟩ := h.filled (w.st.vqs i).size.toNat
  have hlen := filled_length (w.st.vqs i).size.toNat (queueLog i w.hist)
  by_cases hpos : (w.st.vqs i).size = 0
  · have hidle := (h.rings.queues i).idle hpos
    rw [hidle] at hdescs
    rw [← hdescs, h.count, hidle]
    rfl
  · have hshown := (h.rings.queues i).shown hpos
    have htable := hshown.tableDescs_eq (by rw [hlen]; exact h.lap)
    rw [hlen] at htable
    rw [VirtioCrash.laidOut, h.count, htable, hdescs]

/-- A device that reads the ring finds the last buffers of the messages. -/
theorem Conveyed.received (h : Conveyed m i w ms) (hne : ms.filterMap List.getLast? ≠ []) :
    VirtioCrash.received (memoryAfter m w.trace) (w.st.vqs i).descGpa (w.st.vqs i).availGpa
      (w.st.vqs i).size.toNat = ms.filterMap List.getLast? := by
  obtain ⟨-, hcount, hread⟩ := h.filled (w.st.vqs i).size.toNat
  have hends := List.length_pos_iff.mpr hne
  have hpos : (w.st.vqs i).size ≠ 0 := by
    intro hz
    rw [(h.rings.queues i).idle hz] at hcount
    change 0 = _ at hcount
    omega
  have hshown := (h.rings.queues i).shown hpos
  have hlap := h.lap
  have hsize := h.rings.sizes i
  have hheads := filled_heads_le (w.st.vqs i).size.toNat (queueLog i w.hist)
  rw [VirtioCrash.received, hshown.idx (List.length_pos_iff.mp (by omega)),
    Nat.mod_eq_of_lt (by omega),
    hshown.availDescs_eq (filled_headsPlaced _ _) (by rw [filled_length]; exact hlap) (by omega)
      (by omega), hread]

end Device

theorem Target.Speaks.conveyed {t : Target n (Synth Unit) Op} {asCommon : Op → Option CommonOp}
    {say : Op → Option (Envelope n)} (ht : t.Speaks asCommon say) (hn : n ≤ 16) (m : ByteMemory)
    (i : Fin n) {ops : List Op} {w : World n (Synth Unit)}
    (hops : EveryOp t (Conversing asCommon i) ops (t.resetIterationState.run w).2) :
    Conveyed m i (runFromReset t ops w)
      (messagesOf say (taken t asCommon say i [] ops (t.resetIterationState.run w).2)) := by
  have hstart : Conveyed m i _ (messagesOf say []) := ht.conveyed_reset hn m i w
  exact ht.conveyed_run hn ops hops hstart

/-- What a device finds on queue `i` of a world when it reads the memory the harness wrote. -/
def World.found (m : ByteMemory) (w : World n ξ) (i : Fin n) : List Load :=
  received (memoryAfter m w.trace) (w.st.vqs i).descGpa (w.st.vqs i).availGpa
    (w.st.vqs i).size.toNat

/-- In every run whose ops are `Conversing` on queue `i`, the ops it took since the last reset are
all of the kind `mk`, and as soon as there is one of them, what the device finds reads as their
values. Before that the index in memory may still be one from before the reset. -/
def Target.Arrives {α β : Type} (t : Target n ξ Op) (asCommon : Op → Option CommonOp)
    (say : Op → Option (Envelope n)) (i : Fin n) (mk : α → Op) (read : Load → β)
    (val : α → β) : Prop :=
  ∀ (m : ByteMemory) (ops : List Op) (w : World n ξ),
    EveryOp t (Conversing asCommon i) ops (t.resetIterationState.run w).2 →
      ∃ as, taken t asCommon say i [] ops (t.resetIterationState.run w).2 = as.map mk ∧
        (as ≠ [] → ((runFromReset t ops w).found m i).map read = as.map val)

/-- A run of which it is known what the queue took. -/
theorem Target.Arrives.run {α β : Type} {t : Target n ξ Op} {asCommon : Op → Option CommonOp}
    {say : Op → Option (Envelope n)} {i : Fin n} {mk : α → Op} {read : Load → β} {val : α → β}
    (h : t.Arrives asCommon say i mk read val) (hmk : Function.Injective mk) (m : ByteMemory)
    {ops : List Op} {w : World n ξ}
    (hops : EveryOp t (Conversing asCommon i) ops (t.resetIterationState.run w).2) (as : List α)
    (hne : as ≠ [])
    (htaken : taken t asCommon say i [] ops (t.resetIterationState.run w).2 = as.map mk) :
    ((runFromReset t ops w).found m i).map read = as.map val := by
  obtain ⟨as', htaken', hread⟩ := h m ops w hops
  rw [htaken] at htaken'
  obtain rfl := List.map_injective_iff.mpr hmk htaken'
  exact hread hne

theorem taken_mem (t : Target n ξ Op) (asCommon : Op → Option CommonOp)
    {say : Op → Option (Envelope n)} {i : Fin n} {held : List Op}
    (hheld : ∀ op ∈ held, ∃ msg, say op = some msg ∧ msg.vq = i) (ops : List Op) (w : World n ξ) :
    ∀ op ∈ taken t asCommon say i held ops w, ∃ msg, say op = some msg ∧ msg.vq = i := by
  induction ops generalizing held w with
  | nil => exact hheld
  | cons op ops ih =>
      apply ih
      intro op' hop'
      rw [takeOp] at hop'
      split at hop'
      · cases hop'
      · rcases hsay : say op with _ | msg
        · rw [hsay] at hop'
          exact hheld op' hop'
        · rw [hsay] at hop'
          dsimp only at hop'
          split at hop'
          · rename_i hj
            rcases List.mem_append.mp hop' with hold | hnew
            · exact hheld op' hold
            · rw [List.mem_singleton.mp hnew]
              exact ⟨msg, hsay, hj.1⟩
          · exact hheld op' hop'

private theorem messages_of_kind {α β : Type} {say : Op → Option (Envelope n)} {i : Fin n}
    {mk : α → Op}
    {read : Load → β} {val : α → β}
    (hkind : ∀ op msg, say op = some msg → msg.vq = i →
      ∃ a l, op = mk a ∧ msg.loads = [l] ∧ read l = val a) {ops : List Op}
    (hops : ∀ op ∈ ops, ∃ msg, say op = some msg ∧ msg.vq = i) :
    ∃ as : List α, ops = as.map mk ∧
      ((messagesOf say ops).filterMap List.getLast?).map read = as.map val := by
  induction ops with
  | nil => exact ⟨[], rfl, rfl⟩
  | cons op ops ih =>
      obtain ⟨as, has, hval⟩ := ih fun op' hop' => hops op' (List.mem_cons_of_mem op hop')
      obtain ⟨msg, hsay, hvq⟩ := hops op List.mem_cons_self
      obtain ⟨a, l, rfl, hloads, hread⟩ := hkind op msg hsay hvq
      refine ⟨a :: as, by rw [has, List.map_cons], ?_⟩
      have hmessages : messagesOf say (mk a :: ops) = [l] :: messagesOf say ops := by
        rw [messagesOf, List.filterMap_cons_some (by rw [hsay, Option.map_some, hloads])]
        rfl
      rw [hmessages, List.filterMap_cons_some List.getLast?_singleton, List.map_cons,
        List.map_cons, hread, hval]

/-- A queue that is for one kind of ops, with a reader for their messages. -/
theorem Target.Speaks.arrives {α β : Type} {t : Target n (Synth Unit) Op}
    {asCommon : Op → Option CommonOp} {say : Op → Option (Envelope n)}
    (ht : t.Speaks asCommon say) (hn : n ≤ 16) {i : Fin n} {mk : α → Op} {read : Load → β}
    {val : α → β}
    (hkind : ∀ op msg, say op = some msg → msg.vq = i →
      ∃ a l, op = mk a ∧ msg.loads = [l] ∧ read l = val a) :
    t.Arrives asCommon say i mk read val := by
  intro m ops w hops
  have hmem := taken_mem t asCommon
    (List.forall_mem_nil fun op => ∃ msg, say op = some msg ∧ msg.vq = i) ops
    (t.resetIterationState.run w).2
  obtain ⟨as, has, hval⟩ := messages_of_kind hkind hmem
  refine ⟨as, has, fun hne => ?_⟩
  rw [World.found, (ht.conveyed hn m i hops).received, hval]
  intro hempty
  rw [hempty] at hval
  exact hne (List.map_eq_nil_iff.mp hval.symm)

end VirtioCrash
