import VirtioCrash.Harness.AvailRing
import VirtioCrash.Targets.QueueSizes

/-!
# Ring arithmetic of the targets

`place_desc` and the body of the blk harness's `op_vq_add_desc` count their descriptors and their
publications in 32 bits. On a queue whose size stays the power of two that `op_vq_setup` chose, the
descriptor links and the avail index stay right for any number of either.
-/

namespace VirtioCrash

open StateProgram

variable {n : Nat} {ξ Op : Type}

/-- A call of `place_desc` on queue `i`. -/
def PlaceDescCall (i : Fin n) (v v' : World n ξ) : Prop :=
  ∃ addr len deviceWritable chainNext,
    v' = ((placeDesc i addr len deviceWritable chainNext).run v).2

private theorem PlaceDescCall.isPlacement {i : Fin n} {v v' : World n ξ}
    (h : PlaceDescCall i v v') : IsPlacement i v v' := by
  obtain ⟨addr, len, deviceWritable, chainNext, rfl⟩ := h
  exact ⟨addr, len, deviceWritable, chainNext,
    congrArg Prod.snd (placeDesc_run i addr len deviceWritable chainNext v)⟩

/-- A call of `place_desc` on queue `i` that ends a chain. -/
def PlaceDescEnd (i : Fin n) (v v' : World n ξ) : Prop :=
  ∃ addr len deviceWritable, v' = ((placeDesc i addr len deviceWritable false).run v).2

private theorem PlaceDescEnd.call {i : Fin n} {v v' : World n ξ} (h : PlaceDescEnd i v v') :
    PlaceDescCall i v v' := by
  obtain ⟨addr, len, deviceWritable, rfl⟩ := h
  exact ⟨addr, len, deviceWritable, false, rfl⟩

private theorem PlaceDescEnd.publishes {i : Fin n} {v v' : World n ξ} (h : PlaceDescEnd i v v') :
    ∃ p, publications (stores v v') = [p] := by
  obtain ⟨addr, len, deviceWritable, rfl⟩ := h
  rw [placeDesc_run, stores_place]
  exact ⟨_, rfl⟩

/-- A call of the blk harness's `op_vq_add_desc` that gets as far as queue `i`'s table. -/
def Blk.AddDescCall (i : Fin Blk.kMaxQueues) (v v' : World Blk.kMaxQueues Unit) : Prop :=
  ∃ d : VqAddDesc, d.vqIdx.toNat = i ∧ (v.st.vqs i).size ≠ 0 ∧
    (descTarget v.st.bufs d.bufId d.len d.exoticRegion).isSome ∧
    v' = ((Blk.opVqAddDesc d).run v).2

private theorem Blk.AddDescCall.isPlacement {i : Fin Blk.kMaxQueues}
    {v v' : World Blk.kMaxQueues Unit} (h : Blk.AddDescCall i v v') : IsPlacement i v v' := by
  obtain ⟨d, hi, hsize, htarget, rfl⟩ := h
  obtain ⟨⟨addr, dlen⟩, htarget⟩ := Option.isSome_iff_exists.mp htarget
  have hlt : d.vqIdx.toNat < Blk.kMaxQueues := hi ▸ i.isLt
  have hfin : (⟨d.vqIdx.toNat, hlt⟩ : Fin Blk.kMaxQueues) = i := Fin.ext hi
  refine ⟨addr, dlen, d.deviceWritable, d.chainNext, ?_⟩
  rw [Blk.opVqAddDesc_run, World.addDesc, dif_pos hlt, hfin, if_neg hsize, htarget]

/-- Such a call with `chain_next` unset. -/
def Blk.AddDescEnd (i : Fin Blk.kMaxQueues) (v v' : World Blk.kMaxQueues Unit) : Prop :=
  ∃ d : VqAddDesc, d.chainNext = false ∧ d.vqIdx.toNat = i ∧ (v.st.vqs i).size ≠ 0 ∧
    (descTarget v.st.bufs d.bufId d.len d.exoticRegion).isSome ∧
    v' = ((Blk.opVqAddDesc d).run v).2

private theorem Blk.AddDescEnd.call {i : Fin Blk.kMaxQueues} {v v' : World Blk.kMaxQueues Unit}
    (h : Blk.AddDescEnd i v v') : Blk.AddDescCall i v v' := by
  obtain ⟨d, -, hcall⟩ := h
  exact ⟨d, hcall⟩

private theorem Blk.AddDescEnd.publishes {i : Fin Blk.kMaxQueues} {v v' : World Blk.kMaxQueues Unit}
    (h : Blk.AddDescEnd i v v') : ∃ p, publications (stores v v') = [p] := by
  obtain ⟨d, hchain, hi, hsize, htarget, rfl⟩ := h
  obtain ⟨⟨addr, dlen⟩, htarget⟩ := Option.isSome_iff_exists.mp htarget
  have hlt : d.vqIdx.toNat < Blk.kMaxQueues := hi ▸ i.isLt
  have hfin : (⟨d.vqIdx.toNat, hlt⟩ : Fin Blk.kMaxQueues) = i := Fin.ext hi
  rw [Blk.opVqAddDesc_run, World.addDesc, dif_pos hlt, hfin, if_neg hsize, htarget]
  dsimp only
  rw [stores_place, hchain]
  exact ⟨_, rfl⟩

private theorem Step.queueStep {a : Act} {v v' : World n ξ} (hs : Step a v v') (ha : a ≠ .setSize)
    (i : Fin n) {size : Nat} (hsize : (v.st.vqs i).size.toNat = size) :
    ∃ qs, QueueStep (IsPlacement i) i size v qs v' := by
  cases hs with
  | place j addr len deviceWritable chainNext w hne =>
      by_cases hij : i = j
      · subst hij
        exact ⟨_, .place hsize ⟨addr, len, deviceWritable, chainNext, rfl⟩⟩
      · exact ⟨[], .other (by simp [ringState, World.place, hij])⟩
  | setSize j requestedSize max w hmax => exact absurd rfl ha
  | _ => exact ⟨[], .other rfl⟩

/-- Queue `i` has `size` descriptors, and what happened to it since `w` were publications. -/
def PublishedSince (i : Fin n) (size : Nat) (w v : World n ξ) : Prop :=
  (v.st.vqs i).size.toNat = size ∧ ∃ ps, Published (IsPlacement i) i size w ps v

private theorem PublishedSince.steps {A : List Act} {i : Fin n} {size : Nat} {w v v' : World n ξ}
    (h : PublishedSince i size w v) (hA : Act.setSize ∉ A) (hs : Steps A v v') :
    PublishedSince i size w v' := by
  refine hs.invariant (PublishedSince i size w) ?_ h
  rintro a ha u u' hstep ⟨hsize, ps, hps⟩
  have hne : a ≠ .setSize := fun he => hA (he ▸ ha)
  obtain ⟨qs, hqs⟩ := hstep.queueStep hne i hsize
  have hkept := (Steps.single (List.mem_singleton_self a) hstep).size_eq
    (by simpa using hne.symm) i
  exact ⟨(congrArg UInt32.toNat hkept).trans hsize, ps ++ qs, hps.step hqs⟩

/-- Neither a reset nor a `VqSetup`. -/
def KeepsSizes (asCommon : Op → Option CommonOp) (op : Op) : Prop :=
  asCommon op ≠ some .reset ∧ ∀ vqIdx size, asCommon op ≠ some (.vqSetup vqIdx size)

private theorem Target.Confined.publishedSince {t : Target n ξ Op} {asCommon : Op → Option CommonOp}
    (ht : t.Confined asCommon) {i : Fin n} {size : Nat} {w v : World n ξ}
    (h : PublishedSince i size w v) (ops : List Op) (hops : ∀ op ∈ ops, KeepsSizes asCommon op) :
    PublishedSince i size w (dispatchAll t ops v) := by
  induction ops generalizing v with
  | nil => exact h
  | cons op ops ih =>
      obtain ⟨hop, hrest⟩ := List.forall_mem_cons.mp hops
      refine ih ?_ hrest
      rcases ht.dispatch_cases op v with ⟨hreset, -⟩ | ⟨vqIdx, size, -, hsetup, -⟩ |
        ⟨-, A, hA, hsteps⟩
      · exact absurd hreset hop.1
      · exact absurd hsetup (hop.2 vqIdx size)
      · exact h.steps hA hsteps

/-- Whatever a target does between resets and `VqSetup`s, on a queue nothing has been published on,
is a run of publications. -/
def PublishesOnly (t : Target n ξ Op) (asCommon : Op → Option CommonOp) : Prop :=
  ∀ (i : Fin n) size w ops, (w.st.vqs i).size.toNat = size → (w.st.vqs i).nextAvailIdx = 0 →
    (∀ op ∈ ops, KeepsSizes asCommon op) →
      ∃ ps, Published (IsPlacement i) i size w ps (dispatchAll t ops w)

private theorem Target.Confined.publishesOnly {t : Target n ξ Op} {asCommon : Op → Option CommonOp}
    (ht : t.Confined asCommon) : PublishesOnly t asCommon := by
  intro i size w ops hsize hnone hops
  exact (ht.publishedSince ⟨hsize, [], .start hnone⟩ ops hops).2

/-- Placements on a queue whose size stays a power of two up to 65536 link the table up. -/
structure LinksSurvive (Place : Fin n → World n ξ → World n ξ → Prop) : Prop where
  writes : ∀ i v v', Place i v v' → ∃ d rest, stores v v' = d :: rest
  linked : ∀ i e w ds v, e ≤ 16 → Placements (Place i) i (2 ^ e) w ds v →
    Linked (w.st.vqs i).descGpa (2 ^ e) ds

/-- Descriptor links survive the wrap of the table and of the counter. -/
theorem descriptorLinks_survive :
    (∀ (n : Nat) (ξ : Type), LinksSurvive (@PlaceDescCall n ξ)) ∧
      LinksSurvive Blk.AddDescCall := by
  constructor
  · intro n ξ
    constructor
    · exact fun i v v' h => h.isPlacement.writes
    · exact fun i e w ds v he h => h.linked (fun _ _ => PlaceDescCall.isPlacement) he
  · constructor
    · exact fun i v v' h => h.isPlacement.writes
    · exact fun i e w ds v he h => h.linked (fun _ _ => Blk.AddDescCall.isPlacement) he

/-- A machine with one queue of two descriptors, whose counters stand at `nextDescIdx` and 0. -/
def twoEntryWorld (nextDescIdx : UInt32) : World 1 Unit :=
  ⟨fun _ _ => 0, [],
    ⟨fun _ => ⟨0x47000000, 0x47001000, 0x47002000, 2, nextDescIdx, 0⟩, 0, fun _ => none, ()⟩, []⟩

/-- The world after one call of `place_desc` on it. -/
def placeOne (chainNext : Bool) (w : World 1 Unit) : World 1 Unit :=
  ((placeDesc 0 0x48000000 1 true chainNext).run w).2

private theorem placeDescCall_placeOne (chainNext : Bool) (w : World 1 Unit) :
    PlaceDescCall 0 w (placeOne chainNext w) :=
  ⟨0x48000000, 1, true, chainNext, rfl⟩

/-- The table and the counter both wrap: from `2^32 - 1` on, slots 1, 0 and 1 are filled, and each
descriptor names the slot of the one behind it. -/
theorem descriptorLinks_wrap :
    ∃ d d' d'' : Store, Linked 0x47000000 2 [d, d', d''] ∧
      [d.gpa, d'.gpa, d''.gpa] = [0x47000010, 0x47000000, 0x47000010] ∧
      [d.next, d'.next, d''.next] = [0, 1, 0] := by
  let w := twoEntryWorld 0xffffffff
  have hplaced (chainNext : Bool) {ds v} (h : Placements (PlaceDescCall 0) 0 (2 ^ 1) w ds v)
      (hsize : (v.st.vqs 0).size.toNat = 2 ^ 1) :=
    h.place hsize (placeDescCall_placeOne chainNext v)
  have hrun := hplaced true (hplaced true (hplaced true .start rfl) rfl) rfl
  exact ⟨_, _, _, (descriptorLinks_survive.1 1 Unit).linked 0 1 w _ _ (by decide) hrun,
    by decide, by decide⟩

/-- On a queue whose size stays a power of two up to 32768, each publication follows the one before
it, and a device that drains the ring reads all of them in order. `Ends` are the placements with
`chain_next` unset; they are the ones that publish. -/
structure RingInStep (Place Ends : Fin n → World n ξ → World n ξ → Prop) : Prop where
  stores_eq : ∀ i v v', Place i v v' →
    ∃ d, stores v v' = d :: (publications (stores v v')).flatMap fun p => [p.entry, p.idx]
  publishes : ∀ i v v', Ends i v v' → Place i v v' ∧ ∃ p, publications (stores v v') = [p]
  inStep : ∀ i e w ps v, e ≤ 15 → Published (Place i) i (2 ^ e) w ps v →
    InStep (w.st.vqs i).availGpa (2 ^ e) ps
  drained : ∀ i e m w ps counter taken v, e ≤ 15 →
    Watched (Place i) i (2 ^ e) m w ps counter taken v → Drained m i ps counter taken v

/-- The avail index and the ring slots stay in step, for any number of publications; programs that
neither reset nor set queues up only add publications. -/
theorem availRing_inStep :
    (∀ (n : Nat) (ξ : Type), RingInStep (@PlaceDescCall n ξ) PlaceDescEnd) ∧
      RingInStep Blk.AddDescCall Blk.AddDescEnd ∧
      PublishesOnly Blk.target some ∧ PublishesOnly Net.target Net.asCommon ∧
      PublishesOnly Gpu.target Gpu.asCommon ∧ PublishesOnly Scsi.target Scsi.asCommon := by
  refine ⟨?_, ?_, Blk.confined.publishesOnly, Net.confined.publishesOnly,
    Gpu.confined.publishesOnly, Scsi.confined.publishesOnly⟩
  · intro n ξ
    constructor
    · exact fun i v v' h => h.isPlacement.stores_eq
    · exact fun i v v' h => ⟨h.call, h.publishes⟩
    · exact fun i e w ps v he h => (h.counted (fun _ _ => PlaceDescCall.isPlacement) he).inStep
    · exact fun i e m w ps counter taken v he h =>
        h.drained (fun _ _ => PlaceDescCall.isPlacement) he
  · constructor
    · exact fun i v v' h => h.isPlacement.stores_eq
    · exact fun i v v' h => ⟨h.call, h.publishes⟩
    · exact fun i e w ps v he h =>
        (h.counted (fun _ _ => Blk.AddDescCall.isPlacement) he).inStep
    · exact fun i e m w ps counter taken v he h =>
        h.drained (fun _ _ => Blk.AddDescCall.isPlacement) he

private theorem onlyPublications_placeOne (v : World 1 Unit)
    (hapart : ∀ k < 4 + 2 * 2,
      16 ≤ ((v.st.vqs 0).availGpa + UInt64.ofNat k - (v.st.vqs 0).descSlot).toNat) :
    OnlyPublications (fun _ => 0) 0 2 v (publications (stores v (placeOne false v)))
      (placeOne false v) := by
  have hrun : placeOne false v = v.place 0 0x48000000 1 true false :=
    congrArg Prod.snd (placeDesc_run 0 0x48000000 1 true false v)
  rw [hrun]
  exact onlyPublications_place (fun _ => 0) 0 2 0x48000000 1 true false v hapart

/-- Three entries go through a ring of two slots; the device reads one before the third is
published, and then the other two. -/
theorem availRing_drained :
    ∃ (ps : List Publication) (taken : List Nat) (v : World 1 Unit),
      Drained (fun _ => 0) 0 ps 3 taken v ∧
      ps.map (fun p => p.entry.gpa) = [0x47001004, 0x47001006, 0x47001004] ∧
      ps.map Publication.value = [0, 1, 2] ∧ availIdx ps = 3 ∧ taken = [0, 1, 2] := by
  let w := twoEntryWorld 0
  let w1 := placeOne false w
  let w2 := placeOne false w1
  let w3 := placeOne false w2
  have h0 : Watched (PlaceDescCall 0) 0 (2 ^ 1) (fun _ => 0) w [] 0 [] w := .start rfl
  have h1 := h0.harness (.place rfl (placeDescCall_placeOne false w))
    (onlyPublications_placeOne w (by decide +kernel)) (by decide)
  have h2 := h1.harness (.place rfl (placeDescCall_placeOne false w1))
    (onlyPublications_placeOne w1 (by decide +kernel)) (by decide)
  have h3 := (h2.consume (by decide)).harness (.place rfl (placeDescCall_placeOne false w2))
    (onlyPublications_placeOne w2 (by decide +kernel)) (by decide)
  have h5 := (h3.consume (by decide)).consume (by decide)
  exact ⟨_, _, w3, (availRing_inStep.1 1 Unit).drained 0 1 _ w _ _ _ w3 (by decide) h5, by decide,
    by decide, by decide, by decide +kernel⟩

end VirtioCrash
