import VirtioCrash.Harness.AllOrNothing

/-!
# The buffers of a submission

What a submission puts behind each descriptor it places. Its buffers are staged one after another,
each above the last, under consecutive ids; it ends when one of them does not fit, when an id of 0
makes it believe so, or when it has placed what it staged and rung the doorbell.
-/

namespace VirtioCrash

open StateProgram Relation

variable {n : Nat} {ξ η α : Type}

/-- A descriptor a run placed, with the bytes that were staged where it points. -/
structure SentDesc where
  vqIdx : Nat
  bytes : List UInt8
  len : UInt32
  deviceWritable : Bool
  chainNext : Bool
  deriving DecidableEq

/-- A placed descriptor and its buffer. A submission stages its buffers before it stores anything
else, so their bytes are the ones stored there first. -/
def SentDesc.ofPlacement (es : List Event) (p : Placement) : SentDesc :=
  ⟨p.vqIdx, ((firstStored p.addr es).getD []).take p.len.toNat, p.len, p.deviceWritable,
    p.chainNext⟩

/-- The descriptors placed between `w` and `w'`, in order. -/
def shipped (w w' : World n ξ) : List SentDesc :=
  (newest (placements w'.hist) (placements w.hist)).reverse.map
    (.ofPlacement (newest w'.trace w.trace))

/-- What a run sent. -/
def sent (m : Harness n ξ α) (w : World n ξ) : List SentDesc := shipped w (m.run w).2

/-- What is staged for one descriptor. -/
structure Load where
  bytes : List UInt8
  len : UInt32
  deviceWritable : Bool
  deriving DecidableEq

/-- The first `len` of the bytes. -/
def Load.ofBytes (bytes : List UInt8) (len : UInt32) (deviceWritable : Bool) : Load :=
  ⟨bytes.take len.toNat, len, deviceWritable⟩

@[simp] theorem Load.ofBytes_len (bytes : List UInt8) (len : UInt32) (deviceWritable : Bool) :
    (ofBytes bytes len deviceWritable).len = len :=
  rfl

theorem Load.ofBytes_self {bytes : List UInt8} {len : UInt32} (h : bytes.length ≤ len.toNat)
    (deviceWritable : Bool) : ofBytes bytes len deviceWritable = ⟨bytes, len, deviceWritable⟩ := by
  rw [ofBytes, List.take_of_length_le h]

/-- The loads as one chain on queue `i`. -/
def chainOf (i : Nat) : List Load → List SentDesc
  | [] => []
  | l :: ls => ⟨i, l.bytes, l.len, l.deviceWritable, !ls.isEmpty⟩ :: chainOf i ls

structure Cargo where
  gpa : UInt64
  load : Load

namespace Cargo

def buf (c : Cargo) : Buf := ⟨c.gpa, c.load.len⟩

def piece (c : Cargo) : Piece := ⟨c.gpa, c.load.len, c.load.deviceWritable⟩

/-- The store that staged it; an empty buffer has none. -/
def stores (c : Cargo) : List Event :=
  if c.load.len ≠ 0 then [.memWrite c.gpa c.load.bytes] else []

end Cargo

theorem stage_trace (gpa : UInt64) (bytes : List UInt8) (len : UInt32) (deviceWritable : Bool)
    (w : World n ξ) :
    (w.stage gpa bytes len).trace =
      Cargo.stores ⟨gpa, .ofBytes bytes len deviceWritable⟩ ++ w.trace := by
  have hstores : Cargo.stores ⟨gpa, .ofBytes bytes len deviceWritable⟩ =
      if len ≠ 0 then [.memWrite gpa (bytes.take len.toNat)] else [] := rfl
  rw [hstores, World.stage]
  split
  · rfl
  · rfl

/-- Where the bump pointer is after allocations of these lengths. -/
def bumpAll (bufAlloc : UInt64) (lens : List UInt32) : UInt64 := lens.foldl bumpNext bufAlloc

private theorem bumpAll_concat (bufAlloc : UInt64) (lens : List UInt32) (len : UInt32) :
    bumpAll bufAlloc (lens ++ [len]) = bumpNext (bumpAll bufAlloc lens) len := by
  rw [bumpAll, List.foldl_append]
  rfl

/-- How many allocations of these lengths fit, one after another. -/
def fitCount (bufAlloc : UInt64) : List UInt32 → Nat
  | [] => 0
  | len :: lens =>
      if PoolFull bufAlloc len then 0 else fitCount (bumpNext bufAlloc len) lens + 1

theorem fitCount_append {bufAlloc : UInt64} {lens : List UInt32}
    (h : fitCount bufAlloc lens = lens.length) (more : List UInt32) :
    fitCount bufAlloc (lens ++ more) = lens.length + fitCount (bumpAll bufAlloc lens) more := by
  induction lens generalizing bufAlloc with
  | nil => exact (Nat.zero_add _).symm
  | cons len lens ih =>
      rw [fitCount] at h
      split at h
      · cases h
      · rename_i hfit
        rw [List.cons_append, fitCount, if_neg hfit, ih (Nat.succ.inj h), List.length_cons]
        change _ = lens.length + 1 + fitCount (bumpAll (bumpNext bufAlloc len) lens) more
        omega

/-- Since `w₀` the buffers `cs` were staged, and nothing else happened. -/
structure Loaded (w₀ : World n (Synth η)) (cs : List Cargo) (w : World n (Synth η)) : Prop where
  minted : Minted w₀ (cs.map Cargo.buf) w
  next : w.st.bufAlloc = bumpAll w₀.st.bufAlloc (cs.map fun c => c.load.len)
  trace : w.trace = cs.reverse.flatMap Cargo.stores ++ w₀.trace
  fits : ∀ c ∈ cs, c.load.bytes.length ≤ c.load.len.toNat
  room : fitCount w₀.st.bufAlloc (cs.map fun c => c.load.len) = cs.length
  apart : w₀.st.bufAlloc ≤ kBufPoolEnd → w.st.bufAlloc ≤ kBufPoolEnd ∧
    w₀.st.bufAlloc.toNat / 16 + cs.length ≤ w.st.bufAlloc.toNat / 16 ∧
      (∀ c ∈ cs, c.gpa < w.st.bufAlloc) ∧ (cs.map Cargo.gpa).Nodup

theorem Loaded.start (w₀ : World n (Synth η)) : Loaded w₀ [] w₀ where
  minted := Minted.start w₀
  next := rfl
  trace := rfl
  fits := by simp
  room := rfl
  apart h := ⟨h, by simp, by simp, List.nodup_nil⟩

theorem bumpNext_le_end {p : UInt64} {len : UInt32} (hp : p ≤ kBufPoolEnd)
    (hfit : ¬PoolFull p len) : bumpNext p len ≤ kBufPoolEnd := by
  have hroom := (not_poolFull_iff p len hp).mp hfit
  rw [UInt64.le_iff_toNat_le, bumpNext_toNat p len hp, kBufPoolEnd_toNat, kBufPoolEndNat]
  omega

/-- Every allocation moves the pointer into a later block of 16 bytes. -/
theorem bumpNext_block {p : UInt64} (len : UInt32) (hp : p ≤ kBufPoolEnd) :
    p.toNat / 16 + 1 ≤ (bumpNext p len).toNat / 16 := by
  rw [bumpNext_toNat p len hp]
  omega

section Loaded

variable {w₀ w : World n (Synth η)} {cs : List Cargo}

theorem Loaded.steps (h : Loaded w₀ cs w) : Steps stagingActs w₀ w := h.minted.steps

private theorem Loaded.apart_concat (h : Loaded w₀ cs w) (len : UInt32) {c : Cargo}
    (hc : c.gpa = w.st.bufAlloc) (h₀ : w₀.st.bufAlloc ≤ kBufPoolEnd) :
    w₀.st.bufAlloc.toNat / 16 + (cs ++ [c]).length ≤ (bumpNext w.st.bufAlloc len).toNat / 16 ∧
      (∀ d ∈ cs ++ [c], d.gpa < bumpNext w.st.bufAlloc len) ∧
        ((cs ++ [c]).map Cargo.gpa).Nodup := by
  obtain ⟨hle, hblock, hbelow, hnodup⟩ := h.apart h₀
  have hmore := bumpNext_block len hle
  have hlt : w.st.bufAlloc < bumpNext w.st.bufAlloc len := by
    rw [UInt64.lt_iff_toNat_lt]
    omega
  refine ⟨?_, ?_, ?_⟩
  · rw [List.length_append, List.length_singleton]
    omega
  · intro d hd
    rcases List.mem_append.mp hd with hold | hnew
    · exact UInt64.lt_trans (hbelow d hold) hlt
    · rw [List.mem_singleton.mp hnew, hc]
      exact hlt
  · rw [List.map_append, List.nodup_append]
    refine ⟨hnodup, by simp, ?_⟩
    rintro a ha b hb rfl
    obtain ⟨d, hd, rfl⟩ := List.mem_map.mp ha
    have hgpa : d.gpa = w.st.bufAlloc := by simpa [hc] using hb
    exact UInt64.lt_irrefl _ (hgpa ▸ hbelow d hd)

theorem Loaded.stage (h : Loaded w₀ cs w) (hfew : cs.length < 16) (bytes : List UInt8)
    {len : UInt32} (deviceWritable : Bool) (hfit : ¬PoolFull w.st.bufAlloc len) :
    ((allocBuf bytes len).run w).1 = mintedId w₀ cs.length ∧
      Loaded w₀ (cs ++ [⟨w.st.bufAlloc, Load.ofBytes bytes len deviceWritable⟩])
        ((allocBuf bytes len).run w).2 := by
  obtain ⟨hid, hminted⟩ := h.minted.stage (by simpa using hfew) bytes hfit
  rw [List.length_map] at hid
  have hnext : ((allocBuf bytes len).run w).2.st.bufAlloc = bumpNext w.st.bufAlloc len := by
    rw [allocBuf_fits bytes len w hfit]
    simp only [World.bindBuf, World.setExt, World.stage_st, World.bump]
  refine ⟨hid, ?_, ?_, ?_, ?_, ?_, ?_⟩
  · rw [List.map_append]
    exact hminted
  · rw [hnext, h.next, List.map_append, List.map_singleton, bumpAll_concat]
    rfl
  · have hstores : ((allocBuf bytes len).run w).2.trace =
        Cargo.stores ⟨w.st.bufAlloc, Load.ofBytes bytes len deviceWritable⟩ ++ w.trace := by
      rw [allocBuf_fits bytes len w hfit]
      exact stage_trace _ bytes len deviceWritable (w.bump len)
    rw [hstores, h.trace, List.reverse_append, List.flatMap_append, List.append_assoc]
    simp
  · intro c hc
    rcases List.mem_append.mp hc with hold | hnew
    · exact h.fits c hold
    · rw [List.mem_singleton.mp hnew]
      exact List.length_take_le _ _
  · have hroom : fitCount w₀.st.bufAlloc (cs.map fun c => c.load.len) =
        (cs.map fun c => c.load.len).length := by
      rw [h.room, List.length_map]
    rw [List.map_append, fitCount_append hroom, ← h.next]
    simp [fitCount, hfit]
  · intro h₀
    rw [hnext]
    exact ⟨bumpNext_le_end (h.apart h₀).1 hfit, h.apart_concat len rfl h₀⟩

theorem Loaded.names (h : Loaded w₀ cs w) (as : List Cargo) (c : Cargo) (bs : List Cargo)
    (hcs : cs = as ++ [c] ++ bs) : Names w (mintedId w₀ as.length) c.piece := by
  have hnames := h.minted.names (as.map Cargo.buf) c.buf (bs.map Cargo.buf) (by simp [hcs])
    c.load.deviceWritable
  rwa [List.length_map] at hnames

end Loaded

/-- How a submission on queue `i` ends that has buffers of the lengths `staged` to stage and would
send `loads`. -/
inductive Delivery (i : Fin n) (staged : List UInt32) (loads : List Load)
    (w w' : World n (Synth η)) : Prop
  | full (cs : List Cargo) (len : UInt32) (h : Loaded w cs w')
      (hstaged : (cs.map fun c => c.load.len) ++ [len] <+: staged)
      (hfull : PoolFull w'.st.bufAlloc len)
  | lost (cs : List Cargo) (h : Loaded w cs w') (j : Nat) (hcs : cs.length = j + 1)
      (hj : j < staged.length) (hzero : mintedId w j = 0)
  | published (v : World n (Synth η)) (cs ds : List Cargo) (h : Loaded w cs v)
      (hcs : (cs.map fun c => c.load.len) = staged) (hds : ∀ d ∈ ds, d ∈ cs)
      (hloads : ds.map Cargo.load = loads)
      (hend : w' = ((notify i).run (v.placeChain i (ds.map Cargo.piece))).2)

section Delivery

variable {i : Fin n} {staged : List UInt32} {loads : List Load} {w₀ w w' : World n (Synth η)}
  {cs : List Cargo}

/-- The submission goes on with one more staged buffer, or it is over. -/
theorem Loaded.thenAlloc {rest : UInt32 → Harness n (Synth η) Unit} (h : Loaded w₀ cs w)
    (hfew : cs.length < 16) (bytes : List UInt8) (len : UInt32) (deviceWritable : Bool)
    (hstaged : (cs.map fun c => c.load.len) ++ [len] <+: staged)
    (hrest : ∀ gpa w', mintedId w₀ cs.length ≠ 0 →
      Loaded w₀ (cs ++ [⟨gpa, Load.ofBytes bytes len deviceWritable⟩]) w' →
      Post (rest (mintedId w₀ cs.length)) (fun _ => Delivery i staged loads w₀) w') :
    Post (allocBuf bytes len >>= fun id => if id = 0 then pure () else rest id)
      (fun _ => Delivery i staged loads w₀) w := by
  rw [post_bind]
  by_cases hfull : PoolFull w.st.bufAlloc len
  · rw [Post, allocBuf_full bytes len w hfull]
    exact .full cs len h hstaged hfull
  · obtain ⟨hid, hmore⟩ := h.stage hfew bytes deviceWritable hfull
    rw [Post, hid]
    apply Post.ite
    · intro hzero
      have hlen := hstaged.length_le
      rw [List.length_append, List.length_map, List.length_singleton] at hlen
      exact .lost _ hmore cs.length (by simp) hlen hzero
    · intro hne
      exact hrest _ _ hne hmore

theorem Loaded.thenAllocIf {c : Prop} [Decidable c] {rest : UInt32 → Harness n (Synth η) Unit}
    (h : Loaded w₀ cs w) (hfew : cs.length < 16) (bytes : List UInt8) (len : UInt32)
    (deviceWritable : Bool)
    (hstaged : (cs.map fun c => c.load.len) ++ (if c then [len] else []) <+: staged)
    (hrest : ∀ id gpa w', (id ≠ 0 ↔ c) → (c → id = mintedId w₀ cs.length) →
      Loaded w₀ (cs ++ if c then [⟨gpa, Load.ofBytes bytes len deviceWritable⟩] else []) w' →
      Post (rest id) (fun _ => Delivery i staged loads w₀) w') :
    Post ((if c then allocBuf bytes len else pure 0) >>= fun id =>
        if c ∧ id = 0 then pure () else rest id)
      (fun _ => Delivery i staged loads w₀) w := by
  by_cases hc : c
  · simp only [hc, true_and, if_true] at hstaged hrest ⊢
    apply h.thenAlloc hfew bytes len deviceWritable hstaged
    intro gpa w' hne hmore
    exact hrest _ gpa w' (iff_of_true hne trivial) (fun _ => rfl) hmore
  · simp only [hc, false_and, if_false, List.append_nil] at hrest ⊢
    exact hrest 0 0 w (by simp) (by simp) h

private theorem Loaded.notify (h : Loaded w₀ cs w) (ds : List Cargo)
    (hcs : (cs.map fun c => c.load.len) = staged) (hds : ∀ d ∈ ds, d ∈ cs)
    (hloads : ds.map Cargo.load = loads) :
    Post (VirtioCrash.notify i) (fun _ => Delivery i staged loads w₀)
      (w.placeChain i (ds.map Cargo.piece)) :=
  .published w cs ds h hcs hds hloads rfl

variable {ds : List Cargo} {d d' : Cargo} {id id' : UInt32}

theorem Loaded.placeNext {f : UInt32 → Harness n (Synth η) α} {Q : α → World n (Synth η) → Prop}
    (hd : Names w id d.piece)
    (hf : ∀ r, Post (f r) Q (w.placeOpen i ((ds ++ [d]).map Cargo.piece))) :
    Post (placeBuf i id d.load.deviceWritable true >>= f) Q
      (w.placeOpen i (ds.map Cargo.piece)) := by
  apply Post.placeNext hd
  intro r
  have hf' := hf r
  rwa [List.map_append] at hf'

theorem Loaded.placeNextIf {f : UInt32 → Harness n (Synth η) α}
    {Q : α → World n (Synth η) → Prop} {c : Prop} [Decidable c] (hd : c → Names w id d.piece)
    (hf : ∀ r, Post (f r) Q (w.placeOpen i ((ds ++ if c then [d] else []).map Cargo.piece))) :
    Post ((if c then placeBuf i id d.load.deviceWritable true else pure 0) >>= f) Q
      (w.placeOpen i (ds.map Cargo.piece)) := by
  apply Post.placeNextIf hd
  intro r
  have hf' := hf r
  rw [List.map_append, apply_ite (List.map Cargo.piece)] at hf'
  exact hf'

theorem Loaded.placeLast (h : Loaded w₀ cs w) (hd : Names w id d.piece)
    (hcs : (cs.map fun c => c.load.len) = staged) (hds : ∀ e ∈ ds ++ [d], e ∈ cs)
    (hloads : (ds ++ [d]).map Cargo.load = loads) :
    Post (placeBuf i id d.load.deviceWritable false >>= fun _ => VirtioCrash.notify i)
      (fun _ => Delivery i staged loads w₀) (w.placeOpen i (ds.map Cargo.piece)) := by
  have hnotify := h.notify (i := i) (ds ++ [d]) hcs hds hloads
  rw [List.map_append, List.map_singleton] at hnotify
  exact Post.placeLast (p := d.piece) hd hnotify

theorem Loaded.placeTail {c : Prop} [Decidable c] (h : Loaded w₀ cs w) (hd : Names w id d.piece)
    (hd' : c → Names w id' d'.piece) (hcs : (cs.map fun c => c.load.len) = staged)
    (hds : ∀ e ∈ ds ++ [d] ++ (if c then [d'] else []), e ∈ cs)
    (hloads : (ds ++ [d] ++ if c then [d'] else []).map Cargo.load = loads) :
    Post (placeBuf i id d.load.deviceWritable (decide c) >>= fun _ =>
        (if c then placeBuf i id' d'.load.deviceWritable false else pure 0) >>= fun _ =>
          VirtioCrash.notify i)
      (fun _ => Delivery i staged loads w₀) (w.placeOpen i (ds.map Cargo.piece)) := by
  have hnotify := h.notify (i := i) _ hcs hds hloads
  rw [List.map_append, List.map_append, apply_ite (List.map Cargo.piece), List.map_singleton,
    List.map_singleton, List.map_nil] at hnotify
  exact Post.placeTail (p := d.piece) (q := d'.piece) hd hd' hnotify

theorem delivers_lone (i : Fin n) (bytes : List UInt8) (len : UInt32) (deviceWritable : Bool)
    (w : World n (Synth η)) :
    Post (allocBuf bytes len >>= fun id => if id = 0 then pure () else
        placeBuf i id deviceWritable false >>= fun _ => VirtioCrash.notify i)
      (fun _ => Delivery i [len] [.ofBytes bytes len deviceWritable] w) w := by
  apply (Loaded.start w).thenAlloc (by simp) bytes len deviceWritable ⟨_, rfl⟩
  intro gpa w1 _ h1
  have hbuf := h1.names [] ⟨gpa, .ofBytes bytes len deviceWritable⟩ [] rfl
  change Post _ _ (w1.placeOpen i ([].map Cargo.piece))
  apply h1.placeLast hbuf
  · rfl
  · exact fun e he => he
  · rfl

theorem delivers_reqResp (i : Fin n) (req resp : List UInt8) (reqLen respLen : UInt32)
    (w : World n (Synth η)) :
    Post (allocBuf req reqLen >>= fun reqId => if reqId = 0 then pure () else
        allocBuf resp respLen >>= fun respId => if respId = 0 then pure () else
          placeBuf i reqId false true >>= fun _ =>
            placeBuf i respId true false >>= fun _ => VirtioCrash.notify i)
      (fun _ => Delivery i [reqLen, respLen]
        [.ofBytes req reqLen false, .ofBytes resp respLen true] w) w := by
  apply (Loaded.start w).thenAlloc (by simp) req reqLen false ⟨_, rfl⟩
  intro reqGpa w1 _ h1
  apply h1.thenAlloc (by simp) resp respLen true ⟨_, rfl⟩
  intro respGpa w2 _ h2
  have hreq := h2.names [] ⟨reqGpa, .ofBytes req reqLen false⟩ _ rfl
  have hresp := h2.names [_] ⟨respGpa, .ofBytes resp respLen true⟩ [] rfl
  change Post _ _ (w2.placeOpen i ([].map Cargo.piece))
  apply Loaded.placeNext hreq
  intro _
  apply h2.placeLast hresp
  · rfl
  · exact fun e he => he
  · rfl

end Delivery

private theorem firstStored_append (addr : UInt64) (es es' : List Event) :
    firstStored addr (es ++ es') = (firstStored addr es').or (firstStored addr es) := by
  rw [firstStored, List.filterMap_append, List.getLast?_append]
  rfl

private theorem firstStored_cargo {cs : List Cargo} (hnodup : (cs.map Cargo.gpa).Nodup) {c : Cargo}
    (hc : c ∈ cs) (hlen : c.load.len ≠ 0) (es : List Event) :
    firstStored c.gpa (es ++ cs.reverse.flatMap Cargo.stores) = some c.load.bytes := by
  induction cs generalizing es with
  | nil => cases hc
  | cons d cs ih =>
      rw [List.map_cons, List.nodup_cons] at hnodup
      have hstores : (d :: cs).reverse.flatMap Cargo.stores =
          cs.reverse.flatMap Cargo.stores ++ d.stores := by
        simp
      rw [hstores, ← List.append_assoc, firstStored_append]
      rcases List.mem_cons.mp hc with rfl | hc'
      · rw [Cargo.stores, if_pos hlen]
        simp [firstStored]
      · have hne : d.gpa ≠ c.gpa := by
          intro he
          exact hnodup.1 (he ▸ List.mem_map_of_mem hc')
        have hnone : firstStored c.gpa d.stores = none := by
          rw [Cargo.stores]
          split
          · simp [firstStored, hne]
          · rfl
        rw [hnone, Option.none_or]
        exact ih hnodup.2 hc' es

section Shipped

variable {i : Fin n} {staged : List UInt32} {loads : List Load} {w w' : World n (Synth η)}

theorem shipped_of_placements_eq {w w' : World n ξ} (h : placements w'.hist = placements w.hist) :
    shipped w w' = [] := by
  have hnew := newest_append [] (placements w.hist)
  rw [List.nil_append] at hnew
  rw [shipped, h, hnew]
  rfl

private theorem chainPlacements_sent {es : List Event} (i : Nat) {ds : List Cargo}
    (hds : ∀ d ∈ ds, ((firstStored d.gpa es).getD []).take d.load.len.toNat = d.load.bytes) :
    (chainPlacements i (ds.map Cargo.piece)).map (SentDesc.ofPlacement es) =
      chainOf i (ds.map Cargo.load) := by
  induction ds with
  | nil => rfl
  | cons d ds ih =>
      have hd := hds d List.mem_cons_self
      have hrest := ih fun d' hd' => hds d' (List.mem_cons_of_mem d hd')
      simp only [List.map_cons, chainPlacements, chainOf, hrest, SentDesc.ofPlacement, Cargo.piece,
        hd, List.isEmpty_map]

theorem Loaded.shipped_placeChain {v : World n (Synth η)} {cs ds : List Cargo}
    (h : Loaded w cs v) (hroom : w.st.bufAlloc ≤ kBufPoolEnd) (hds : ∀ d ∈ ds, d ∈ cs) :
    shipped w ((VirtioCrash.notify i).run (v.placeChain i (ds.map Cargo.piece))).2 =
      chainOf i (ds.map Cargo.load) := by
  obtain ⟨-, -, -, hnodup⟩ := h.apart hroom
  obtain ⟨ring, hring, -⟩ := placeChain_trace i (ds.map Cargo.piece) v
  have htrace : ((VirtioCrash.notify i).run (v.placeChain i (ds.map Cargo.piece))).2.trace =
      (.flushEvents :: notifyEvent i :: ring ++ cs.reverse.flatMap Cargo.stores) ++ w.trace := by
    change .flushEvents :: notifyEvent i :: (v.placeChain i (ds.map Cargo.piece)).trace = _
    rw [hring, h.trace]
    simp
  have hplaced : placements ((VirtioCrash.notify i).run
      (v.placeChain i (ds.map Cargo.piece))).2.hist =
      (chainPlacements i (ds.map Cargo.piece)).reverse ++ placements w.hist := by
    rw [← h.steps.placements_eq (by decide), ← placements_placeChain]
    rfl
  rw [shipped, hplaced, htrace, newest_append, newest_append, List.reverse_reverse]
  apply chainPlacements_sent
  intro d hd
  by_cases hlen : d.load.len = 0
  · have hempty : d.load.bytes = [] := by
      have hfits := h.fits d (hds d hd)
      rw [hlen] at hfits
      exact List.length_eq_zero_iff.mp (Nat.le_zero.mp hfits)
    rw [hlen, hempty]
    exact List.take_zero
  · rw [firstStored_cargo hnodup (hds d hd) hlen, Option.getD_some]
    exact List.take_of_length_le (h.fits d (hds d hd))

private theorem Delivery.shipped (h : Delivery i staged loads w w')
    (hroom : w.st.bufAlloc ≤ kBufPoolEnd) :
    shipped w w' = [] ∨ shipped w w' = chainOf i loads := by
  cases h with
  | full cs len h hstaged hfull =>
      exact Or.inl (shipped_of_placements_eq (h.steps.placements_eq (by decide)))
  | lost cs h j hcs hj hzero =>
      exact Or.inl (shipped_of_placements_eq (h.steps.placements_eq (by decide)))
  | published v cs ds h hcs hds hloads hend =>
      right
      rw [hend, ← hloads]
      exact h.shipped_placeChain hroom hds

private theorem Delivery.outcome {chain : List Piece → Prop} (h : Delivery i staged loads w w')
    (hchain : ∀ ps, ps.map (fun p => (p.len, p.deviceWritable)) =
      loads.map (fun l => (l.len, l.deviceWritable)) → chain ps) : Outcome i chain w w' := by
  cases h with
  | full cs len h hstaged hfull => exact .dropped h.steps
  | lost cs h j hcs hj hzero => exact .dropped h.steps
  | published v cs ds h hcs hds hloads hend =>
      rw [hend]
      apply Outcome.notify h.steps
      apply hchain
      rw [← hloads, List.map_map, List.map_map]
      rfl

end Shipped

/-- A submission on queue `i` that checks for room for `room` descriptors and then delivers. -/
structure Sends (room : UInt32) (i : Fin n) (staged : List UInt32) (loads : List Load)
    (w w' : World n (Synth η)) : Prop where
  idle : ¬Ready room (w.st.vqs i) → w' = w
  delivery : Ready room (w.st.vqs i) → Delivery i staged loads w w'

section Sends

variable {room : UInt32} {i : Fin n} {staged : List UInt32} {loads : List Load}
  {w w' : World n (Synth η)}

theorem sends_guarded {k : State n (Synth η) → Harness n (Synth η) Unit}
    (hk : Ready room (w.st.vqs i) →
      Post (k w.st) (fun _ => Delivery i staged loads w) w) :
    Sends room i staged loads w ((getState >>= fun s => if (s.vqs i).size = 0 then pure () else
      if (s.vqs i).nextDescIdx + room ≥ (s.vqs i).size then pure () else k s).run w).2 where
  idle := guarded_not_ready () k
  delivery hready := by
    rw [run_bind, getState_run]
    dsimp only
    rw [if_neg hready.1, if_neg hready.2]
    exact hk hready

theorem Sends.outcome {chain : List Piece → Prop} (h : Sends room i staged loads w w')
    (hchain : ∀ ps, ps.map (fun p => (p.len, p.deviceWritable)) =
      loads.map (fun l => (l.len, l.deviceWritable)) → chain ps) : Outcome i chain w w' := by
  by_cases hready : Ready room (w.st.vqs i)
  · exact (h.delivery hready).outcome hchain
  · rw [h.idle hready]
    exact .dropped ReflTransGen.refl

theorem Sends.submitted {chain : List Piece → Prop} (h : Sends room i staged loads w w')
    (hchain : ∀ ps, ps.map (fun p => (p.len, p.deviceWritable)) =
      loads.map (fun l => (l.len, l.deviceWritable)) → chain ps)
    (hfew : ∀ ps, chain ps → ps ≠ [] ∧ ps.length ≤ room.toNat) : Submitted room i chain w w' where
  outcome := h.outcome hchain
  idle := h.idle
  few := hfew

theorem Sends.shipped (h : Sends room i staged loads w w') (hroom : w.st.bufAlloc ≤ kBufPoolEnd) :
    shipped w w' = [] ∨ shipped w w' = chainOf i loads := by
  by_cases hready : Ready room (w.st.vqs i)
  · exact (h.delivery hready).shipped hroom
  · rw [h.idle hready]
    exact Or.inl (shipped_of_placements_eq rfl)

theorem Sends.shipped_whole {buf : List UInt8}
    (h : Sends room i [UInt32.ofNat buf.length] [.ofBytes buf (UInt32.ofNat buf.length) false] w w')
    (hroom : w.st.bufAlloc ≤ kBufPoolEnd) (hlen : buf.length < 2 ^ 32) :
    VirtioCrash.shipped w w' = [] ∨ ∃ len : UInt32, len.toNat = buf.length ∧
      VirtioCrash.shipped w w' = [⟨i, buf, len, false, false⟩] := by
  have hnat : (UInt32.ofNat buf.length).toNat = buf.length := by
    rw [UInt32.toNat_ofNat', Nat.mod_eq_of_lt hlen]
  rcases h.shipped hroom with hnone | hone
  · exact Or.inl hnone
  · rw [Load.ofBytes_self (by rw [hnat])] at hone
    exact Or.inr ⟨_, hnat, hone⟩

end Sends

end VirtioCrash
