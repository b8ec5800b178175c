import VirtioCrash.Harness.AbsoluteWrite
import VirtioCrash.Harness.Ids
import VirtioCrash.Harness.Plain
import VirtioCrash.Harness.RingContents
import Mathlib.Data.List.Induction

/-!
# Messages

A message is the buffers of one submission. Either all of them fit, and they are staged one behind
the other and placed as one chain, or the first ones are staged and the queue is left as it is. A
device finds the buffers behind the descriptors.
-/

namespace VirtioCrash

open StateProgram Bytes SplitRing

variable {n : Nat} {ξ η α : Type}

/-- A descriptor with the bytes behind it. -/
def readLoad (m : ByteMemory) (d : Descriptor) : Load :=
  ⟨m.read d.addr d.len.toNat, d.len, d.writable⟩

/-- What a device reads that starts at the first entry of the ring and stops at its index. -/
def received (m : ByteMemory) (table avail : UInt64) (size : Nat) : List Load :=
  (availDescs m table avail size (ofLe (m.read (avail + 2) 2))).map (readLoad m)

/-- A buffer of a message, and whether more of the message is linked to it. -/
structure Part where
  load : Load
  more : Bool
  deriving DecidableEq

/-- The buffers of a message as one chain. -/
def partsOf : List Load → List Part
  | [] => []
  | l :: ls => ⟨l, !ls.isEmpty⟩ :: partsOf ls

def readPart (m : ByteMemory) (d : Descriptor) : Part := ⟨readLoad m d, d.hasNext⟩

/-- What is in the first `count` entries of the table. -/
def laidOut (m : ByteMemory) (table : UInt64) (count : Nat) : List Part :=
  (tableDescs m table count).map (readPart m)

/-- The lengths of the buffers. -/
def lensOf (ls : List Load) : List UInt32 := ls.map Load.len

/-- Queue `i` takes a message: it has room and the buffers fit the pool. -/
def Takes (room : UInt32) (i : Fin n) (ls : List Load) (w : World n ξ) : Prop :=
  Ready room (w.st.vqs i) ∧ fitCount w.st.bufAlloc (lensOf ls) = ls.length

instance (room : UInt32) (i : Fin n) (ls : List Load) (w : World n ξ) :
    Decidable (Takes room i ls w) :=
  inferInstanceAs (Decidable (_ ∧ _))

/-- Buffers that are staged from a bump pointer on. -/
def cargosAt : UInt64 → List Load → List Cargo
  | _, [] => []
  | p, l :: ls => ⟨p, l⟩ :: cargosAt (bumpNext p l.len) ls

def World.stageAll (ls : List Load) (w : World n (Synth η)) : World n (Synth η) :=
  ls.foldl (fun w l => ((allocBuf l.bytes l.len).run w).2) w

/-- The world after a message was sent. -/
def World.send (i : Fin n) (ls : List Load) (w : World n (Synth η)) : World n (Synth η) :=
  ((notify i).run
    ((w.stageAll ls).placeChain i ((cargosAt w.st.bufAlloc ls).map Cargo.piece))).2

/-- The world after a submission on a queue that has room: when a buffer does not fit, the ones
before it stay staged. -/
def World.delivered (i : Fin n) (ls : List Load) (w : World n (Synth η)) : World n (Synth η) :=
  if fitCount w.st.bufAlloc (lensOf ls) = ls.length then w.send i ls
  else w.stageAll (ls.take (fitCount w.st.bufAlloc (lensOf ls)))

/-- The world after a submission. -/
def World.submitted (room : UInt32) (i : Fin n) (ls : List Load) (w : World n (Synth η)) :
    World n (Synth η) :=
  if Ready room (w.st.vqs i) then w.delivered i ls else w

/-- Only the announced length of a buffer is staged, and all of it. -/
def Whole (ls : List Load) : Prop := ∀ l ∈ ls, l.bytes.length = l.len.toNat

theorem Load.ofBytes_length {bytes : List UInt8} {len : UInt32} (h : len.toNat ≤ bytes.length)
    (deviceWritable : Bool) : (ofBytes bytes len deviceWritable).bytes.length = len.toNat := by
  rw [ofBytes, List.length_take, Nat.min_eq_left h]

/-- All bytes as one buffer. -/
def Load.all (bytes : List UInt8) (deviceWritable : Bool) : Load :=
  .ofBytes bytes (UInt32.ofNat bytes.length) deviceWritable

theorem Load.all_eq {bytes : List UInt8} (h : bytes.length < 2 ^ 32) (deviceWritable : Bool) :
    Load.all bytes deviceWritable = ⟨bytes, UInt32.ofNat bytes.length, deviceWritable⟩ := by
  apply Load.ofBytes_self
  rw [UInt32.toNat_ofNat', Nat.mod_eq_of_lt h]

theorem Load.all_length {bytes : List UInt8} (h : bytes.length < 2 ^ 32) (deviceWritable : Bool) :
    (Load.all bytes deviceWritable).bytes.length = (Load.all bytes deviceWritable).len.toNat := by
  rw [Load.all_eq h, UInt32.toNat_ofNat', Nat.mod_eq_of_lt h]

@[simp] theorem lensOf_length (ls : List Load) : (lensOf ls).length = ls.length :=
  List.length_map _

private theorem lensOf_append (as bs : List Load) : lensOf (as ++ bs) = lensOf as ++ lensOf bs :=
  List.map_append

theorem fitCount_le (p : UInt64) (lens : List UInt32) : fitCount p lens ≤ lens.length := by
  induction lens generalizing p with
  | nil => exact Nat.le_refl 0
  | cons len lens ih =>
      rw [fitCount]
      split
      · exact Nat.zero_le _
      · exact Nat.succ_le_succ (ih _)

private theorem fitCount_concat_iff (p : UInt64) (lens : List UInt32) (len : UInt32) :
    fitCount p (lens ++ [len]) = lens.length + 1 ↔
      fitCount p lens = lens.length ∧ ¬PoolFull (bumpAll p lens) len := by
  induction lens generalizing p with
  | nil =>
      by_cases hfull : PoolFull p len
      · have hnone : fitCount p [len] = 0 := if_pos hfull
        rw [List.nil_append, hnone]
        exact ⟨fun h => absurd h (by simp), fun h => absurd hfull h.2⟩
      · have hone : fitCount p [len] = 1 := if_neg hfull
        rw [List.nil_append, hone]
        exact ⟨fun _ => ⟨rfl, hfull⟩, fun _ => rfl⟩
  | cons len' lens ih =>
      rw [List.cons_append, fitCount, fitCount]
      split
      · exact ⟨fun h => absurd h (by simp), fun h => absurd h.1 (by simp)⟩
      · rw [List.length_cons, Nat.add_right_cancel_iff, Nat.add_right_cancel_iff]
        exact ih _

private theorem fitCount_full {p : UInt64} {as : List Load} {l : Load} (bs : List Load)
    (has : fitCount p (lensOf as) = as.length) (hfull : PoolFull (bumpAll p (lensOf as)) l.len) :
    fitCount p (lensOf (as ++ l :: bs)) = as.length := by
  rw [lensOf_append, fitCount_append (has.trans (lensOf_length as).symm), lensOf_length]
  change as.length + fitCount _ (l.len :: lensOf bs) = _
  rw [fitCount, if_pos hfull, Nat.add_zero]

theorem fitCount_take (p : UInt64) (lens : List UInt32) :
    fitCount p (lens.take (fitCount p lens)) = fitCount p lens := by
  induction lens generalizing p with
  | nil => rfl
  | cons len lens ih =>
      by_cases hfull : PoolFull p len
      · rw [fitCount, if_pos hfull]
        rfl
      · have hcount : fitCount p (len :: lens) = fitCount (bumpNext p len) lens + 1 := if_neg hfull
        rw [hcount, List.take_succ_cons, fitCount, if_neg hfull, ih]

theorem cargosAt_append (p : UInt64) (as bs : List Load) :
    cargosAt p (as ++ bs) = cargosAt p as ++ cargosAt (bumpAll p (lensOf as)) bs := by
  induction as generalizing p with
  | nil => rfl
  | cons a as ih =>
      rw [List.cons_append, cargosAt, ih]
      rfl

private theorem cargosAt_concat (p : UInt64) (ls : List Load) (l : Load) :
    cargosAt p (ls ++ [l]) = cargosAt p ls ++ [⟨bumpAll p (lensOf ls), l⟩] :=
  cargosAt_append p ls [l]

theorem cargosAt_ite (p : UInt64) (c : Prop) [Decidable c] (l : Load) :
    cargosAt p (if c then [l] else []) = if c then [⟨p, l⟩] else [] := by
  split
  · rfl
  · rfl

theorem cargosAt_load (p : UInt64) (ls : List Load) : (cargosAt p ls).map Cargo.load = ls := by
  induction ls generalizing p with
  | nil => rfl
  | cons l ls ih => rw [cargosAt, List.map_cons, ih]

private theorem cargosAt_len (p : UInt64) (ls : List Load) :
    ((cargosAt p ls).map fun c => c.load.len) = lensOf ls := by
  induction ls generalizing p with
  | nil => rfl
  | cons l ls ih => rw [cargosAt, List.map_cons, ih, lensOf, lensOf, List.map_cons]

theorem cargosAt_length (p : UInt64) (ls : List Load) : (cargosAt p ls).length = ls.length := by
  have hlen := congrArg List.length (cargosAt_load p ls)
  rwa [List.length_map] at hlen

private theorem stageAll_concat (ls : List Load) (l : Load) (w : World n (Synth η)) :
    w.stageAll (ls ++ [l]) = ((allocBuf l.bytes l.len).run (w.stageAll ls)).2 :=
  List.foldl_append

private theorem allocBuf_take (bytes : List UInt8) (len : UInt32) :
    (allocBuf (bytes.take len.toNat) len : Harness n (Synth η) UInt32) = allocBuf bytes len := by
  simp only [allocBuf, List.take_take, Nat.min_self]

section Staging

variable {w : World n (Synth η)} {ls : List Load}

private theorem Loaded.bufAlloc_eq {p : UInt64} {v : World n (Synth η)}
    (h : Loaded w (cargosAt p ls) v) : v.st.bufAlloc = bumpAll w.st.bufAlloc (lensOf ls) := by
  rw [h.next, cargosAt_len]

theorem loaded_stageAll (hwhole : Whole ls) (hfew : ls.length ≤ 16)
    (hfit : fitCount w.st.bufAlloc (lensOf ls) = ls.length) :
    Loaded w (cargosAt w.st.bufAlloc ls) (w.stageAll ls) := by
  induction ls using List.reverseRecOn with
  | nil => exact Loaded.start w
  | append_singleton ls l ih =>
      rw [List.length_append, List.length_singleton] at hfew hfit
      rw [lensOf_append, ← lensOf_length ls] at hfit
      obtain ⟨hls, hl⟩ := (fitCount_concat_iff _ _ l.len).mp hfit
      rw [lensOf_length] at hls
      have hloaded := ih (fun l' hl' => hwhole l' (List.mem_append_left _ hl')) (by omega) hls
      rw [← hloaded.bufAlloc_eq] at hl
      have hmore := (hloaded.stage (by rw [cargosAt_length]; omega) l.bytes l.deviceWritable hl).2
      have hsame : Load.ofBytes l.bytes l.len l.deviceWritable = l :=
        Load.ofBytes_self (hwhole l (by simp)).le _
      rw [hsame, hloaded.bufAlloc_eq] at hmore
      rw [stageAll_concat, cargosAt_concat]
      exact hmore

end Staging

section Post

variable {w : World n (Synth η)} {as : List Load} {Q : Unit → World n (Synth η) → Prop}

/-- The buffers so far were staged from the bump pointer on. -/
def StagedFrom (w : World n (Synth η)) (as : List Load) : Prop :=
  Loaded w (cargosAt w.st.bufAlloc as) (w.stageAll as)

private theorem StagedFrom.fits (h : StagedFrom w as) :
    fitCount w.st.bufAlloc (lensOf as) = as.length := by
  have hroom := h.room
  rwa [cargosAt_len, cargosAt_length] at hroom

theorem StagedFrom.next {rest : UInt32 → Harness n (Synth η) Unit} (h : StagedFrom w as)
    {k : Nat} (hno : NoZero w k) (hk : as.length < k) (hfew : k ≤ 16) (bytes : List UInt8)
    (len : UInt32) (deviceWritable : Bool)
    (hfull : PoolFull (bumpAll w.st.bufAlloc (lensOf as)) len → Q () (w.stageAll as))
    (hrest : StagedFrom w (as ++ [.ofBytes bytes len deviceWritable]) →
      Post (rest (mintedId w as.length)) Q
        (w.stageAll (as ++ [.ofBytes bytes len deviceWritable]))) :
    Post (allocBuf bytes len >>= fun id => if id = 0 then pure () else rest id) Q
      (w.stageAll as) := by
  have hnext := Loaded.bufAlloc_eq h
  rw [post_bind]
  by_cases hpool : PoolFull (w.stageAll as).st.bufAlloc len
  · rw [Post, allocBuf_full bytes len _ hpool]
    exact hfull (hnext ▸ hpool)
  · obtain ⟨hid, hmore⟩ :=
      Loaded.stage h (by rw [cargosAt_length]; omega) bytes deviceWritable hpool
    rw [cargosAt_length] at hid
    have hworld : ((allocBuf bytes len).run (w.stageAll as)).2 =
        w.stageAll (as ++ [.ofBytes bytes len deviceWritable]) := by
      rw [stageAll_concat]
      change _ = ((allocBuf (bytes.take len.toNat) len).run _).2
      rw [allocBuf_take]
    rw [hnext, ← cargosAt_concat, hworld] at hmore
    rw [Post, hid, hworld, if_neg (hno _ hk)]
    exact hrest hmore

theorem StagedFrom.nextIf {c : Prop} [Decidable c] {rest : UInt32 → Harness n (Synth η) Unit}
    (h : StagedFrom w as) {k : Nat} (hno : NoZero w k) (hk : c → as.length < k) (hfew : k ≤ 16)
    (bytes : List UInt8) (len : UInt32) (deviceWritable : Bool)
    (hfull : c → PoolFull (bumpAll w.st.bufAlloc (lensOf as)) len → Q () (w.stageAll as))
    (hrest : ∀ id, (c → id = mintedId w as.length) →
      StagedFrom w (as ++ if c then [.ofBytes bytes len deviceWritable] else []) →
      Post (rest id) Q
        (w.stageAll (as ++ if c then [.ofBytes bytes len deviceWritable] else []))) :
    Post ((if c then allocBuf bytes len else pure 0) >>= fun id =>
      if c ∧ id = 0 then pure () else rest id) Q (w.stageAll as) := by
  by_cases hc : c
  · simp only [hc, true_and, if_true, forall_const] at hk hfull hrest ⊢
    exact h.next hno hk hfew bytes len deviceWritable hfull (hrest _ rfl)
  · simp only [hc, false_and, if_false, List.append_nil, false_implies, forall_const] at hrest ⊢
    exact hrest 0 h

theorem StagedFrom.start (w : World n (Synth η)) : StagedFrom w [] := Loaded.start w

theorem StagedFrom.names {ls : List Load} (h : StagedFrom w ls) (as : List Load) (l : Load)
    (bs : List Load) (hls : ls = as ++ l :: bs) :
    Names (w.stageAll ls) (mintedId w as.length)
      (Cargo.piece ⟨bumpAll w.st.bufAlloc (lensOf as), l⟩) := by
  have hsplit : cargosAt w.st.bufAlloc ls =
      cargosAt w.st.bufAlloc as ++ [⟨bumpAll w.st.bufAlloc (lensOf as), l⟩] ++
        cargosAt (bumpNext (bumpAll w.st.bufAlloc (lensOf as)) l.len) bs := by
    rw [hls, cargosAt_append, List.append_assoc]
    rfl
  have hnames := Loaded.names h _ _ _ hsplit
  rwa [cargosAt_length] at hnames

theorem delivered_full (i : Fin n) {ls : List Load} {l : Load} (bs : List Load)
    (hls : ls = as ++ l :: bs) (h : StagedFrom w as)
    (hfull : PoolFull (bumpAll w.st.bufAlloc (lensOf as)) l.len) :
    w.stageAll as = w.delivered i ls := by
  have hcount := fitCount_full bs h.fits hfull
  have hfew : as.length ≠ (as ++ l :: bs).length := by simp
  rw [World.delivered, hls, hcount, if_neg hfew, List.take_left]

theorem delivered_whole (i : Fin n) {ls : List Load} (h : StagedFrom w ls) :
    w.send i ls = w.delivered i ls := by
  rw [World.delivered, if_pos h.fits]

end Post

theorem delivered_lone (i : Fin n) (bytes : List UInt8) (len : UInt32) (deviceWritable : Bool)
    {w : World n (Synth η)} (hno : NoZero w 1) :
    Post (allocBuf bytes len >>= fun id => if id = 0 then pure () else
        placeBuf i id deviceWritable false >>= fun _ => notify i)
      (fun _ w' => w' = w.delivered i [.ofBytes bytes len deviceWritable]) w := by
  apply (StagedFrom.start w).next hno (by simp) (by omega) bytes len deviceWritable
  · exact fun hfull => delivered_full i [] rfl (.start w) hfull
  · intro h
    rw [List.nil_append] at h ⊢
    have hbuf : Names (w.stageAll [.ofBytes bytes len deviceWritable]) (mintedId w 0)
        ⟨w.st.bufAlloc, len, deviceWritable⟩ :=
      h.names [] (.ofBytes bytes len deviceWritable) [] rfl
    have hend := delivered_whole i h
    rw [World.send] at hend
    generalize w.stageAll [.ofBytes bytes len deviceWritable] = v at hbuf hend ⊢
    change Post _ _ (v.placeOpen i [])
    exact Post.placeLast (p := ⟨w.st.bufAlloc, len, deviceWritable⟩) hbuf hend

theorem delivered_reqResp (i : Fin n) (req resp : List UInt8) (reqLen respLen : UInt32)
    {w : World n (Synth η)} (hno : NoZero w 2) :
    Post (allocBuf req reqLen >>= fun reqId => if reqId = 0 then pure () else
        allocBuf resp respLen >>= fun respId => if respId = 0 then pure () else
          placeBuf i reqId false true >>= fun _ =>
            placeBuf i respId true false >>= fun _ => notify i)
      (fun _ w' => w' =
        w.delivered i [.ofBytes req reqLen false, .ofBytes resp respLen true]) w := by
  apply (StagedFrom.start w).next hno (by simp) (by omega) req reqLen false
  · exact fun hfull => delivered_full i _ rfl (.start w) hfull
  · intro h
    apply h.next hno (by simp) (by omega) resp respLen true
    · exact fun hfull => delivered_full i [] rfl h hfull
    · intro h
      rw [List.nil_append, List.singleton_append] at h ⊢
      have hreq : Names (w.stageAll [.ofBytes req reqLen false, .ofBytes resp respLen true])
          (mintedId w 0) ⟨w.st.bufAlloc, reqLen, false⟩ :=
        h.names [] (.ofBytes req reqLen false) _ rfl
      have hresp : Names (w.stageAll [.ofBytes req reqLen false, .ofBytes resp respLen true])
          (mintedId w 1) ⟨bumpNext w.st.bufAlloc reqLen, respLen, true⟩ :=
        h.names [.ofBytes req reqLen false] (.ofBytes resp respLen true) [] rfl
      have hend := delivered_whole i h
      rw [World.send] at hend
      generalize w.stageAll [.ofBytes req reqLen false, .ofBytes resp respLen true] = v
        at hreq hresp hend ⊢
      change Post _ _ (v.placeOpen i [])
      apply Post.placeNext (p := ⟨w.st.bufAlloc, reqLen, false⟩) hreq
      intro _
      exact Post.placeLast (p := ⟨bumpNext w.st.bufAlloc reqLen, respLen, true⟩) hresp hend

theorem submitted_guarded {room : UInt32} {i : Fin n} {ls : List Load} {w : World n (Synth η)}
    {k : State n (Synth η) → Harness n (Synth η) Unit}
    (hk : Ready room (w.st.vqs i) → Post (k w.st) (fun _ w' => w' = w.delivered i ls) w) :
    ((getState >>= fun s => if (s.vqs i).size = 0 then pure () else
      if (s.vqs i).nextDescIdx + room ≥ (s.vqs i).size then pure () else k s).run w).2 =
        w.submitted room i ls := by
  rw [World.submitted]
  split
  · rename_i hready
    rw [run_bind, getState_run]
    dsimp only
    rw [if_neg hready.1, if_neg hready.2]
    exact hk hready
  · rename_i hready
    exact guarded_not_ready () k hready

theorem submitBuf_take (i : Fin n) (bytes : List UInt8) (len : UInt32) (deviceWritable : Bool) :
    (Plain.submitBuf i bytes len deviceWritable : Harness n (Synth Unit) Unit) =
      Plain.submitBuf i (bytes.take len.toNat) len deviceWritable := by
  rw [Plain.submitBuf, Plain.submitBuf, allocBuf_take]

theorem submitted_submitBuf (i : Fin n) (bytes : List UInt8) (len : UInt32) (deviceWritable : Bool)
    {w : World n (Synth Unit)} (hno : NoZero w 1) :
    ((Plain.submitBuf i bytes len deviceWritable).run w).2 =
      w.submitted 1 i [.ofBytes bytes len deviceWritable] :=
  submitted_guarded fun _ => delivered_lone i bytes len deviceWritable hno

/-- The bytes of a staged buffer are where it is, below the bump pointer. -/
structure Holds (m : ByteMemory) (w : World n ξ) (c : Cargo) : Prop where
  above : (kBufPoolBase n).toNat ≤ c.gpa.toNat
  below : c.gpa.toNat + c.load.len.toNat ≤ w.st.bufAlloc.toNat
  bytes : (memoryAfter m w.trace).read c.gpa c.load.len.toNat = c.load.bytes

/-- On the way from `w` to `w'` the pool below the bump pointer is left alone. -/
structure KeepsStaged (w w' : World n ξ) : Prop where
  next : w.st.bufAlloc.toNat ≤ w'.st.bufAlloc.toNat
  stores : ∃ es, w'.trace = es ++ w.trace ∧
    ∀ e ∈ es, e.Avoids (kBufPoolBase n).toNat w.st.bufAlloc.toNat

theorem KeepsStaged.refl (w : World n ξ) : KeepsStaged w w :=
  ⟨Nat.le_refl _, [], rfl, by simp⟩

private theorem KeepsStaged.of_avoids {w w' : World n ξ} (es : List Event)
    (hnext : w'.st.bufAlloc = w.st.bufAlloc) (htrace : w'.trace = es ++ w.trace)
    (hes : ∀ e ∈ es, e.Avoids (kBufPoolBase n).toNat w.st.bufAlloc.toNat) : KeepsStaged w w' :=
  ⟨by rw [hnext], es, htrace, hes⟩

private theorem Event.Avoids.mono {e : Event} {lo hi hi' : Nat} (h : e.Avoids lo hi)
    (hle : hi' ≤ hi) : e.Avoids lo hi' := by
  cases e with
  | memWrite gpa data =>
      obtain ⟨hend, hout⟩ := h
      rw [Event.Avoids]
      omega
  | _ => trivial

theorem KeepsStaged.trans {w v w' : World n ξ} (h : KeepsStaged w v) (h' : KeepsStaged v w') :
    KeepsStaged w w' := by
  obtain ⟨hnext, es, htrace, hes⟩ := h
  obtain ⟨hnext', es', htrace', hes'⟩ := h'
  refine ⟨hnext.trans hnext', es' ++ es, by rw [htrace', htrace, List.append_assoc], ?_⟩
  intro e he
  rcases List.mem_append.mp he with he | he
  · exact (hes' e he).mono hnext
  · exact hes e he

theorem Holds.keep {m : ByteMemory} {w w' : World n ξ} {c : Cargo} (h : Holds m w c)
    (hkeep : KeepsStaged w w') : Holds m w' c where
  above := h.above
  below := h.below.trans hkeep.next
  bytes := by
    obtain ⟨es, htrace, hes⟩ := hkeep.stores
    rw [← h.bytes, htrace]
    apply List.map_congr_left
    intro j hj
    have hlt := List.mem_range.mp hj
    have hbelow := h.below
    have habove := h.above
    have hend := w.st.bufAlloc.toNat_lt
    have haddr : (c.gpa + UInt64.ofNat j).toNat = c.gpa.toNat + j := by
      rw [UInt64.toNat_add, UInt64.toNat_ofNat']
      omega
    exact memoryAfter_avoids m hes w.trace (by omega) (by omega)

private theorem holds_staged (m : ByteMemory) {l : Load} {w : World n (Synth η)}
    (hbytes : l.bytes.length = l.len.toNat) (hpool : PoolInv (kBufPoolBase n).toNat w)
    (hfit : ¬PoolFull w.st.bufAlloc l.len) :
    Holds m ((allocBuf l.bytes l.len).run w).2 ⟨w.st.bufAlloc, l⟩ := by
  have hroom := (not_poolFull_iff _ _ hpool.le_end).mp hfit
  have hnext := bumpNext_toNat w.st.bufAlloc l.len hpool.le_end
  rw [allocBuf_fits l.bytes l.len w hfit]
  refine ⟨hpool.packed.base_le, ?_, ?_⟩
  · change _ ≤ (World.stage _ _ _ _).st.bufAlloc.toNat
    rw [World.stage_st]
    change w.st.bufAlloc.toNat + l.len.toNat ≤ (bumpNext w.st.bufAlloc l.len).toNat
    omega
  · change (memoryAfter m (World.stage _ _ _ _).trace).read w.st.bufAlloc l.len.toNat = l.bytes
    rw [World.stage]
    split
    · have hsame := ByteMemory.read_write_same (memoryAfter m w.trace) w.st.bufAlloc l.bytes
        (by have := l.len.toNat_lt; omega)
      rw [hbytes] at hsame
      change ((memoryAfter m w.trace).write w.st.bufAlloc (l.bytes.take l.len.toNat)).read _ _ = _
      rw [List.take_of_length_le hbytes.le]
      exact hsame
    · rename_i hzero
      have hlen : l.len = 0 := not_not.mp hzero
      rw [hlen, UInt32.toNat_zero, List.length_eq_zero_iff] at hbytes
      rw [hlen, hbytes]
      rfl

private theorem keepsStaged_stage {w : World n ξ} {len : UInt32} (bytes : List UInt8)
    (hpool : PoolInv (kBufPoolBase n).toNat w) (hfit : ¬PoolFull w.st.bufAlloc len) :
    KeepsStaged w ((w.bump len).stage w.st.bufAlloc bytes len) := by
  have hroom := (not_poolFull_iff _ _ hpool.le_end).mp hfit
  have hnext := bumpNext_toNat w.st.bufAlloc len hpool.le_end
  constructor
  · rw [World.stage_st]
    change _ ≤ (bumpNext w.st.bufAlloc len).toNat
    omega
  · refine ⟨Cargo.stores ⟨w.st.bufAlloc, .ofBytes bytes len false⟩,
      stage_trace w.st.bufAlloc bytes len false (w.bump len), ?_⟩
    intro e he
    rw [Cargo.stores] at he
    split at he
    · rw [List.mem_singleton.mp he, Event.Avoids]
      have hshort := List.length_take_le len.toNat bytes
      change w.st.bufAlloc.toNat + (bytes.take len.toNat).length ≤ 2 ^ 64 ∧
        (_ ∨ w.st.bufAlloc.toNat ≤ w.st.bufAlloc.toNat)
      omega
    · cases he

private theorem keepsStaged_allocBuf (bytes : List UInt8) (len : UInt32) (w : World n (Synth η))
    (hpool : PoolInv (kBufPoolBase n).toNat w) :
    KeepsStaged w ((allocBuf bytes len).run w).2 := by
  by_cases hfull : PoolFull w.st.bufAlloc len
  · rw [allocBuf_full bytes len w hfull]
    exact .refl w
  · have hstage := keepsStaged_stage bytes hpool hfull
    rw [allocBuf_fits bytes len w hfull]
    exact ⟨hstage.next, hstage.stores⟩

theorem keepsStaged_opGuestMemWrite (bufId : UInt32) (data : List UInt8) (w : World n ξ)
    (hpool : PoolInv (kBufPoolBase n).toNat w) :
    KeepsStaged w ((opGuestMemWrite bufId data).run w).2 := by
  by_cases hfull : PoolFull w.st.bufAlloc (UInt32.ofNat (min data.length 4096))
  · have hidle : ((opGuestMemWrite bufId data).run w).2 = w := by
      rw [opGuestMemWrite, run_bind, getState_run]
      dsimp only
      rw [if_pos hfull]
      rfl
    rw [hidle]
    exact .refl w
  · have hstage := keepsStaged_stage data hpool hfull
    rw [opGuestMemWrite_fits bufId data w rfl hfull]
    exact ⟨hstage.next, hstage.stores⟩

/-- The rings are below the pool. -/
theorem keepsStaged_place {w : World n ξ} {i : Fin n} (hareas : InAreas i (w.st.vqs i))
    (hn : n ≤ 16) (hpos : (w.st.vqs i).size ≠ 0) (addr : UInt64) (len : UInt32)
    (deviceWritable chainNext : Bool) :
    KeepsStaged w (w.place i addr len deviceWritable chainNext) := by
  obtain ⟨hdesc, havail, -⟩ := resetVq_toNat (lt_of_lt_of_le i.isLt hn)
  have hsize := hareas.size
  have hi := i.isLt
  rw [← hareas.desc] at hdesc
  rw [← hareas.avail] at havail
  refine KeepsStaged.of_avoids _ rfl rfl
    (placeEvents_avoid addr len deviceWritable chainNext hpos ?_ ?_ (Or.inl ?_) (Or.inl ?_))
  · omega
  · omega
  · rw [kBufPoolBase_toNat hn]
    omega
  · rw [kBufPoolBase_toNat hn]
    omega

theorem Steps.keepsStaged {A : List Act} (hA : ∀ a ∈ A, a = .event ∨ a = .setSize)
    {w w' : World n ξ} (hs : Steps A w w') : KeepsStaged w w' := by
  apply hs.invariant (KeepsStaged w)
  · intro a ha v v' hstep hv
    apply hv.trans
    rcases hA a ha with rfl | rfl
    · cases hstep with
      | event e v he =>
          refine KeepsStaged.of_avoids [e] rfl rfl ?_
          intro e' he'
          rw [List.mem_singleton.mp he']
          exact e.avoids_of_silent he _ _
    · cases hstep with
      | setSize i requestedSize max v hmax =>
          exact KeepsStaged.of_avoids [] rfl rfl (by simp)
  · exact .refl w

theorem keepsStaged_opMemwriteAbsolute (gpa : UInt64) (data : List UInt8) (w : World n ξ)
    (hn : n ≤ 16)
    (habove : ∀ a ∈ clampGpa n gpa (UInt32.ofNat (min data.length 4096)), w.st.bufAlloc ≤ a) :
    KeepsStaged w ((opMemwriteAbsolute gpa data).run w).2 := by
  rw [opMemwriteAbsolute]
  split
  · exact .refl w
  · have hlen : (UInt32.ofNat (min data.length 4096)).toNat = min data.length 4096 := by
      rw [UInt32.toNat_ofNat']
      omega
    have hshort : (UInt32.ofNat (min data.length 4096)).toNat ≤ 4096 := by
      rw [hlen]
      omega
    obtain ⟨a, ha, haddr⟩ := clampGpa_eq hn gpa hshort
    have hge := UInt64.le_iff_toNat_le.mp (habove a ha)
    have hroom : (kBufPoolBase n).toNat + min data.length 4096 < kBufPoolEndNat := by
      rw [kBufPoolBase_toNat hn, kBufPoolEndNat]
      omega
    have hinside := clampedGpa_inside gpa.toNat hroom
    rw [hlen] at haddr
    rw [kBufPoolEndNat] at hinside
    simp only [ha]
    refine KeepsStaged.of_avoids
      [.memWrite a (data.take (UInt32.ofNat (min data.length 4096)).toNat)] rfl rfl ?_
    intro e he
    rw [List.mem_singleton.mp he, Event.Avoids, List.length_take, hlen]
    omega

theorem keepsStaged_placeChain {i : Fin n} (hn : n ≤ 16) (ps : List Piece) {w : World n ξ}
    (hareas : InAreas i (w.st.vqs i)) (hpos : (w.st.vqs i).size ≠ 0) :
    KeepsStaged w (w.placeChain i ps) := by
  induction ps generalizing w with
  | nil => exact .refl w
  | cons p ps ih =>
      have hq := place_vq i p.addr p.len p.deviceWritable (!ps.isEmpty) w
      refine (keepsStaged_place hareas hn hpos p.addr p.len p.deviceWritable (!ps.isEmpty)).trans
        (ih ?_ ?_)
      · rw [hq]
        exact ⟨hareas.desc, hareas.avail, hareas.size⟩
      · rw [hq]
        exact hpos

theorem holds_stageAll (m : ByteMemory) {w : World n (Synth η)} {ls : List Load}
    (hwhole : Whole ls) (hfit : fitCount w.st.bufAlloc (lensOf ls) = ls.length)
    (hfew : ls.length ≤ 16) (hpool : PoolInv (kBufPoolBase n).toNat w) :
    PoolInv (kBufPoolBase n).toNat (w.stageAll ls) ∧ KeepsStaged w (w.stageAll ls) ∧
      ∀ c ∈ cargosAt w.st.bufAlloc ls, Holds m (w.stageAll ls) c := by
  induction ls using List.reverseRecOn with
  | nil => exact ⟨hpool, .refl w, by simp [cargosAt]⟩
  | append_singleton ls l ih =>
      rw [List.length_append, List.length_singleton] at hfew hfit
      rw [lensOf_append, ← lensOf_length ls] at hfit
      obtain ⟨hls, hl⟩ := (fitCount_concat_iff _ _ l.len).mp hfit
      rw [lensOf_length] at hls
      have hold : Whole ls := fun l' hl' => hwhole l' (List.mem_append_left _ hl')
      obtain ⟨hpool', hkeep, hholds⟩ := ih hold hls (by omega)
      have hnext := (loaded_stageAll hold (by omega) hls).bufAlloc_eq
      rw [← hnext] at hl
      have hmore := keepsStaged_allocBuf l.bytes l.len _ hpool'
      rw [stageAll_concat]
      refine ⟨hpool'.steps (A := stagingActs) (within_allocBuf (by decide) (by decide) (by decide)
        (by decide) l.bytes l.len _), hkeep.trans hmore, ?_⟩
      intro c hc
      rw [cargosAt_concat] at hc
      rcases List.mem_append.mp hc with hc | hc
      · exact (hholds c hc).keep hmore
      · rw [List.mem_singleton.mp hc, ← hnext]
        exact holds_staged m (hwhole l (by simp)) hpool' hl

/-- A placement is the descriptor of a buffer that is still what was staged. -/
structure Carries (m : ByteMemory) (w : World n ξ) (p : Placement) (q : Part) : Prop where
  len : p.len = q.load.len
  deviceWritable : p.deviceWritable = q.load.deviceWritable
  more : p.chainNext = q.more
  holds : Holds m w ⟨p.addr, q.load⟩

theorem Carries.keep {m : ByteMemory} {w w' : World n ξ} {p : Placement} {q : Part}
    (h : Carries m w p q) (hkeep : KeepsStaged w w') : Carries m w' p q :=
  ⟨h.len, h.deviceWritable, h.more, h.holds.keep hkeep⟩

theorem Carries.readPart {m : ByteMemory} {w : World n ξ} {p : Placement} {q : Part}
    (h : Carries m w p q) (size k : Nat) :
    VirtioCrash.readPart (memoryAfter m w.trace) (p.descriptor size k) = q := by
  have hwritable : (p.descriptor size k).writable = q.load.deviceWritable := by
    rw [← h.deviceWritable]
    change decide ((descFlags p.deviceWritable p.chainNext).toNat / 2 % 2 = 1) = _
    cases p.deviceWritable <;> cases p.chainNext <;> decide
  have hnext : (p.descriptor size k).hasNext = q.more := by
    rw [← h.more]
    change decide ((descFlags p.deviceWritable p.chainNext).toNat % 2 = 1) = _
    cases p.deviceWritable <;> cases p.chainNext <;> decide
  rw [VirtioCrash.readPart, readLoad, hwritable, hnext]
  change Part.mk ⟨(memoryAfter m w.trace).read p.addr p.len.toNat, p.len, _⟩ _ = q
  rw [h.len, h.holds.bytes]

/-- The placements of a staged message. -/
theorem carries_chain {m : ByteMemory} {w : World n ξ} (i : Nat) {cs : List Cargo}
    (h : ∀ c ∈ cs, Holds m w c) :
    List.Forall₂ (Carries m w) (chainPlacements i (cs.map Cargo.piece))
      (partsOf (cs.map Cargo.load)) := by
  induction cs with
  | nil => exact .nil
  | cons c cs ih =>
      refine .cons ⟨rfl, rfl, ?_, h c List.mem_cons_self⟩
        (ih fun c' hc' => h c' (List.mem_cons_of_mem c hc'))
      rw [List.isEmpty_map, List.isEmpty_map]

theorem queueLog_placeChain (i j : Fin n) (ps : List Piece) {w : World n ξ}
    (hpos : (w.st.vqs i).size ≠ 0) :
    queueLog j (w.placeChain i ps).hist =
      if j = i then (chainPlacements i ps).reverse ++ queueLog j w.hist
      else queueLog j w.hist := by
  induction ps generalizing w with
  | nil =>
      split
      · rfl
      · rfl
  | cons p ps ih =>
      have hq := place_vq i p.addr p.len p.deviceWritable (!ps.isEmpty) w
      rw [World.placeChain, ih (by rw [hq]; exact hpos),
        queueLog_place i j _ _ _ _ hpos]
      split
      · rw [chainPlacements, List.reverse_cons, List.append_assoc]
        rfl
      · rfl

end VirtioCrash
