import VirtioCrash.Lib.Base64
import VirtioCrash.Qtest.MemoryText
import VirtioCrash.Qtest.Protocol

/-!
# A server for the protocol

The least a server has to do: it keeps what it receives until the line is whole, takes the line
apart, carries the request out on its machine and replies in one line. That is enough to serve the
protocol.
-/

namespace VirtioCrash.Qtest

open TextNumber Bytes

variable {M : Type}

def ports : List PortWidth := [⟨.byte, nofun⟩, ⟨.word, nofun⟩, ⟨.long, nofun⟩]

def widths : List Width := [.byte, .word, .long, .quad]

def hexData? : List Char → Option (List UInt8)
  | [] => some []
  | [_] => none
  | hi :: lo :: cs => do
      let hi ← digit? 16 hi
      let lo ← digit? 16 lo
      let bs ← hexData? cs
      return UInt8.ofNat (16 * hi + lo) :: bs

def parseRequest (b64 : GBase64) : List (List Char) → Option Request
  | [verb, a] => do
      let addr ← unsigned? a
      match ports.find? fun w => inVerb w = verb with
      | some w => return .inp w addr
      | none =>
          let w ← widths.find? fun w => readVerb w = verb
          return .read w addr
  | [verb, a, v] => do
      let addr ← unsigned? a
      let value ← unsigned? v
      if verb = "read".toList then return .memread addr value
      if verb = "b64read".toList then return .b64read addr value
      match ports.find? fun w => outVerb w = verb with
      | some w => return .out w addr value
      | none =>
          let w ← widths.find? fun w => writeVerb w = verb
          return .write w addr value
  | [verb, a, l, data] => do
      let addr ← unsigned? a
      let len ← unsigned? l
      if verb = "memset".toList then return .memset addr len (← unsigned? data)
      if verb = "b64write".toList then return .b64write addr (b64.decode data)
      if verb = "write".toList then return .memwrite addr (← hexData? (data.drop 2))
      none
  | _ => none

private theorem Numeral.unsigned {w : List Char} {n : Nat} (h : Numeral w n) :
    unsigned? w = some n := by
  cases h with
  | decimal _ h => exact unsigned_decimal n
  | hex zeros _ h => exact unsigned_padded zeros n

private theorem HexPairs.data {cs : List Char} {bs : List UInt8} (h : HexPairs cs bs) :
    hexData? cs = some bs := by
  induction h with
  | nil => rfl
  | cons hi lo h ih =>
      rw [hexData?, digit_digitChar (by decide) hi.isLt, digit_digitChar (by decide) lo.isLt, ih]
      rfl

private theorem parse_spells {b64 : GBase64} {req : Request} {words : List (List Char)}
    (h : Spells b64 req words) : parseRequest b64 words = some req := by
  cases h with
  | @out w addr value a v hport ha hv =>
      simp only [parseRequest, ha.unsigned, hv.unsigned]
      obtain ⟨w, hw⟩ := w
      cases w with
      | quad => exact absurd rfl hw
      | _ => rfl
  | @inp w addr a hport ha =>
      simp only [parseRequest, ha.unsigned]
      obtain ⟨w, hw⟩ := w
      cases w with
      | quad => exact absurd rfl hw
      | _ => rfl
  | @write w addr value a v ha hv =>
      simp only [parseRequest, ha.unsigned, hv.unsigned]
      cases w <;> rfl
  | @read w addr a ha =>
      simp only [parseRequest, ha.unsigned]
      cases w <;> rfl
  | memread hlen ha hl =>
      simp only [parseRequest, ha.unsigned, hl.unsigned]
      rfl
  | memwrite hdata ha hl hcs =>
      simp only [parseRequest, ha.unsigned, hl.unsigned, List.drop_succ_cons, List.drop_zero,
        hcs.data]
      rfl
  | memset hpatt ha hl hp =>
      simp only [parseRequest, ha.unsigned, hl.unsigned, hp.unsigned]
      rfl
  | b64read hlen ha hl =>
      simp only [parseRequest, ha.unsigned, hl.unsigned]
      rfl
  | b64write hdata ha hl =>
      simp only [parseRequest, ha.unsigned, hl.unsigned, b64.decode_encode]
      rfl

private theorem plainWord_verb {w : List Char} (h : (w.all fun c => decide ('0' ≤ c)) = true) :
    PlainWord w := by
  apply plainWord_of_mem
  intro c hc
  have hrange : '0' ≤ c := of_decide_eq_true (List.all_eq_true.mp h c hc)
  refine ⟨?_, ?_, ?_⟩
  · rintro rfl
    exact absurd hrange (by decide)
  · rintro rfl
    exact absurd hrange (by decide)
  · rintro rfl
    exact absurd hrange (by decide)

private theorem portVerb_plain (w : PortWidth) : PlainWord (outVerb w) ∧ PlainWord (inVerb w) := by
  obtain ⟨w, hw⟩ := w
  cases w with
  | quad => exact absurd rfl hw
  | _ => exact ⟨plainWord_verb rfl, plainWord_verb rfl⟩

private theorem spaceVerb_plain (w : Width) : PlainWord (writeVerb w) ∧ PlainWord (readVerb w) := by
  cases w <;> exact ⟨plainWord_verb rfl, plainWord_verb rfl⟩

private theorem Spells.plain {b64 : GBase64} {req : Request} {words : List (List Char)}
    (h : Spells b64 req words) : ∀ w ∈ words, PlainWord w := by
  cases h with
  | @out w _ _ _ _ hport ha hv =>
      exact List.forall_mem_cons.mpr ⟨(portVerb_plain w).1, by simp [ha.plain, hv.plain]⟩
  | @inp w _ _ hport ha =>
      exact List.forall_mem_cons.mpr ⟨(portVerb_plain w).2, by simp [ha.plain]⟩
  | @write w _ _ _ _ ha hv =>
      exact List.forall_mem_cons.mpr ⟨(spaceVerb_plain w).1, by simp [ha.plain, hv.plain]⟩
  | @read w _ _ ha =>
      exact List.forall_mem_cons.mpr ⟨(spaceVerb_plain w).2, by simp [ha.plain]⟩
  | memread hlen ha hl =>
      exact List.forall_mem_cons.mpr ⟨plainWord_verb rfl, by simp [ha.plain, hl.plain]⟩
  | memwrite hdata ha hl hcs =>
      exact List.forall_mem_cons.mpr ⟨plainWord_verb rfl, by
        simp [ha.plain, hl.plain, plainWord_hex hcs.plain]⟩
  | memset hpatt ha hl hp =>
      exact List.forall_mem_cons.mpr ⟨plainWord_verb rfl, by simp [ha.plain, hl.plain, hp.plain]⟩
  | b64read hlen ha hl =>
      exact List.forall_mem_cons.mpr ⟨plainWord_verb rfl, by simp [ha.plain, hl.plain]⟩
  | b64write hdata ha hl =>
      exact List.forall_mem_cons.mpr ⟨plainWord_verb rfl, by simp [ha.plain, hl.plain, b64.plain]⟩

private theorem Spells.joinWords_ne_nil {b64 : GBase64} {req : Request} {words : List (List Char)}
    (h : Spells b64 req words) : joinWords words ≠ [] := by
  cases h <;> simp [joinWords]

/-- The base64 of the standard alphabet. -/
def base64 : GBase64 where
  encode := Base64.encode
  decode := Base64.decode
  decode_encode := Base64.decode_encode
  plain bs := plainWord_of_mem (Base64.forall_mem_encode (by decide) (by decide) bs)
  ne_nil _ h := Base64.encode_ne_nil h

/-- The machine of a line server, and the part of a line that it has received. -/
structure LineServer (M : Type) where
  machine : M
  pending : List Char

theorem numeral_hex {n : Nat} (h : n < 2 ^ 64) : Numeral (hex n) n := .hex 0 n h

theorem hexPairs_hexBytes (data : List UInt8) : HexPairs (hexBytes data) data := by
  induction data with
  | nil => exact .nil
  | cons b data ih =>
      have hb := b.toNat_lt
      have hbyte : UInt8.ofNat (16 * (b.toNat / 16) + b.toNat % 16) = b := by
        rw [Nat.div_add_mod, UInt8.ofNat_toNat]
      have hcons := ih.cons ⟨b.toNat / 16, by omega⟩ ⟨b.toNat % 16, by omega⟩
      rw [hbyte] at hcons
      exact hcons

/-- The words of a reply. -/
def replyWords (b64 : GBase64) : Reply → List (List Char)
  | .done => []
  | .num n => [hex n]
  | .hexBytes bs => ['0' :: 'x' :: hexBytes bs]
  | .base64 bs => [b64.encode bs]

private theorem replies_replyWords (mach : Machine M) (b64 : GBase64) (req : Request) (m : M) :
    Replies b64 (perform mach req m).1 (replyWords b64 (perform mach req m).1) := by
  rcases hreply : (perform mach req m).1 with _ | n | bs | bs
  · exact .done
  · exact .num (numeral_hex (perform_num hreply))
  · exact .hexBytes (hexPairs_hexBytes bs)
  · exact .base64 bs

/-- What is done for a whole line. -/
def serveLine (mach : Machine M) (b64 : GBase64) (line : List Char) (m : M) :
    LineServer M × List (List Char) :=
  match parseRequest b64 (gStrsplit line) with
  | some req =>
      let (reply, m) := perform mach req m
      (⟨m, []⟩, [lineText (kOk :: replyWords b64 reply)])
  | none => (⟨m, []⟩, ["FAIL\n".toList])

def lineServer (mach : Machine M) (b64 : GBase64) : Server (LineServer M) M where
  receive s text :=
    let pending := s.pending ++ text
    if pending.getLast? = some '\n' then serveLine mach b64 pending.dropLast s.machine
    else ({ s with pending }, [])
  machine := LineServer.machine
  withMachine s m := { s with machine := m }
  machine_withMachine _ _ := rfl

private theorem receiveAll_line (mach : Machine M) (b64 : GBase64) {line : List Char}
    (hline : '\n' ∉ line) (m : M) :
    ∀ (pieces : List (List Char)) (pending : List Char), '\n' ∉ pending →
      [] ∉ pieces → pending ++ pieces.flatten = line ++ ['\n'] →
      (lineServer mach b64).receiveAll pieces ⟨m, pending⟩ = serveLine mach b64 line m
  | [], pending, hpending, _, hflat => by
      rw [List.flatten_nil, List.append_nil] at hflat
      exact absurd (by simp [hflat]) hpending
  | piece :: pieces, pending, hpending, hpieces, hflat => by
      rw [List.mem_cons, not_or] at hpieces
      rw [List.flatten_cons, ← List.append_assoc] at hflat
      rw [Server.receiveAll]
      by_cases hlast : pieces = []
      · subst hlast
        rw [List.flatten_nil, List.append_nil] at hflat
        have hserve : (lineServer mach b64).receive ⟨m, pending⟩ piece =
            serveLine mach b64 line m := by
          simp only [lineServer, hflat]
          rw [if_pos List.getLast?_concat, List.dropLast_concat]
        rw [hserve]
        exact Prod.ext rfl (List.append_nil _)
      · -- the line goes on, so its end is not among what has come
        have hmore : pieces.flatten ≠ [] := by
          intro hnil
          obtain ⟨next, hnext⟩ := List.exists_mem_of_ne_nil pieces hlast
          rw [List.flatten_eq_nil_iff.mp hnil next hnext] at hnext
          exact hpieces.2 hnext
        have hfront := congrArg List.dropLast hflat
        rw [List.dropLast_append_of_ne_nil hmore, List.dropLast_concat] at hfront
        have hnone : '\n' ∉ pending ++ piece := by
          intro hmem
          exact hline (hfront ▸ List.mem_append_left _ hmem)
        have hwait : (lineServer mach b64).receive ⟨m, pending⟩ piece =
            (⟨m, pending ++ piece⟩, []) := by
          simp only [lineServer]
          rw [if_neg fun h => hnone (List.mem_of_getLast? h)]
        rw [hwait]
        exact receiveAll_line mach b64 hline m pieces _ hnone hpieces.2 hflat

/-- The line server serves the protocol. -/
theorem lineServer_serves (mach : Machine M) (b64 : GBase64) :
    (lineServer mach b64).Serves mach b64 fun s => s.pending = [] where
  answers := by
    rintro req words hspells pieces hflat hpieces ⟨m, _⟩ rfl
    have hplain := hspells.plain
    have hline : '\n' ∉ joinWords words := by
      intro h
      obtain ⟨w, hw, hc⟩ := mem_joinWords (by decide) h
      exact (hplain w hw).2.1 hc
    have hserve : (lineServer mach b64).receiveAll pieces ⟨m, []⟩ =
        (⟨(perform mach req m).2, []⟩,
          [lineText (kOk :: replyWords b64 (perform mach req m).1)]) := by
      rw [receiveAll_line mach b64 hline m pieces [] List.not_mem_nil hpieces hflat, serveLine,
        gStrsplit_joinWords hplain hspells.joinWords_ne_nil, parse_spells hspells]
    rw [hserve]
    refine ⟨rfl, rfl, [], _, replies_replyWords mach b64 req m, ?_⟩
    exact List.flatten_singleton

end VirtioCrash.Qtest
