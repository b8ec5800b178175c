import VirtioCrash.Lib.ByteMemory
import VirtioCrash.Qtest.LineServer

/-!
# The two ways of a qtest call

A call of the wrappers in `qtest_wrappers.c` either goes to the machine at once or, with
`FUZZ_SERIALIZE_QTEST`, through the text protocol to the server in the same process. A program that
makes such calls gets the same results either way and leaves the machine in the same state, as long
as the server answers its calls.
-/

namespace VirtioCrash.Qtest

open LineReader TextNumber Bytes

def Width.suffix : Width → Char
  | .byte => 'b'
  | .word => 'w'
  | .long => 'l'
  | .quad => 'q'

/-- `bswap16` and `bswap32`; a byte has no order. -/
def Width.bswap (w : Width) (v : Nat) : Nat := ofLe (leBytes w.bytes v).reverse

/-- The ports of a big-endian target swap their bytes. -/
def Width.portOrder (w : Width) (bigEndian : Bool) (v : Nat) : Nat :=
  if bigEndian then w.bswap (w.cut v) else w.cut v

inductive Call where
  | out (w : PortWidth) (addr : UInt16) (value : Nat)
  | inp (w : PortWidth) (addr : UInt16)
  | write (w : Width) (addr : UInt64) (value : Nat)
  | read (w : Width) (addr : UInt64)
  | memread (addr : UInt64) (size : Nat)
  | memwrite (addr : UInt64) (data : List UInt8)
  | memset (addr : UInt64) (patt : UInt8) (size : Nat)
  | bufread (addr : UInt64) (size : Nat)
  | bufwrite (addr : UInt64) (data : List UInt8)

inductive Result where
  | unit
  | num (n : Nat)
  | bytes (bs : List UInt8)
  deriving DecidableEq

variable {S M : Type}

/-- A call without the text protocol; words are stored with the low byte first. -/
def direct (mach : Machine M) : Call → M → Result × M
  | .out w addr value, m => (.unit, mach.portOut w addr (w.1.cut value) m)
  | .inp w addr, m =>
      let (v, m) := mach.portIn w addr m
      (.num v, m)
  | .write w addr value, m => (.unit, mach.spaceWrite addr (leBytes w.bytes value) m)
  | .read w addr, m =>
      let (bs, m) := mach.spaceRead addr w.bytes m
      (.num (ofLe bs), m)
  | .memread addr size, m =>
      let (bs, m) := mach.spaceRead addr size m
      (.bytes bs, m)
  | .memwrite addr data, m => (.unit, mach.spaceWrite addr data m)
  | .memset addr patt size, m => (.unit, mach.spaceWrite addr (List.replicate size patt) m)
  | .bufread addr size, m =>
      let (bs, m) := mach.spaceRead addr size m
      (.bytes bs, m)
  | .bufwrite addr data, m => (.unit, mach.spaceWrite addr data m)

/-- The texts a call sends, one after another. -/
def Call.texts (b64 : GBase64) (bigEndian : Bool) : Call → List (List Char)
  | .out w addr value =>
      [lineText [['o', 'u', 't', w.1.suffix], hex addr.toNat, hex (w.1.portOrder bigEndian value)]]
  | .inp w addr => [lineText [['i', 'n', w.1.suffix], hex addr.toNat]]
  | .write w addr value =>
      [lineText ["write".toList ++ [w.suffix], hex addr.toNat, hex (w.cut value)]]
  | .read w addr => [lineText ["read".toList ++ [w.suffix], hex addr.toNat]]
  | .memread addr size => [lineText ["read".toList, hex addr.toNat, hex size]]
  | .memwrite addr data =>
      [lineText ["write".toList, hex addr.toNat, hex data.length, '0' :: 'x' :: hexBytes data]]
  | .memset addr patt size =>
      [lineText ["memset".toList, hex addr.toNat, hex size, '0' :: 'x' :: hexByte patt]]
  | .bufread addr size => [lineText ["b64read".toList, hex addr.toNat, hex size]]
  | .bufwrite addr data =>
      [joinWords ["b64write".toList, hex addr.toNat, hex data.length] ++ [' '], b64.encode data,
        ['\n']]

def Call.expectedArgs : Call → Nat
  | .inp _ _ => 2
  | .read _ _ => 2
  | .memread _ _ => 2
  | .bufread _ _ => 2
  | _ => 0

/-- `qemu_strtou64` of a whole word; a negative number wraps around. -/
def strtou64 (word : List Char) : Option Nat :=
  (integer? word).bind fun v =>
    if -2 ^ 64 < v ∧ v < 2 ^ 64 then some (v % 2 ^ 64).toNat else none

/-- What the caller gets for the words of the response. -/
def Call.result (b64 : GBase64) (bigEndian : Bool) : Call → List (List Char) → Option Result
  | .inp w _, words => do
      let v ← strtou64 (← words[1]?)
      if v < 2 ^ 32 then return .num (w.1.portOrder bigEndian v) else none
  | .read w _, words => do
      let v ← strtou64 (← words[1]?)
      return .num (w.cut v)
  | .memread _ size, words => do
      let bs ← memreadBytes (← words[1]?) size
      return .bytes bs
  | .bufread _ size, words => do
      -- what is longer than the buffer is cut off
      let bs := b64.decode (← words[1]?)
      return .bytes (bs.take size)
  | _, _ => some .unit

/-- Calls that return before they send anything. -/
def Call.atOnce : Call → Option Result
  | .memread _ 0 => some (.bytes [])
  | .memwrite _ [] => some .unit
  | _ => none

/-- The `qtest_*_real` functions. -/
def real {σ : Type} (tr : Transport σ) (b64 : GBase64) (c : Call) (s : QTestState σ) :
    Except Stuck (Result × QTestState σ) :=
  match c.atOnce with
  | some r => .ok (r, s)
  | none => do
      let conn := (c.texts b64 s.bigEndian).foldl (fun conn text => tr.send text conn) s.conn
      let (words, s') ← rspArgs tr c.expectedArgs { s with conn }
      match c.result b64 s.bigEndian words with
      | some r => .ok (r, s')
      | none => .error .dies

/-- The wrappers. -/
def wrapped (sv : Server S M) (mach : Machine M) (b64 : GBase64) (serialize : Bool) (c : Call)
    (s : QTestState (Inproc S)) : Except Stuck (Result × QTestState (Inproc S)) :=
  if !serialize then
    let (r, m) := direct mach c (sv.machine s.conn.server)
    .ok (r, { s with conn := { s.conn with server := sv.withMachine s.conn.server m } })
  else real (inprocTransport sv.receive) b64 c s

/-- A program that makes calls and goes on as their results say. -/
inductive Prog (β : Type) where
  | ret (b : β)
  | call (c : Call) (k : Result → Prog β)

def Prog.run {β σ : Type} (step : Call → σ → Except Stuck (Result × σ)) :
    Prog β → σ → Except Stuck (β × σ)
  | .ret b, s => .ok (b, s)
  | .call c k, s => do
      let (r, s) ← step c s
      (k r).run step s

/-- Sizes and lengths fit into a `size_t`, and what goes through base64 is at least one byte. -/
def Call.Sized : Call → Prop
  | .memread _ size => size < 2 ^ 64
  | .memwrite _ data => data.length < 2 ^ 64
  | .memset _ _ size => size < 2 ^ 64
  | .bufread _ size => 0 < size ∧ size < 2 ^ 64
  | .bufwrite _ data => data ≠ [] ∧ data.length < 2 ^ 64
  | _ => True

/-- So are all the calls that a program comes to make. -/
def Prog.Sized {β : Type} (mach : Machine M) : Prog β → M → Prop
  | .ret _, _ => True
  | .call c k, m => c.Sized ∧ (k (direct mach c m).1).Sized mach (direct mach c m).2

/-- The request of a call. -/
def Call.request : Call → Request
  | .out w addr value => .out w addr.toNat (w.1.cut value)
  | .inp w addr => .inp w addr.toNat
  | .write w addr value => .write w addr.toNat (w.cut value)
  | .read w addr => .read w addr.toNat
  | .memread addr size => .memread addr.toNat size
  | .memwrite addr data => .memwrite addr.toNat data
  | .memset addr patt size => .memset addr.toNat size patt.toNat
  | .bufread addr size => .b64read addr.toNat size
  | .bufwrite addr data => .b64write addr.toNat data

private theorem numeral_hexByte (b : UInt8) : Numeral ('0' :: 'x' :: hexByte b) b.toNat := by
  have hall : ∀ k : Fin 256, [Nat.digitChar (k / 16), Nat.digitChar (k % 16)] =
      List.replicate (if (k : Nat) < 16 then 1 else 0) '0' ++ Nat.toDigits 16 k := by
    decide +kernel
  have hb : hexByte b = _ := hall ⟨b.toNat, b.toNat_lt⟩
  rw [hb]
  exact .hex _ _ (lt_trans b.toNat_lt (by decide))

private theorem HexPairs.eq_hexBytes {cs : List Char} {bs : List UInt8} (h : HexPairs cs bs) :
    cs = hexBytes bs := by
  induction h with
  | nil => rfl
  | @cons hi lo cs bs h ih =>
      have hall : ∀ hi lo : Fin 16,
          hexByte (UInt8.ofNat (16 * hi + lo)) = [Nat.digitChar hi, Nat.digitChar lo] := by
        decide +kernel
      rw [hexBytes, List.flatMap_cons, hall, ← hexBytes, ← ih]
      rfl

private theorem portVerb_eq (w : PortWidth) :
    ['o', 'u', 't', w.1.suffix] = outVerb w ∧ ['i', 'n', w.1.suffix] = inVerb w := by
  obtain ⟨w, hw⟩ := w
  cases w with
  | quad => exact absurd rfl hw
  | _ => exact ⟨rfl, rfl⟩

private theorem spaceVerb_eq (w : Width) :
    "write".toList ++ [w.suffix] = writeVerb w ∧ "read".toList ++ [w.suffix] = readVerb w := by
  cases w <;> exact ⟨rfl, rfl⟩

private theorem Width.cut_lt (w : Width) (v : Nat) : w.cut v < 2 ^ 64 := by
  have hlt : w.cut v < 256 ^ w.bytes := Nat.mod_lt v (Nat.pow_pos (by decide))
  exact lt_of_lt_of_le hlt (by cases w <;> decide)

private theorem lineText_ne_nil (words : List (List Char)) : lineText words ≠ [] :=
  List.append_ne_nil_of_right_ne_nil _ (List.cons_ne_nil _ _)

private theorem spells_line {b64 : GBase64} {req : Request} {words : List (List Char)}
    (h : Spells b64 req words) : ∃ ws, Spells b64 req ws ∧
      [lineText words].flatten = lineText ws ∧ [] ∉ [lineText words] :=
  ⟨words, h, List.flatten_singleton, by simpa using (lineText_ne_nil words).symm⟩

private theorem texts_spell (b64 : GBase64) {c : Call} (hnow : c.atOnce = none) (hsized : c.Sized) :
    ∃ words, Spells b64 c.request words ∧ (c.texts b64 false).flatten = lineText words ∧
      [] ∉ c.texts b64 false := by
  cases c with
  | out w addr value =>
      rw [Call.texts, (portVerb_eq w).1]
      exact spells_line (.out addr.toNat_lt (numeral_hex (by have := addr.toNat_lt; omega))
        (numeral_hex (w.1.cut_lt value)))
  | inp w addr =>
      rw [Call.texts, (portVerb_eq w).2]
      exact spells_line (.inp addr.toNat_lt (numeral_hex (by have := addr.toNat_lt; omega)))
  | write w addr value =>
      rw [Call.texts, (spaceVerb_eq w).1]
      exact spells_line (.write (numeral_hex addr.toNat_lt) (numeral_hex (w.cut_lt value)))
  | read w addr =>
      rw [Call.texts, (spaceVerb_eq w).2]
      exact spells_line (.read (numeral_hex addr.toNat_lt))
  | memread addr size =>
      cases size with
      | zero => cases hnow
      | succ size =>
          exact spells_line
            (.memread (Nat.succ_pos size) (numeral_hex addr.toNat_lt) (numeral_hex hsized))
  | memwrite addr data =>
      cases data with
      | nil => cases hnow
      | cons b data =>
          exact spells_line (.memwrite (List.cons_ne_nil b data) (numeral_hex addr.toNat_lt)
            (numeral_hex hsized) (hexPairs_hexBytes _))
  | memset addr patt size =>
      exact spells_line (.memset patt.toNat_lt (numeral_hex addr.toNat_lt) (numeral_hex hsized)
        (numeral_hexByte patt))
  | bufread addr size =>
      exact spells_line
        (.b64read hsized.1 (numeral_hex addr.toNat_lt) (numeral_hex hsized.2))
  | bufwrite addr data =>
      refine ⟨_, .b64write hsized.1 (numeral_hex addr.toNat_lt) (numeral_hex hsized.2), ?_, ?_⟩
      · simp [Call.texts, lineText, joinWords]
      · have hne := b64.ne_nil data hsized.1
        simp [Call.texts, hne.symm]

private theorem Numeral.strtou64 {w : List Char} {n : Nat} (h : Numeral w n) :
    strtou64 w = some n := by
  have hread : integer? w = some (n : Int) ∧ n < 2 ^ 64 := by
    cases h with
    | decimal _ h => exact ⟨integer_decimal n, h⟩
    | hex zeros _ h => exact ⟨integer_padded zeros n, h⟩
  rw [Qtest.strtou64, hread.1, Option.bind_some, if_pos (by omega)]
  congr 1
  omega

private theorem Width.narrow {w : Width} (hw : w ≠ .quad) : 256 ^ w.bytes ≤ 2 ^ 32 := by
  cases w with
  | quad => exact absurd rfl hw
  | byte => decide
  | word => decide
  | long => decide

private theorem Width.cut_of_lt {w : Width} {v : Nat} (h : v < 256 ^ w.bytes) : w.cut v = v :=
  Nat.mod_eq_of_lt h

private theorem Width.leBytes_cut (w : Width) (v : Nat) :
    leBytes w.bytes (w.cut v) = leBytes w.bytes v := by
  apply ofLe_injective
  · rw [leBytes_length, leBytes_length]
  · rw [ofLe_leBytes, ofLe_leBytes, Width.cut, Nat.mod_mod]

/-- The server does for the request of a call what the call does, and its reply is read as the
result. -/
private theorem perform_request (mach : Machine M) (b64 : GBase64) (c : Call) (m : M) :
    (perform mach c.request m).2 = (direct mach c m).2 ∧
      ∀ args, Replies b64 (perform mach c.request m).1 args →
        c.expectedArgs ≤ args.length + 1 ∧
          c.result b64 false (kOk :: args) = some (direct mach c m).1 := by
  cases c with
  | out w addr value =>
      refine ⟨?_, fun args _ => ⟨Nat.zero_le _, rfl⟩⟩
      simp only [Call.request, perform, direct, UInt16.ofNat_toNat, Width.cut, Nat.mod_mod]
  | inp w addr =>
      simp only [Call.request, perform, direct, UInt16.ofNat_toNat]
      refine ⟨trivial, ?_⟩
      rintro _ ⟨⟩
      rename_i word hword
      have hlt := mach.portIn_lt w addr m
      refine ⟨Nat.le_refl 2, ?_⟩
      simp only [Call.result]
      change (strtou64 word).bind _ = _
      rw [hword.strtou64, Option.bind_some, if_pos (lt_of_lt_of_le hlt (Width.narrow w.2)),
        Width.portOrder, if_neg Bool.false_ne_true, Width.cut_of_lt hlt]
      rfl
  | write w addr value =>
      refine ⟨?_, fun args _ => ⟨Nat.zero_le _, rfl⟩⟩
      simp only [Call.request, perform, direct, UInt64.ofNat_toNat, Width.leBytes_cut]
  | read w addr =>
      simp only [Call.request, perform, direct, UInt64.ofNat_toNat]
      refine ⟨trivial, ?_⟩
      rintro _ ⟨⟩
      rename_i word hword
      have hlt := ofLe_lt (mach.spaceRead addr w.bytes m).1
      rw [mach.spaceRead_length] at hlt
      refine ⟨Nat.le_refl 2, ?_⟩
      simp only [Call.result]
      change (strtou64 word).bind _ = _
      rw [hword.strtou64, Option.bind_some, Width.cut_of_lt hlt]
      rfl
  | memread addr size =>
      simp only [Call.request, perform, direct, UInt64.ofNat_toNat]
      refine ⟨trivial, ?_⟩
      rintro _ ⟨⟩
      rename_i cs hcs
      have hread := memreadBytes_hexBytes (mach.spaceRead addr size m).1 []
      rw [mach.spaceRead_length, List.append_nil, ← hcs.eq_hexBytes] at hread
      refine ⟨Nat.le_refl 2, ?_⟩
      simp only [Call.result]
      change (memreadBytes ('0' :: 'x' :: cs) size).bind _ = _
      rw [hread]
      rfl
  | memwrite addr data =>
      refine ⟨?_, fun args _ => ⟨Nat.zero_le _, rfl⟩⟩
      simp only [Call.request, perform, direct, UInt64.ofNat_toNat]
  | memset addr patt size =>
      refine ⟨?_, fun args _ => ⟨Nat.zero_le _, rfl⟩⟩
      simp only [Call.request, perform, direct, UInt64.ofNat_toNat, UInt8.ofNat_toNat]
  | bufread addr size =>
      simp only [Call.request, perform, direct, UInt64.ofNat_toNat]
      refine ⟨trivial, ?_⟩
      rintro _ ⟨⟩
      refine ⟨Nat.le_refl 2, ?_⟩
      change some (Result.bytes ((b64.decode (b64.encode _)).take size)) = _
      rw [b64.decode_encode, List.take_of_length_le (mach.spaceRead_length addr size m).le]
  | bufwrite addr data =>
      refine ⟨?_, fun args _ => ⟨Nat.zero_le _, rfl⟩⟩
      simp only [Call.request, perform, direct, UInt64.ofNat_toNat]

private theorem direct_atOnce (mach : Machine M) {c : Call} {r : Result} (h : c.atOnce = some r)
    (m : M) : direct mach c m = (r, m) := by
  cases c with
  | memread addr size =>
      cases size with
      | zero =>
          cases h
          rw [direct, mach.spaceRead_zero]
      | succ size => cases h
  | memwrite addr data =>
      cases data with
      | nil =>
          cases h
          rw [direct, mach.spaceWrite_nil]
      | cons b data => cases h
  | _ => cases h

private theorem recv_foldl (texts : List (List Char)) (s : Inproc S) :
    (texts.foldl (fun s t => s.recv t) s).unread = s.unread ++ texts.flatten ∧
      (texts.foldl (fun s t => s.recv t) s).server = s.server := by
  induction texts generalizing s with
  | nil => exact ⟨(List.append_nil _).symm, rfl⟩
  | cons t texts ih =>
      obtain ⟨hunread, hserver⟩ := ih (s.recv t)
      refine ⟨?_, hserver⟩
      rw [List.foldl_cons, hunread, List.flatten_cons, ← List.append_assoc]
      rfl

private theorem inproc_reads {serve : S → List Char → S × List (List Char)} :
    (inprocTransport serve).Reads Inproc.unread Inproc.server where
  line {s line rest} h := by
    refine ⟨{ s with rx := some rest }, ?_, rfl, rfl⟩
    change clientInprocRecvLine s = _
    rw [Inproc.unread] at h
    rcases hrx : s.rx with _ | rx
    · rw [hrx] at h
      cases h
    · rw [hrx, Option.getD_some] at h
      rw [clientInprocRecvLine, hrx]
      dsimp only
      rw [h]
  none {s} h := by
    refine ⟨.dies, ?_⟩
    change clientInprocRecvLine s = _
    rw [Inproc.unread] at h
    rw [clientInprocRecvLine]
    rcases hrx : s.rx with _ | rx
    · rfl
    · rw [hrx, Option.getD_some] at h
      dsimp only
      rw [h]

private theorem send_texts (sv : Server S M) (texts : List (List Char)) (conn : Inproc S) :
    let conn' := texts.foldl (fun conn text => (inprocTransport sv.receive).send text conn) conn
    conn'.server = (sv.receiveAll texts conn.server).1 ∧
      conn'.unread = conn.unread ++ (sv.receiveAll texts conn.server).2.flatten := by
  induction texts generalizing conn with
  | nil => exact ⟨rfl, (List.append_nil _).symm⟩
  | cons text texts ih =>
      obtain ⟨hserver, hunread⟩ := ih ((inprocTransport sv.receive).send text conn)
      obtain ⟨hunread₁, hserver₁⟩ := recv_foldl (sv.receive conn.server text).2
        { conn with server := (sv.receive conn.server text).1, sent := conn.sent ++ text }
      change ((inprocTransport sv.receive).send text conn).unread = _ at hunread₁
      change ((inprocTransport sv.receive).send text conn).server = _ at hserver₁
      rw [hserver₁] at hserver hunread
      rw [hunread₁] at hunread
      refine ⟨hserver, ?_⟩
      rw [List.foldl_cons, hunread, List.append_assoc, ← List.flatten_append]
      rfl

section

variable {sv : Server S M} {mach : Machine M} {b64 : GBase64} {idle : S → Prop}

private theorem real_agrees (hserves : sv.Serves mach b64 idle) {c : Call} (hsized : c.Sized)
    {s : QTestState (Inproc S)} (hempty : s.conn.unread = []) (hlittle : s.bigEndian = false)
    (hidle : idle s.conn.server) :
    ∃ s', real (inprocTransport sv.receive) b64 c s =
        .ok ((direct mach c (sv.machine s.conn.server)).1, s') ∧
      sv.machine s'.conn.server = (direct mach c (sv.machine s.conn.server)).2 ∧
      s'.conn.unread = [] ∧ s'.bigEndian = false ∧ idle s'.conn.server := by
  rw [real, hlittle]
  rcases hnow : c.atOnce with _ | r
  · obtain ⟨words, hspells, hflat, hpieces⟩ := texts_spell b64 hnow hsized
    obtain ⟨hidle', hmachine, irqs, args, hreplies, htext⟩ :=
      hserves.answers c.request words hspells _ hflat hpieces s.conn.server hidle
    obtain ⟨hdirect, hresult⟩ := perform_request mach b64 c (sv.machine s.conn.server)
    obtain ⟨hexpected, hread⟩ := hresult args hreplies
    obtain ⟨hserver, hunread⟩ := send_texts sv (c.texts b64 false) s.conn
    rw [hempty, List.nil_append, htext, ← List.append_nil (Response.text _)] at hunread
    obtain ⟨conn, hrsp, hrest, hkeep⟩ := rspArgs_response (s := ⟨_, false, s.irqLevel⟩)
      (r := ⟨irqs, args⟩) inproc_reads ⟨hreplies.plain, hexpected⟩ hunread
    refine ⟨⟨conn, false, levelsAfter irqs s.irqLevel⟩, ?_, ?_, hrest, rfl, ?_⟩
    · dsimp only
      rw [hrsp]
      change (match c.result b64 false (kOk :: args) with
        | some r => _
        | none => _) = _
      rw [hread]
    · rw [hkeep, hserver, hmachine, hdirect]
    · rw [hkeep, hserver]
      exact hidle'
  · rw [direct_atOnce mach hnow]
    exact ⟨s, rfl, rfl, hempty, hlittle, hidle⟩

/-- The same program makes the same of the machine over the text protocol as without it. -/
theorem serialize_agrees {β : Type} (hserves : sv.Serves mach b64 idle) (p : Prog β)
    {s t : QTestState (Inproc S)} (hempty : s.conn.unread = []) (hlittle : s.bigEndian = false)
    (hidle : idle s.conn.server) (hsame : sv.machine t.conn.server = sv.machine s.conn.server)
    (hsized : p.Sized mach (sv.machine s.conn.server)) :
    ∃ b s' t', p.run (wrapped sv mach b64 true) s = .ok (b, s') ∧
      p.run (wrapped sv mach b64 false) t = .ok (b, t') ∧
      sv.machine t'.conn.server = sv.machine s'.conn.server ∧ s'.conn.unread = [] := by
  induction p generalizing s t with
  | ret b => exact ⟨b, s, t, rfl, rfl, hsame, hempty⟩
  | call c k ih =>
      obtain ⟨hc, hk⟩ := hsized
      obtain ⟨s₁, hreal, hmachine, hempty₁, hlittle₁, hidle₁⟩ :=
        real_agrees hserves hc hempty hlittle hidle
      let m := (direct mach c (sv.machine t.conn.server)).2
      let t₁ : QTestState (Inproc S) :=
        { t with conn := { t.conn with server := sv.withMachine t.conn.server m } }
      have hdirect : wrapped sv mach b64 false c t =
          .ok ((direct mach c (sv.machine s.conn.server)).1, t₁) := by
        rw [← hsame]
        rfl
      have hsame₁ : sv.machine t₁.conn.server = sv.machine s₁.conn.server := by
        rw [hmachine, ← hsame]
        exact sv.machine_withMachine t.conn.server m
      rw [← hmachine] at hk
      obtain ⟨b, s', t', hs', ht', hend, hempty'⟩ :=
        ih (direct mach c (sv.machine s.conn.server)).1 (s := s₁) (t := t₁) hempty₁ hlittle₁
          hidle₁ hsame₁ hk
      refine ⟨b, s', t', ?_, ?_, hend, hempty'⟩
      · rw [Prog.run]
        change (real (inprocTransport sv.receive) b64 c s >>= _) = _
        rw [hreal]
        exact hs'
      · rw [Prog.run, hdirect]
        exact ht'

end

/-- A machine that is only memory. -/
def ram : Machine ByteMemory where
  portOut _ _ _ m := m
  portIn _ _ m := (0, m)
  spaceWrite addr bs m := m.write addr bs
  spaceRead addr size m := (m.read addr size, m)
  portIn_lt _ _ _ := Nat.pow_pos (by decide)
  spaceRead_length addr size m := ByteMemory.read_length m addr size
  spaceRead_zero _ _ := rfl
  spaceWrite_nil _ _ := rfl

/-- A program that stores a word and a block and loads bytes of both. -/
def storeThenLoad : Prog Result :=
  .call (.write .word 0x40 0x2a1) fun _ =>
    .call (.bufwrite 0x42 [7, 8, 9]) fun _ =>
      .call (.bufread 0x41 3) .ret

/-- The state of a client that has received nothing yet. -/
def fresh (m : ByteMemory) : QTestState (Inproc (LineServer ByteMemory)) :=
  ⟨⟨none, ⟨m, []⟩, []⟩, false, fun _ => false⟩

theorem serialize_agrees_storeThenLoad :
    ∃ s t, storeThenLoad.run (wrapped (lineServer ram base64) ram base64 true) (fresh fun _ => 0) =
        .ok (.bytes [2, 7, 8], s) ∧
      storeThenLoad.run (wrapped (lineServer ram base64) ram base64 false) (fresh fun _ => 0) =
        .ok (.bytes [2, 7, 8], t) ∧
      t.conn.server.machine = s.conn.server.machine := by
  obtain ⟨b, s, t, htext, hdirect, hsame, -⟩ :=
    serialize_agrees (lineServer_serves ram base64) storeThenLoad (s := fresh fun _ => 0)
      (t := fresh fun _ => 0) rfl rfl rfl rfl
      ⟨trivial, ⟨by decide, by decide⟩, ⟨by decide, by decide⟩, trivial⟩
  have hresult : (storeThenLoad.run (wrapped (lineServer ram base64) ram base64 false)
      (fresh fun _ => 0)).toOption.map Prod.fst = some (.bytes [2, 7, 8]) := by decide +kernel
  rw [hdirect] at hresult
  cases hresult
  exact ⟨s, t, htext, hdirect, hsame⟩

end VirtioCrash.Qtest
