import VirtioCrash.Qtest.Client

/-!
# Sessions with a qtest server

A server answers each command with one response and may send lines about interrupts before it. In
every session each command gets its own response and no interrupt is lost, wherever the socket cuts
the text; a response that is cut off is never taken for a whole one.
-/

namespace VirtioCrash.Qtest

open LineReader TextNumber

/-- A word with nothing in it that ends words, lines or texts. -/
def PlainWord (w : List Char) : Prop := ' ' ∉ w ∧ '\n' ∉ w ∧ '\x00' ∉ w

def joinWords (words : List (List Char)) : List Char := [' '].intercalate words

def lineText (words : List (List Char)) : List Char := joinWords words ++ ['\n']

structure IrqLine where
  num : Fin kMaxIrq
  raised : Bool

def kLower : List Char := ['l', 'o', 'w', 'e', 'r']

def IrqLine.words (l : IrqLine) : List (List Char) :=
  [kIrq, if l.raised then kRaise else kLower, decimal l.num]

/-- The lines about interrupts and the response to one command. -/
structure Response where
  irqs : List IrqLine
  args : List (List Char)

def irqText (irqs : List IrqLine) : List Char := irqs.flatMap fun l => lineText l.words

def Response.text (r : Response) : List Char := irqText r.irqs ++ lineText (kOk :: r.args)

/-- The levels after some lines about interrupts. -/
def levelsAfter (irqs : List IrqLine) (level : Fin kMaxIrq → Bool) : Fin kMaxIrq → Bool :=
  irqs.foldl (fun level l => Function.update level l.num l.raised) level

theorem mem_joinWords {words : List (List Char)} {c : Char} (hc : c ≠ ' ')
    (h : c ∈ joinWords words) : ∃ w ∈ words, c ∈ w := by
  induction words with
  | nil => simp [joinWords] at h
  | cons w ws ih =>
      by_cases hws : ws = []
      · subst hws
        exact ⟨w, List.mem_cons_self, by simpa [joinWords] using h⟩
      · rw [joinWords, List.intercalate_cons_of_ne_nil hws, List.mem_append, List.mem_append,
          List.mem_singleton] at h
        rcases h with (hw | hsep) | hrest
        · exact ⟨w, List.mem_cons_self, hw⟩
        · exact absurd hsep hc
        · obtain ⟨w', hw', hcw⟩ := ih hrest
          exact ⟨w', List.mem_cons_of_mem w hw', hcw⟩

theorem gStrsplit_joinWords {words : List (List Char)} (hwords : ∀ w ∈ words, PlainWord w)
    (hne : joinWords words ≠ []) : gStrsplit (joinWords words) = words := by
  have hsome : words ≠ [] := by
    rintro rfl
    exact hne rfl
  rw [gStrsplit, if_neg hne]
  exact List.splitOn_intercalate ' ' (fun w hw => (hwords w hw).1) hsome

private theorem takeLine_lineText {words : List (List Char)} (hwords : ∀ w ∈ words, PlainWord w)
    (rest : List Char) :
    takeLine '\n' '\x00' (lineText words ++ rest) = some (joinWords words, rest) := by
  rw [lineText, List.append_assoc]
  apply takeLine_line
  · intro h
    obtain ⟨w, hw, hc⟩ := mem_joinWords (by decide) h
    exact (hwords w hw).2.1 hc
  · intro h
    obtain ⟨w, hw, hc⟩ := mem_joinWords (by decide) h
    exact (hwords w hw).2.2 hc
  · decide

theorem plainWord_decimal (n : Nat) : PlainWord (decimal n) := by
  have hdigit (c : Char) (hc : c ∈ decimal n) : c.isDigit = true :=
    Nat.isDigit_of_mem_toDigits (by decide) (by decide) hc
  refine ⟨fun h => ?_, fun h => ?_, fun h => ?_⟩
  · exact absurd (hdigit _ h) (by decide)
  · exact absurd (hdigit _ h) (by decide)
  · exact absurd (hdigit _ h) (by decide)

private theorem IrqLine.plain (l : IrqLine) : ∀ w ∈ l.words, PlainWord w := by
  have hkIrq : PlainWord kIrq := by unfold PlainWord; decide
  have hkRaise : PlainWord kRaise := by unfold PlainWord; decide
  have hkLower : PlainWord kLower := by unfold PlainWord; decide
  intro w hw
  simp only [words, List.mem_cons, List.not_mem_nil, or_false] at hw
  rcases hw with rfl | rfl | rfl
  · exact hkIrq
  · cases l.raised
    · exact hkLower
    · exact hkRaise
  · exact plainWord_decimal l.num

section

variable {σ : Type} {expectedArgs : Nat} {s : QTestState σ}

private theorem irqOf_words (l : IrqLine) :
    irqOf [if l.raised then kRaise else kLower, decimal l.num] = some (l.num, l.raised) := by
  have hdir : decide ((if l.raised then kRaise else kLower) = kRaise) = l.raised := by
    cases l.raised <;> decide
  rw [irqOf, integer_decimal, Option.bind_some, hdir]
  have hlt := l.num.isLt
  rw [dif_pos (by omega)]
  rfl

private theorem rspLine_irq (l : IrqLine) : rspLine expectedArgs s (joinWords l.words) =
    .redo (s.setIrq (l.num, l.raised)) := by
  rw [rspLine, gStrsplit_joinWords l.plain (by simp [IrqLine.words, joinWords, kIrq])]
  change (if kIrq = kIrq then _ else _) = _
  rw [if_pos rfl, irqOf_words]

private theorem rspLine_ok {args : List (List Char)} (hargs : ∀ w ∈ args, PlainWord w)
    (hexpected : expectedArgs ≤ args.length + 1) :
    rspLine expectedArgs s (joinWords (kOk :: args)) = .done (kOk :: args) s := by
  have hkOk : PlainWord kOk := by unfold PlainWord; decide
  have hplain : ∀ w ∈ kOk :: args, PlainWord w := List.forall_mem_cons.mpr ⟨hkOk, hargs⟩
  have hne : joinWords (kOk :: args) ≠ [] := by
    cases args <;> simp [joinWords, kOk]
  rw [rspLine, gStrsplit_joinWords hplain hne]
  dsimp only
  rw [if_neg (by decide), if_pos ⟨rfl, hexpected⟩]

end

/-- A transport that takes lines off the unread text and keeps the rest of its state. -/
structure Transport.Reads {σ L : Type} (tr : Transport σ) (unread : σ → List Char) (log : σ → L) :
    Prop where
  line : ∀ {s line rest}, takeLine '\n' '\x00' (unread s) = some (line, rest) →
    ∃ s', tr.recvLine s = .ok (line, s') ∧ unread s' = rest ∧ log s' = log s
  none : ∀ {s}, takeLine '\n' '\x00' (unread s) = none → ∃ e, tr.recvLine s = .error e

private theorem socket_reads : socketTransport.Reads Socket.unread Socket.sent where
  line {s line rest} h := by
    have hspec := clientSocketRecvLine_spec s
    rw [h] at hspec
    exact hspec
  none {s} h := by
    have hspec := clientSocketRecvLine_spec s
    rw [h] at hspec
    exact hspec

/-- The words of a response, and enough of them. -/
structure Response.Fits (r : Response) (expectedArgs : Nat) : Prop where
  plain : ∀ w ∈ r.args, PlainWord w
  enough : expectedArgs ≤ r.args.length + 1

section

variable {σ L : Type} {tr : Transport σ} {unread : σ → List Char} {log : σ → L}
  {expectedArgs : Nat} {s : QTestState σ} {r : Response} {rest : List Char}

/-- The client takes in all lines about interrupts and returns the response behind them. -/
theorem rspArgs_response (htr : tr.Reads unread log) (hr : r.Fits expectedArgs)
    (htext : unread s.conn = r.text ++ rest) :
    ∃ conn, rspArgs tr expectedArgs s =
        .ok (kOk :: r.args, ⟨conn, s.bigEndian, levelsAfter r.irqs s.irqLevel⟩) ∧
      unread conn = rest ∧ log conn = log s.conn := by
  rcases r with ⟨irqs, args⟩
  obtain ⟨hplain, henough⟩ := hr
  induction irqs generalizing s with
  | nil =>
      have hkOk : PlainWord kOk := by unfold PlainWord; decide
      have htake := takeLine_lineText (List.forall_mem_cons.mpr ⟨hkOk, hplain⟩) rest
      rw [Response.text, irqText, List.flatMap_nil, List.nil_append] at htext
      rw [← htext] at htake
      obtain ⟨conn, hline, hrest, hlog⟩ := htr.line htake
      exact ⟨conn, rspArgs_done hline (rspLine_ok hplain henough), hrest, hlog⟩
  | cons l irqs ih =>
      rw [Response.text, irqText, List.flatMap_cons, List.append_assoc, List.append_assoc] at htext
      have htake := takeLine_lineText l.plain (irqText irqs ++ (lineText (kOk :: args) ++ rest))
      rw [irqText, ← htext] at htake
      obtain ⟨conn, hline, hrest, hlog⟩ := htr.line htake
      rw [← List.append_assoc] at hrest
      obtain ⟨conn', hrsp, hrest', hlog'⟩ :=
        ih (s := { s with conn }.setIrq (l.num, l.raised)) hrest hplain henough
      exact ⟨conn', (rspArgs_redo hline (rspLine_irq l)).trans hrsp, hrest', hlog'.trans hlog⟩

private theorem rspArgs_none (htr : tr.Reads unread log)
    (h : takeLine '\n' '\x00' (unread s.conn) = none) :
    ∃ e, rspArgs tr expectedArgs s = .error e := by
  obtain ⟨e, he⟩ := htr.none h
  exact ⟨e, by rw [rspArgs, rspLoop, he]⟩

private theorem takeLine_cut {words : List (List Char)} {k : Nat} (hk : k < (lineText words).length)
    (hwords : ∀ w ∈ words, PlainWord w) :
    takeLine '\n' '\x00' ((lineText words).take k) = none := by
  rcases h : takeLine '\n' '\x00' ((lineText words).take k) with _ | ⟨line, rest'⟩
  · rfl
  · have hwhole := takeLine_append h ((lineText words).drop k)
    have hline := takeLine_lineText hwords []
    rw [List.append_nil] at hline
    rw [List.take_append_drop, hline] at hwhole
    have hnil := (Prod.mk.inj (Option.some.inj hwhole)).2
    have hlen := congrArg List.length hnil
    rw [List.length_append, List.length_drop, List.length_nil] at hlen
    omega

private theorem rspArgs_cut (htr : tr.Reads unread log) (hplain : ∀ w ∈ r.args, PlainWord w)
    {k : Nat} (hk : k < r.text.length) (htext : unread s.conn = r.text.take k) :
    ∃ e, rspArgs tr expectedArgs s = .error e := by
  rcases r with ⟨irqs, args⟩
  induction irqs generalizing s k with
  | nil =>
      have hkOk : PlainWord kOk := by unfold PlainWord; decide
      rw [Response.text, irqText, List.flatMap_nil, List.nil_append] at hk htext
      apply rspArgs_none htr
      rw [htext]
      exact takeLine_cut hk (List.forall_mem_cons.mpr ⟨hkOk, hplain⟩)
  | cons l irqs ih =>
      rw [Response.text, irqText, List.flatMap_cons, List.append_assoc] at hk htext
      rcases Nat.lt_or_ge k (lineText l.words).length with hshort | hlong
      · apply rspArgs_none htr
        rw [htext, List.take_append_of_le_length hshort.le]
        exact takeLine_cut hshort l.plain
      · rw [List.take_append, List.take_of_length_le hlong] at htext
        have htake := takeLine_lineText l.plain
          ((Response.text ⟨irqs, args⟩).take (k - (lineText l.words).length))
        rw [Response.text, irqText, ← htext] at htake
        obtain ⟨conn, hline, hrest, -⟩ := htr.line htake
        rw [List.length_append] at hk
        have hless : k - (lineText l.words).length < (Response.text ⟨irqs, args⟩).length := by
          change k < _ + (irqs.flatMap _ ++ lineText (kOk :: args)).length at hk
          change _ < (irqs.flatMap _ ++ lineText (kOk :: args)).length
          omega
        obtain ⟨e, he⟩ :=
          ih (s := { s with conn }.setIrq (l.num, l.raised)) hplain hless hrest
        exact ⟨e, (rspArgs_redo hline (rspLine_irq l)).trans he⟩

end

/-- A command and how many words its response should have. -/
structure Command where
  text : List Char
  expectedArgs : Nat

section

variable {σ : Type} (tr : Transport σ)

def call (c : Command) (s : QTestState σ) : Except Stuck (List (List Char) × QTestState σ) :=
  rspArgs tr c.expectedArgs { s with conn := tr.send c.text s.conn }

/-- Some commands, one after another, and the words of their responses. -/
def session : List Command → QTestState σ → Except Stuck (List (List (List Char)) × QTestState σ)
  | [], s => .ok ([], s)
  | c :: cs, s => do
      let (words, s) ← call tr c s
      let (rest, s) ← session cs s
      return (words :: rest, s)

end

/-- Commands with the responses a server sends to them. -/
abbrev Script := List (Command × Response)

namespace Script

def commands (sc : Script) : List Command := sc.map Prod.fst

/-- All the server sends. -/
def text (sc : Script) : List Char := sc.flatMap fun c => c.2.text

def irqs (sc : Script) : List IrqLine := sc.flatMap fun c => c.2.irqs

/-- All the client sends. -/
def asked (sc : Script) : List Char := sc.flatMap fun c => c.1.text

/-- The words of the responses. -/
def answers (sc : Script) : List (List (List Char)) := sc.map fun c => kOk :: c.2.args

end Script

private theorem levelsAfter_append (ls ls' : List IrqLine) (level : Fin kMaxIrq → Bool) :
    levelsAfter (ls ++ ls') level = levelsAfter ls' (levelsAfter ls level) :=
  List.foldl_append

private theorem session_answers {s : QTestState Socket} {rest : List Char} (sc : Script)
    (hsc : ∀ c ∈ sc, c.2.Fits c.1.expectedArgs) (htext : s.conn.unread = sc.text ++ rest) :
    ∃ conn, session socketTransport sc.commands s =
        .ok (sc.answers, ⟨conn, s.bigEndian, levelsAfter sc.irqs s.irqLevel⟩) ∧
      conn.unread = rest ∧ conn.sent = s.conn.sent ++ sc.asked := by
  induction sc generalizing s with
  | nil => exact ⟨s.conn, rfl, htext, (List.append_nil _).symm⟩
  | cons c sc ih =>
      rw [Script.text, List.flatMap_cons, List.append_assoc] at htext
      obtain ⟨conn, hcall, hrest, hsent⟩ :=
        rspArgs_response (s := { s with conn := socketTransport.send c.1.text s.conn })
          socket_reads (hsc c List.mem_cons_self) htext
      obtain ⟨conn', hsession, hrest', hsent'⟩ :=
        ih (s := ⟨conn, s.bigEndian, levelsAfter c.2.irqs s.irqLevel⟩)
          (fun c' hc' => hsc c' (List.mem_cons_of_mem c hc')) hrest
      refine ⟨conn', ?_, hrest', ?_⟩
      · rw [Script.commands, List.map_cons, session, call, hcall]
        change (session _ _ _ >>= _) = _
        have hirqs : Script.irqs (c :: sc) = c.2.irqs ++ Script.irqs sc := List.flatMap_cons
        rw [← Script.commands, hsession, hirqs, levelsAfter_append]
        rfl
      · have hasked : Script.asked (c :: sc) = c.1.text ++ Script.asked sc := List.flatMap_cons
        rw [hsent', hsent, hasked, ← List.append_assoc]
        rfl

private theorem session_cut {s : QTestState Socket} (sc : Script)
    (hsc : ∀ c ∈ sc, c.2.Fits c.1.expectedArgs) {k : Nat} (hk : k < sc.text.length)
    (htext : s.conn.unread = sc.text.take k) :
    ∃ e, session socketTransport sc.commands s = .error e := by
  induction sc generalizing s k with
  | nil => simp [Script.text] at hk
  | cons c sc ih =>
      rw [Script.text, List.flatMap_cons] at hk htext
      rcases Nat.lt_or_ge k c.2.text.length with hshort | hlong
      · rw [List.take_append_of_le_length hshort.le] at htext
        obtain ⟨e, he⟩ :=
          rspArgs_cut (s := { s with conn := socketTransport.send c.1.text s.conn })
            (r := c.2) socket_reads (hsc c List.mem_cons_self).plain hshort htext
        refine ⟨e, ?_⟩
        rw [Script.commands, List.map_cons, session, call, he]
        rfl
      · rw [List.take_append, List.take_of_length_le hlong] at htext
        obtain ⟨conn, hcall, hrest, -⟩ :=
          rspArgs_response (s := { s with conn := socketTransport.send c.1.text s.conn })
            socket_reads (hsc c List.mem_cons_self) htext
        rw [List.length_append] at hk
        obtain ⟨e, he⟩ := ih (s := ⟨conn, s.bigEndian, levelsAfter c.2.irqs s.irqLevel⟩)
          (fun c' hc' => hsc c' (List.mem_cons_of_mem c hc')) (k := k - c.2.text.length)
          (by rw [Script.text]; omega) hrest
        refine ⟨e, ?_⟩
        rw [Script.commands, List.map_cons, session, call, hcall]
        change (session _ _ _ >>= _) = _
        rw [← Script.commands, he]
        rfl

/-- Over any socket, each command of a session gets its own response, every interrupt the server
has reported up to then is taken in, and nothing behind the last response is read; a session that
breaks off early never gets the missing words, but dies, or waits if the socket stays open. -/
theorem answers_in_order (sc : Script) (hsc : ∀ c ∈ sc, c.2.Fits c.1.expectedArgs) :
    (∀ s rest, s.conn.unread = sc.text ++ rest → ∃ conn,
      session socketTransport sc.commands s =
          .ok (sc.answers, ⟨conn, s.bigEndian, levelsAfter sc.irqs s.irqLevel⟩) ∧
        conn.unread = rest ∧ conn.sent = s.conn.sent ++ sc.asked) ∧
    ∀ s k, k < sc.text.length → s.conn.unread = sc.text.take k →
      ∃ e, session socketTransport sc.commands s = .error e := by
  constructor
  · intro s rest htext
    exact session_answers sc hsc htext
  · intro s k hk htext
    exact session_cut sc hsc hk htext

/-- A read whose response comes behind a line about interrupt 7, in pieces that cut both lines. -/
def splitRead : QTestState Socket where
  conn :=
    { rx := ['I', 'R', 'Q', ' ', 'r', 'a']
      reads := [.data ['i', 's', 'e', ' ', '7', '\n', 'O'], .again,
        .data ['K', ' ', '0', 'x', '2', 'a', '\n']]
      sent := [] }
  bigEndian := false
  irqLevel := fun _ => false

theorem answers_in_order_read :
    ∃ conn, session socketTransport [⟨"readl 0x40\n".toList, 2⟩] splitRead =
      .ok ([[kOk, ['0', 'x', '2', 'a']]],
        ⟨conn, false, levelsAfter [⟨7, true⟩] splitRead.irqLevel⟩) := by
  let sc : Script := [(⟨"readl 0x40\n".toList, 2⟩, ⟨[⟨7, true⟩], [['0', 'x', '2', 'a']]⟩)]
  have hsc : ∀ c ∈ sc, c.2.Fits c.1.expectedArgs := by
    intro c hc
    cases List.mem_singleton.mp hc
    refine ⟨?_, Nat.le_refl _⟩
    intro w hw
    rw [List.mem_singleton.mp hw, PlainWord]
    decide
  obtain ⟨conn, hsession, -⟩ := (answers_in_order sc hsc).1 splitRead [] (by decide +kernel)
  exact ⟨conn, hsession⟩

end VirtioCrash.Qtest
