import VirtioCrash.Lib.LineReader
import VirtioCrash.Lib.TextNumber

/-!
# The qtest client

The text protocol of `libqtest.c`: the client sends a command and reads lines until one of them is
its response. Lines about interrupts may come first. The lines arrive on a socket or, when client
and server are in one process, in a buffer that the server fills.
-/

namespace VirtioCrash.Qtest

open LineReader TextNumber

/-- `QTestClientTransportOps`; every line shortens what is pending. -/
structure Transport (σ : Type) where
  send : List Char → σ → σ
  recvLine : σ → Except Stuck (List Char × σ)
  pending : σ → Nat
  shrinks : ∀ {s line s'}, recvLine s = .ok (line, s') → pending s' < pending s

/-- The socket: what was received and not read yet, what its reads will return, what was sent. -/
structure Socket where
  rx : List Char
  reads : List (Read Char)
  sent : List Char

/-- The text the client has not read yet. -/
def Socket.unread (s : Socket) : List Char := s.rx ++ incoming s.reads

/-- `strchr` looks for the end of the line before the end of the C string. -/
def clientSocketRecvLine (s : Socket) : Except Stuck (List Char × Socket) := do
  let (line, rx, reads) ← readLine '\n' '\x00' s.reads s.rx
  return (line, { s with rx, reads })

/-- Lines are taken off the unread text, however the socket delivers it. -/
theorem clientSocketRecvLine_spec (s : Socket) :
    match takeLine '\n' '\x00' s.unread with
    | some (line, rest) => ∃ s', clientSocketRecvLine s = .ok (line, s') ∧ s'.unread = rest ∧
        s'.sent = s.sent
    | none => ∃ e, clientSocketRecvLine s = .error e := by
  have h := @reader_refines Char _ '\n' '\x00' s.reads s.rx
  rw [Socket.unread]
  rcases htake : takeLine '\n' '\x00' (s.rx ++ incoming s.reads) with _ | ⟨line, rest⟩
  · rw [htake] at h
    obtain ⟨e, he⟩ := h
    exact ⟨e, by rw [clientSocketRecvLine, he]; rfl⟩
  · rw [htake] at h
    obtain ⟨rx, reads, hread, hrest⟩ := h
    exact ⟨{ s with rx, reads }, by rw [clientSocketRecvLine, hread]; rfl, hrest, rfl⟩

def socketTransport : Transport Socket where
  send text s := { s with sent := s.sent ++ text }
  recvLine := clientSocketRecvLine
  pending s := s.unread.length
  shrinks {s line s'} h := by
    have hspec := clientSocketRecvLine_spec s
    rcases htake : takeLine '\n' '\x00' s.unread with _ | ⟨line', rest⟩
    · rw [htake] at hspec
      obtain ⟨e, he⟩ := hspec
      cases h.symm.trans he
    · rw [htake] at hspec
      obtain ⟨s'', hs'', hrest, -⟩ := hspec
      obtain ⟨-, rfl⟩ := Prod.mk.inj (Except.ok.inj (h.symm.trans hs''))
      rw [hrest]
      exact takeLine_length htake

/-- Client and server in one process; `rx` is there once the server has answered. -/
structure Inproc (M : Type) where
  rx : Option (List Char)
  server : M
  sent : List Char

def Inproc.unread {M : Type} (s : Inproc M) : List Char := s.rx.getD []

/-- `qtest_client_inproc_recv` -/
def Inproc.recv {M : Type} (text : List Char) (s : Inproc M) : Inproc M :=
  { s with rx := some (s.rx.getD [] ++ text) }

/-- There is no second try: a buffer without a whole line is the end. -/
def clientInprocRecvLine {M : Type} (s : Inproc M) : Except Stuck (List Char × Inproc M) :=
  match s.rx with
  | none => .error .dies
  | some rx =>
      match takeLine '\n' '\x00' rx with
      | none => .error .dies
      | some (line, rest) => .ok (line, { s with rx := some rest })

/-- `send` calls the server, which sends its texts before it returns. -/
def inprocTransport {M : Type} (serve : M → List Char → M × List (List Char)) :
    Transport (Inproc M) where
  send text s :=
    let (server, texts) := serve s.server text
    texts.foldl (fun s t => s.recv t) { s with server, sent := s.sent ++ text }
  recvLine := clientInprocRecvLine
  pending s := s.unread.length
  shrinks {s line s'} h := by
    rw [clientInprocRecvLine] at h
    split at h
    · cases h
    · rename_i rx hrx
      split at h
      · cases h
      · rename_i htake
        obtain ⟨-, rfl⟩ := Prod.mk.inj (Except.ok.inj h)
        have hless := takeLine_length htake
        simpa [Inproc.unread, hrx] using hless

/-- `MAX_IRQ` -/
abbrev kMaxIrq : Nat := 256

/-- The fields of a `QTestState` that the text protocol uses. -/
structure QTestState (σ : Type) where
  conn : σ
  bigEndian : Bool
  irqLevel : Fin kMaxIrq → Bool

def kIrq : List Char := ['I', 'R', 'Q']

def kRaise : List Char := ['r', 'a', 'i', 's', 'e']

def kOk : List Char := ['O', 'K']

/-- `g_strsplit(s, " ", 0)`: an empty text has no words. -/
def gStrsplit (s : List Char) : List (List Char) := if s = [] then [] else s.splitOn ' '

/-- What the line says about an interrupt; any word but `raise` lowers it. -/
def irqOf : List (List Char) → Option (Fin kMaxIrq × Bool)
  | dir :: num :: _ =>
      (integer? num).bind fun irq =>
        if h : 0 ≤ irq ∧ irq < kMaxIrq then some (⟨irq.toNat, by omega⟩, decide (dir = kRaise))
        else none
  | _ => none

section

variable {σ : Type}

def QTestState.setIrq (s : QTestState σ) (irq : Fin kMaxIrq × Bool) : QTestState σ :=
  { s with irqLevel := Function.update s.irqLevel irq.1 irq.2 }

/-- What a line does to a wait for a response. -/
inductive RspStep (σ : Type) where
  | redo (s : QTestState σ)
  | done (words : List (List Char)) (s : QTestState σ)
  | dies

def rspLine (expectedArgs : Nat) (s : QTestState σ) (line : List Char) : RspStep σ :=
  match gStrsplit line with
  | [] => .dies
  | word :: words =>
      if word = kIrq then
        match irqOf words with
        | some irq => .redo (s.setIrq irq)
        | none => .dies
      else if word = kOk ∧ expectedArgs ≤ words.length + 1 then .done (word :: words) s
      else .dies

/-- `qtest_rsp_args`, for no more than `fuel` lines. -/
def rspLoop (tr : Transport σ) (expectedArgs : Nat) :
    Nat → QTestState σ → Except Stuck (List (List Char) × QTestState σ)
  | 0, _ => .error .waits
  | fuel + 1, s =>
      match tr.recvLine s.conn with
      | .error e => .error e
      | .ok (line, conn) =>
          match rspLine expectedArgs { s with conn } line with
          | .redo s' => rspLoop tr expectedArgs fuel s'
          | .done words s' => .ok (words, s')
          | .dies => .error .dies

/-- Each line takes something off what is pending, so there are no more lines than that. -/
def rspArgs (tr : Transport σ) (expectedArgs : Nat) (s : QTestState σ) :
    Except Stuck (List (List Char) × QTestState σ) :=
  rspLoop tr expectedArgs (tr.pending s.conn + 1) s

variable {tr : Transport σ} {expectedArgs : Nat} {s : QTestState σ} {line : List Char} {conn : σ}

private theorem rspLine_redo {s' : QTestState σ} (h : rspLine expectedArgs s line = .redo s') :
    s'.conn = s.conn := by
  rw [rspLine] at h
  split at h
  · cases h
  · split at h
    · split at h
      · cases h
        rfl
      · cases h
    · split at h
      · cases h
      · cases h

private theorem rspLoop_fuel {fuel fuel' : Nat} (hfuel : tr.pending s.conn < fuel)
    (hfuel' : tr.pending s.conn < fuel') :
    rspLoop tr expectedArgs fuel s = rspLoop tr expectedArgs fuel' s := by
  induction fuel generalizing fuel' s with
  | zero => exact absurd hfuel (Nat.not_lt_zero _)
  | succ fuel ih =>
      obtain ⟨fuel', rfl⟩ : ∃ k, fuel' = k + 1 := ⟨fuel' - 1, by omega⟩
      simp only [rspLoop]
      rcases hline : tr.recvLine s.conn with e | ⟨line, conn⟩
      · rfl
      · dsimp only
        rcases hstep : rspLine expectedArgs { s with conn } line with s' | ⟨words, s'⟩ | _
        · have hless := tr.shrinks hline
          have hconn : s'.conn = conn := rspLine_redo hstep
          exact ih (by rw [hconn]; omega) (by rw [hconn]; omega)
        · rfl
        · rfl

theorem rspArgs_redo (hline : tr.recvLine s.conn = .ok (line, conn)) {s' : QTestState σ}
    (hstep : rspLine expectedArgs { s with conn } line = .redo s') :
    rspArgs tr expectedArgs s = rspArgs tr expectedArgs s' := by
  have hless := tr.shrinks hline
  have hconn : s'.conn = conn := rspLine_redo hstep
  rw [rspArgs, rspLoop, hline]
  dsimp only
  rw [hstep]
  exact rspLoop_fuel (by rw [hconn]; exact hless) (Nat.lt_succ_self _)

theorem rspArgs_done (hline : tr.recvLine s.conn = .ok (line, conn)) {words : List (List Char)}
    {s' : QTestState σ} (hstep : rspLine expectedArgs { s with conn } line = .done words s') :
    rspArgs tr expectedArgs s = .ok (words, s') := by
  rw [rspArgs, rspLoop, hline]
  dsimp only
  rw [hstep]

end

end VirtioCrash.Qtest
