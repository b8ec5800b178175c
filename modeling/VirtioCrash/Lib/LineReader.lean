import Mathlib.Data.List.Infix

/-!
# Lines of a stream read in pieces

A reader keeps what it has received in a buffer, takes a line off its front when the buffer holds a
whole one, and reads more otherwise. `reader_refines` says that it is the same as taking lines off
the whole text, wherever the network cuts it: no piece of text is lost, doubled or given to another
line.
-/

namespace LineReader

variable {α : Type} [DecidableEq α]

/-- Where the first line ends; the text counts up to its first `stop` only. -/
def endOfLine (eol stop : α) (buf : List α) : Option Nat :=
  (buf.takeWhile fun c => decide (c ≠ stop)).idxOf? eol

/-- The first line and what follows its end. -/
def takeLine (eol stop : α) (buf : List α) : Option (List α × List α) :=
  (endOfLine eol stop buf).map fun k => (buf.take k, buf.drop (k + 1))

section

variable {eol stop : α}

private theorem takeLine_cons (c : α) (buf : List α) : takeLine eol stop (c :: buf) =
    if c = stop then none
    else if c = eol then some ([], buf)
    else (takeLine eol stop buf).map fun r => (c :: r.1, r.2) := by
  rw [takeLine, endOfLine, List.takeWhile_cons]
  by_cases hstop : c = stop
  · simp [hstop]
  · by_cases heol : c = eol
    · subst heol
      simp [hstop, List.idxOf?_cons]
    · simp [hstop, heol, List.idxOf?_cons, takeLine, endOfLine, Function.comp_def]

theorem takeLine_append {buf line rest : List α} (h : takeLine eol stop buf = some (line, rest))
    (more : List α) : takeLine eol stop (buf ++ more) = some (line, rest ++ more) := by
  induction buf generalizing line with
  | nil => simp [takeLine, endOfLine] at h
  | cons c buf ih =>
      rw [takeLine_cons] at h
      rw [List.cons_append, takeLine_cons]
      split at h
      · cases h
      · rename_i hstop
        rw [if_neg hstop]
        split at h
        · rename_i heol
          cases h
          rw [if_pos heol]
        · rename_i heol
          obtain ⟨⟨line', rest'⟩, htake, hline⟩ := Option.map_eq_some_iff.mp h
          cases hline
          rw [if_neg heol, ih htake]
          rfl

theorem takeLine_line {line : List α} (heol : eol ∉ line) (hstop : stop ∉ line) (hne : eol ≠ stop)
    (rest : List α) : takeLine eol stop (line ++ eol :: rest) = some (line, rest) := by
  induction line with
  | nil => rw [List.nil_append, takeLine_cons, if_neg hne, if_pos rfl]
  | cons c line ih =>
      rw [List.mem_cons, not_or] at heol hstop
      rw [List.cons_append, takeLine_cons, if_neg fun h => hstop.1 h.symm,
        if_neg fun h => heol.1 h.symm, ih heol.2 hstop.2]
      rfl

theorem takeLine_length {buf line rest : List α} (h : takeLine eol stop buf = some (line, rest)) :
    rest.length < buf.length := by
  induction buf generalizing line with
  | nil => simp [takeLine, endOfLine] at h
  | cons c buf ih =>
      rw [takeLine_cons] at h
      split at h
      · cases h
      · split at h
        · cases h
          exact Nat.lt_succ_self _
        · obtain ⟨⟨line', rest'⟩, htake, hline⟩ := Option.map_eq_some_iff.mp h
          cases hline
          exact Nat.lt_succ_of_lt (ih htake)

end

/-- What one read returns. -/
inductive Read (α : Type) where
  | data (chunk : List α)
  | again
  | failed

/-- Why a reader returns no line. -/
inductive Stuck where
  | waits
  | dies
  deriving DecidableEq

/-- The next line, for what the next reads will return; no data means that the peer is gone. -/
def readLine (eol stop : α) : List (Read α) → List α →
    Except Stuck (List α × List α × List (Read α))
  | [], buf =>
      match takeLine eol stop buf with
      | some (line, rest) => .ok (line, rest, [])
      | none => .error .waits
  | r :: reads, buf =>
      match takeLine eol stop buf with
      | some (line, rest) => .ok (line, rest, r :: reads)
      | none =>
          match r with
          | .data [] => .error .dies
          | .data (c :: chunk) => readLine eol stop reads (buf ++ c :: chunk)
          | .again => readLine eol stop reads buf
          | .failed => .error .dies

/-- All the text the reads will return before the peer is gone. -/
def incoming : List (Read α) → List α
  | [] => []
  | .data [] :: _ => []
  | .data (c :: chunk) :: reads => c :: chunk ++ incoming reads
  | .again :: reads => incoming reads
  | .failed :: _ => []

variable {eol stop : α}

private theorem readLine_ready {buf line rest : List α}
    (h : takeLine eol stop buf = some (line, rest)) (reads : List (Read α)) :
    readLine eol stop reads buf = .ok (line, rest, reads) := by
  cases reads with
  | nil => simp only [readLine, h]
  | cons r reads => simp only [readLine, h]

/-- The reader takes the first line of the text in its buffer and on its way. -/
theorem reader_refines (reads : List (Read α)) (buf : List α) :
    match takeLine eol stop (buf ++ incoming reads) with
    | some (line, rest) => ∃ buf' reads', readLine eol stop reads buf = .ok (line, buf', reads') ∧
        buf' ++ incoming reads' = rest
    | none => ∃ e, readLine eol stop reads buf = .error e := by
  induction reads generalizing buf with
  | nil =>
      rw [incoming, List.append_nil]
      rcases h : takeLine eol stop buf with _ | ⟨line, rest⟩
      · exact ⟨.waits, by simp only [readLine, h]⟩
      · exact ⟨rest, [], readLine_ready h [], List.append_nil rest⟩
  | cons r reads ih =>
      rcases h : takeLine eol stop buf with _ | ⟨line, rest⟩
      · cases r with
        | data chunk =>
            cases chunk with
            | nil =>
                rw [incoming, List.append_nil, h]
                exact ⟨.dies, by simp only [readLine, h]⟩
            | cons c chunk =>
                have hnext := ih (buf ++ c :: chunk)
                rw [List.append_assoc] at hnext
                simp only [incoming, readLine, h]
                exact hnext
        | again =>
            simp only [incoming, readLine, h]
            exact ih buf
        | failed =>
            rw [incoming, List.append_nil, h]
            exact ⟨.dies, by simp only [readLine, h]⟩
      · rw [takeLine_append h]
        exact ⟨rest, r :: reads, readLine_ready h _, rfl⟩

end LineReader
