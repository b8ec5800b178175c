import VirtioCrash.Targets.Repeatable

/-!
# Replays

A process runs thousands of inputs on one machine and one `g_state`. What it did for one of them, in
sequential or in concurrent mode, another process does again for that input alone, as long as its
machine answers alike.
-/

namespace VirtioCrash

variable {n : Nat} {ξ Op : Type}

/-- From now on both machines answer the same questions alike. -/
def AnswerAlike (w w' : World n ξ) : Prop :=
  ∀ es q, w.dev (es ++ w.trace) q = w'.dev (es ++ w'.trace) q

/-- What two processes do for one input and for many, from any two states of the harness: under the
same schedules both get to the end or neither does, they cause the same events, and a program leaves
the same state. -/
structure Replays (t : Target n ξ Op) : Prop where
  input : ∀ load data turns w w', AnswerAlike w w' →
    Option.Rel (fun u u' => newest u.trace w.trace = newest u'.trace w'.trace ∧
        ((load data).isSome → u.st = u'.st))
      (fuzzInput t load data turns w) (fuzzInput t load data turns w')
  inputs : ∀ load ins w w', AnswerAlike w w' →
    Option.Rel (fun u u' => newest u.trace w.trace = newest u'.trace w'.trace ∧ AnswerAlike u u')
      (fuzzInputs t load ins w) (fuzzInputs t load ins w')

private theorem SameAnswers.newest_eq {old old' : List Event} {u u' : World n ξ}
    (h : SameAnswers old old' u u') : newest u.trace old = newest u'.trace old' := by
  obtain ⟨es, htrace, htrace'⟩ := h.events
  rw [htrace, htrace', newest_append, newest_append]

private theorem SameAnswers.answerAlike {old old' : List Event} {u u' : World n ξ}
    (h : SameAnswers old old' u u') : AnswerAlike u u' := by
  obtain ⟨es, htrace, htrace'⟩ := h.events
  intro more q
  rw [htrace, htrace', ← List.append_assoc, ← List.append_assoc]
  exact h.answers (more ++ es) q

private theorem Target.Repeatable.replays {t : Target n ξ Op} (ht : t.Repeatable) : Replays t where
  input load data turns w w' halike := by
    have hstart : SameAnswers w.trace w'.trace w w' := ⟨⟨[], rfl, rfl⟩, halike⟩
    have hrun := ht.fuzzInput load data turns hstart
    generalize VirtioCrash.fuzzInput t load data turns w = fin at hrun ⊢
    generalize VirtioCrash.fuzzInput t load data turns w' = fin' at hrun ⊢
    cases hrun with
    | none => exact .none
    | some h => exact .some ⟨h.1.newest_eq, h.2⟩
  inputs load ins w w' halike := by
    have hstart : SameAnswers w.trace w'.trace w w' := ⟨⟨[], rfl, rfl⟩, halike⟩
    have hrun := ht.fuzzInputs load ins hstart
    generalize VirtioCrash.fuzzInputs t load ins w = fin at hrun ⊢
    generalize VirtioCrash.fuzzInputs t load ins w' = fin' at hrun ⊢
    cases hrun with
    | none => exact .none
    | some h => exact .some ⟨h.newest_eq, h.answerAlike⟩

/-- Every input of every target can be replayed. -/
theorem inputs_replay :
    Replays Blk.target ∧ Replays Net.target ∧ Replays Gpu.target ∧ Replays Scsi.target ∧
      Replays Snd.target ∧ Replays Fs.target ∧ Replays Vsock.target ∧ Replays Balloon.target ∧
      Replays Console.target ∧ Replays Input.target := by
  refine ⟨?_, ?_, ?_, ?_, ?_, ?_, ?_, ?_, ?_, ?_⟩
  · exact Blk.repeatable.replays
  · exact Net.repeatable.replays
  · exact Gpu.repeatable.replays
  · exact Scsi.repeatable.replays
  · exact Snd.repeatable.replays
  · exact Fs.repeatable.replays
  · exact Vsock.repeatable.replays
  · exact Balloon.repeatable.replays
  · exact Console.repeatable.replays
  · exact Input.repeatable.replays

/-- A sequential program and one with a thread B, by the first byte of the input. -/
def loadEither (data : List UInt8) : Option (Program CommonOp) :=
  if data = [0] then some ⟨[.setStatus 4, .vqSetup 0 8], [], 0⟩
  else if data = [1] then some ⟨[.vqKick 0], [.getFeatures], 1⟩
  else none

def eitherInputs : List (List UInt8 × List LoopTurn) :=
  [([0], []), ([1], [.a, .test false, .b, .a, .store, .b, .test false])]

/-- A process that starts with these inputs and one that has run another program before. -/
theorem inputs_replay_later :
    let w : World Blk.kMaxQueues Unit := ⟨fun _ _ => 64, [], Blk.constructed, []⟩
    let w' := runFromReset Blk.target [.vqSetup 1 16, .memWriteAbsolute 0x47050000 [1, 2]] w
    w.trace ≠ w'.trace ∧
    ∃ u u', fuzzInputs Blk.target loadEither eitherInputs w = some u ∧
      fuzzInputs Blk.target loadEither eitherInputs w' = some u' ∧
      newest u.trace w.trace = newest u'.trace w'.trace ∧ newest u.trace w.trace ≠ [] := by
  intro w w'
  have halike : AnswerAlike w w' := fun _ _ => rfl
  have hsame := inputs_replay.1.inputs loadEither eitherInputs w w' halike
  have hcount : (fuzzInputs Blk.target loadEither eitherInputs w).map
      (fun u => (newest u.trace w.trace).length) = some 22 := by decide +kernel
  refine ⟨by decide +kernel, ?_⟩
  generalize fuzzInputs Blk.target loadEither eitherInputs w = fin at hsame hcount ⊢
  generalize fuzzInputs Blk.target loadEither eitherInputs w' = fin' at hsame ⊢
  cases hsame with
  | none => cases hcount
  | @some u u' h =>
      have hlength : (newest u.trace w.trace).length = 22 := Option.some.inj hcount
      refine ⟨u, u', rfl, rfl, h.1, ?_⟩
      intro hnil
      rw [hnil] at hlength
      cases hlength

end VirtioCrash
