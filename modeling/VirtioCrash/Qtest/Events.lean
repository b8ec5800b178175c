import Mathlib.Data.List.Basic

/-!
# QMP events

The monitor sends responses and events over one socket. While `qtest_qmp_receive` looks for a
response it hands events to a callback or stashes them; a later wait takes from the stash first and
drops what it passes over. No event comes twice or before an earlier one, as many receives return as
there are responses, and waits return exactly for a subsequence of the events.
-/

namespace VirtioCrash.Qtest

variable {β τ : Type}

structure QmpEvent (β : Type) where
  name : List Char
  body : β

/-- A message from the monitor, by whether it has the key `event`. -/
inductive QmpMsg (β : Type) where
  | event (e : QmpEvent β)
  | response (body : β)

def QmpMsg.event? : QmpMsg β → Option (QmpEvent β)
  | .event e => some e
  | .response _ => none

def QmpMsg.response? : QmpMsg β → Option β
  | .event _ => none
  | .response body => some body

/-- The fields of a `QTestState` that QMP uses, and what its socket is going to deliver. -/
structure QmpState (β τ : Type) where
  incoming : List (QmpMsg β)
  pendingEvents : List (QmpEvent β)
  eventCB : Option (QmpEvent β → τ → Bool × τ)
  eventData : τ

def eventsOf (incoming : List (QmpMsg β)) : List (QmpEvent β) :=
  incoming.filterMap QmpMsg.event?

@[simp] theorem eventsOf_event (e : QmpEvent β) (incoming : List (QmpMsg β)) :
    eventsOf (.event e :: incoming) = e :: eventsOf incoming := rfl

@[simp] theorem eventsOf_response (body : β) (incoming : List (QmpMsg β)) :
    eventsOf (.response body :: incoming) = eventsOf incoming := rfl

def responsesOf (incoming : List (QmpMsg β)) : List β :=
  incoming.filterMap QmpMsg.response?

@[simp] theorem responsesOf_event (e : QmpEvent β) (incoming : List (QmpMsg β)) :
    responsesOf (.event e :: incoming) = responsesOf incoming := rfl

@[simp] theorem responsesOf_response (body : β) (incoming : List (QmpMsg β)) :
    responsesOf (.response body :: incoming) = body :: responsesOf incoming := rfl

/-- The events that are still to be had. -/
def QmpState.events (s : QmpState β τ) : List (QmpEvent β) :=
  s.pendingEvents ++ eventsOf s.incoming

def QmpState.responses (s : QmpState β τ) : List β :=
  responsesOf s.incoming

/-- `qtest_qmp_receive`; `none` when it waits for a response that never comes. -/
def receiveFrom (eventCB : Option (QmpEvent β → τ → Bool × τ)) :
    List (QmpMsg β) → List (QmpEvent β) → τ → Option (β × List (QmpMsg β) × List (QmpEvent β) × τ)
  | [], _, _ => none
  | .response body :: incoming, pending, data => some (body, incoming, pending, data)
  | .event e :: incoming, pending, data =>
      match eventCB with
      | none => receiveFrom eventCB incoming (pending ++ [e]) data
      | some cb =>
          if (cb e data).1 then receiveFrom eventCB incoming pending (cb e data).2
          else receiveFrom eventCB incoming (pending ++ [e]) (cb e data).2

def qmpReceive (s : QmpState β τ) : Option (β × QmpState β τ) :=
  (receiveFrom s.eventCB s.incoming s.pendingEvents s.eventData).map
    fun (body, incoming, pendingEvents, eventData) =>
      (body, { s with incoming, pendingEvents, eventData })

/-- The loop of `qtest_qmp_event_ref`; what it passes over is gone. -/
def eventRefFrom (event : List Char) : List (QmpEvent β) → Option (QmpEvent β) × List (QmpEvent β)
  | [] => (none, [])
  | e :: pending => if e.name = event then (some e, pending) else eventRefFrom event pending

def qmpEventRef (event : List Char) (s : QmpState β τ) : Option (QmpEvent β) × QmpState β τ :=
  let (found, pendingEvents) := eventRefFrom event s.pendingEvents
  (found, { s with pendingEvents })

/-- The loop of `qtest_qmp_eventwait_ref`: it drops responses too, and asks no callback. -/
def eventwaitFrom (event : List Char) : List (QmpMsg β) → Option (QmpEvent β × List (QmpMsg β))
  | [] => none
  | .response _ :: incoming => eventwaitFrom event incoming
  | .event e :: incoming =>
      if e.name = event then some (e, incoming) else eventwaitFrom event incoming

def qmpEventwaitRef (event : List Char) (s : QmpState β τ) :
    Option (QmpEvent β × QmpState β τ) :=
  match qmpEventRef event s with
  | (some e, s) => some (e, s)
  | (none, s) =>
      (eventwaitFrom event s.incoming).map fun (e, incoming) => (e, { s with incoming })

inductive QmpCall where
  | receive
  | eventRef (event : List Char)
  | eventwait (event : List Char)

inductive QmpAnswer (β : Type) where
  | response (body : β)
  | noEvent
  | event (e : QmpEvent β)

def QmpAnswer.event? : QmpAnswer β → Option (QmpEvent β)
  | .event e => some e
  | _ => none

def QmpAnswer.response? : QmpAnswer β → Option β
  | .response body => some body
  | _ => none

def QmpCall.step (s : QmpState β τ) : QmpCall → Option (QmpAnswer β × QmpState β τ)
  | .receive => (qmpReceive s).map fun (body, s) => (.response body, s)
  | .eventRef event =>
      match qmpEventRef event s with
      | (some e, s) => some (.event e, s)
      | (none, s) => some (.noEvent, s)
  | .eventwait event => (qmpEventwaitRef event s).map fun (e, s) => (.event e, s)

/-- Some calls, one after another; `none` when one of them waits for ever. -/
def qmpRun : List QmpCall → QmpState β τ → Option (List (QmpAnswer β) × QmpState β τ)
  | [], s => some ([], s)
  | c :: cs, s => do
      let (answer, s) ← c.step s
      let (answers, s) ← qmpRun cs s
      return (answer :: answers, s)

private theorem receiveFrom_events {eventCB : Option (QmpEvent β → τ → Bool × τ)} {body : β} :
    ∀ {incoming incoming' : List (QmpMsg β)} {pending pending' : List (QmpEvent β)}
      {data data' : τ}, receiveFrom eventCB incoming pending data =
        some (body, incoming', pending', data') →
      (pending' ++ eventsOf incoming').Sublist
        (pending ++ eventsOf incoming)
  | [], _, _, _, _, _, h => nomatch h
  | .response _ :: incoming, _, _, _, _, _, h => by
      simp only [receiveFrom, Option.some.injEq, Prod.mk.injEq] at h
      obtain ⟨-, rfl, rfl, -⟩ := h
      rw [eventsOf_response]
  | .event e :: incoming, _, pending, _, _, _, h => by
      have stashed : pending ++ eventsOf (.event e :: incoming) =
          (pending ++ [e]) ++ eventsOf incoming := by
        rw [eventsOf_event, List.append_assoc, List.singleton_append]
      rw [stashed]
      unfold receiveFrom at h
      split at h
      · exact receiveFrom_events h
      · split at h
        · -- the callback has taken the event
          exact (receiveFrom_events h).trans
            ((List.sublist_append_left pending [e]).append_right _)
        · exact receiveFrom_events h

private theorem receiveFrom_none {body : β} :
    ∀ {incoming incoming' : List (QmpMsg β)} {pending pending' : List (QmpEvent β)}
      {data data' : τ}, receiveFrom none incoming pending data =
        some (body, incoming', pending', data') →
      pending' ++ eventsOf incoming' =
        pending ++ eventsOf incoming
  | [], _, _, _, _, _, h => nomatch h
  | .response _ :: incoming, _, _, _, _, _, h => by
      simp only [receiveFrom, Option.some.injEq, Prod.mk.injEq] at h
      obtain ⟨-, rfl, rfl, -⟩ := h
      rw [eventsOf_response]
  | .event e :: incoming, _, pending, _, _, _, h => by
      unfold receiveFrom at h
      rw [receiveFrom_none h, eventsOf_event, List.append_assoc, List.singleton_append]

private theorem receiveFrom_responses {eventCB : Option (QmpEvent β → τ → Bool × τ)} {body : β} :
    ∀ {incoming incoming' : List (QmpMsg β)} {pending pending' : List (QmpEvent β)}
      {data data' : τ}, receiveFrom eventCB incoming pending data =
        some (body, incoming', pending', data') →
      responsesOf incoming = body :: responsesOf incoming'
  | [], _, _, _, _, _, h => nomatch h
  | .response _ :: incoming, _, _, _, _, _, h => by
      simp only [receiveFrom, Option.some.injEq, Prod.mk.injEq] at h
      obtain ⟨rfl, rfl, -, -⟩ := h
      rw [responsesOf_response]
  | .event e :: incoming, _, _, _, _, _, h => by
      rw [responsesOf_event]
      unfold receiveFrom at h
      split at h
      · exact receiveFrom_responses h
      · split at h
        · exact receiveFrom_responses h
        · exact receiveFrom_responses h

private theorem receiveFrom_isSome {eventCB : Option (QmpEvent β → τ → Bool × τ)} :
    ∀ (incoming : List (QmpMsg β)) (pending : List (QmpEvent β)) (data : τ),
      responsesOf incoming ≠ [] → (receiveFrom eventCB incoming pending data).isSome
  | [], _, _, h => absurd rfl h
  | .response _ :: _, _, _, _ => rfl
  | .event e :: incoming, pending, data, h => by
      rw [responsesOf_event] at h
      unfold receiveFrom
      split
      · exact receiveFrom_isSome incoming _ _ h
      · split
        · exact receiveFrom_isSome incoming _ _ h
        · exact receiveFrom_isSome incoming _ _ h

private theorem not_mem_names_cons {event : List Char} {e : QmpEvent β} {l : List (QmpEvent β)}
    (he : e.name ≠ event) (hl : event ∉ l.map (·.name)) : event ∉ (e :: l).map (·.name) := by
  intro hmem
  rcases List.mem_cons.1 hmem with h | h
  · exact he h.symm
  · exact hl h

private theorem eventRefFrom_cases (event : List Char) :
    ∀ pending : List (QmpEvent β),
      (eventRefFrom event pending = (none, []) ∧ event ∉ pending.map (·.name)) ∨
      ∃ passed e rest, pending = passed ++ e :: rest ∧ e.name = event ∧
        event ∉ passed.map (·.name) ∧ eventRefFrom event pending = (some e, rest)
  | [] => .inl ⟨rfl, List.not_mem_nil⟩
  | e :: pending => by
      by_cases he : e.name = event
      · exact .inr ⟨[], e, pending, rfl, he, List.not_mem_nil, if_pos he⟩
      · have hstep : eventRefFrom event (e :: pending) = eventRefFrom event pending := if_neg he
        rw [hstep]
        rcases eventRefFrom_cases event pending with ⟨hnone, hmem⟩ | ⟨passed, e', rest, rfl, hfound⟩
        · exact .inl ⟨hnone, not_mem_names_cons he hmem⟩
        · exact .inr ⟨e :: passed, e', rest, rfl, hfound.1, not_mem_names_cons he hfound.2.1,
            hfound.2.2⟩

private theorem eventwaitFrom_cases (event : List Char) :
    ∀ incoming : List (QmpMsg β),
      (eventwaitFrom event incoming = none ∧ event ∉ (eventsOf incoming).map (·.name)) ∨
      ∃ passed e rest, eventsOf incoming = passed ++ e :: eventsOf rest ∧ e.name = event ∧
        event ∉ passed.map (·.name) ∧ eventwaitFrom event incoming = some (e, rest)
  | [] => .inl ⟨rfl, List.not_mem_nil⟩
  | .response _ :: incoming => by
      rw [eventsOf_response]
      exact eventwaitFrom_cases event incoming
  | .event e :: incoming => by
      rw [eventsOf_event]
      by_cases he : e.name = event
      · exact .inr ⟨[], e, incoming, rfl, he, List.not_mem_nil, if_pos he⟩
      · have hstep : eventwaitFrom event (.event e :: incoming) = eventwaitFrom event incoming :=
          if_neg he
        rw [hstep]
        rcases eventwaitFrom_cases event incoming with
          ⟨hnone, hmem⟩ | ⟨passed, e', rest, heq, hfound⟩
        · exact .inl ⟨hnone, not_mem_names_cons he hmem⟩
        · refine .inr ⟨e :: passed, e', rest, ?_, hfound.1, not_mem_names_cons he hfound.2.1,
            hfound.2.2⟩
          rw [heq, List.cons_append]

private theorem eventwaitFrom_suffix {event : List Char} {e : QmpEvent β} {rest : List (QmpMsg β)} :
    ∀ incoming : List (QmpMsg β), eventwaitFrom event incoming = some (e, rest) →
      rest <:+ incoming
  | [], h => nomatch h
  | .response _ :: incoming, h => (eventwaitFrom_suffix incoming h).trans (List.suffix_cons _ _)
  | .event e' :: incoming, h => by
      unfold eventwaitFrom at h
      split at h
      · simp only [Option.some.injEq, Prod.mk.injEq] at h
        rw [← h.2]
        exact List.suffix_cons _ _
      · exact (eventwaitFrom_suffix incoming h).trans (List.suffix_cons _ _)

private theorem qmpEventwaitRef_cases (event : List Char) (s : QmpState β τ) :
    (qmpEventwaitRef event s = none ∧ event ∉ s.events.map (·.name)) ∨
    ∃ passed e s', s.events = passed ++ e :: s'.events ∧ e.name = event ∧
      event ∉ passed.map (·.name) ∧ s'.incoming <:+ s.incoming ∧
      qmpEventwaitRef event s = some (e, s') := by
  unfold qmpEventwaitRef qmpEventRef QmpState.events
  rcases eventRefFrom_cases event s.pendingEvents with
    ⟨href, hpending⟩ | ⟨passed, e, rest, heq, hname, hpassed, href⟩
  · rw [href]
    rcases eventwaitFrom_cases event s.incoming with
      ⟨hwait, hincoming⟩ | ⟨passed, e, rest, heq, hname, hpassed, hwait⟩
    · refine .inl ⟨?_, ?_⟩
      · dsimp only
        rw [hwait]
        rfl
      · rw [List.map_append, List.mem_append]
        exact fun h => h.elim hpending hincoming
    · refine .inr ⟨s.pendingEvents ++ passed, e,
        { s with pendingEvents := [], incoming := rest }, ?_, hname, ?_,
        eventwaitFrom_suffix _ hwait, ?_⟩
      · rw [heq, List.append_assoc, List.nil_append]
      · rw [List.map_append, List.mem_append]
        exact fun h => h.elim hpending hpassed
      · dsimp only
        rw [hwait]
        rfl
  · rw [href]
    refine .inr ⟨passed, e, { s with pendingEvents := rest }, ?_, hname, hpassed,
      List.suffix_rfl, rfl⟩
    rw [heq, List.append_assoc, List.cons_append]

private theorem responsesOf_sublist {incoming incoming' : List (QmpMsg β)}
    (h : incoming' <:+ incoming) : (responsesOf incoming').Sublist (responsesOf incoming) :=
  h.sublist.filterMap _

private theorem QmpCall.step_sublist {c : QmpCall} {s s' : QmpState β τ} {a : QmpAnswer β}
    (h : c.step s = some (a, s')) :
    (a.event?.toList ++ s'.events).Sublist s.events ∧
      (a.response?.toList ++ s'.responses).Sublist s.responses := by
  cases c with
  | receive =>
      obtain ⟨⟨body, s₁⟩, hrecv, heq⟩ := Option.map_eq_some_iff.1 h
      obtain ⟨⟨body', incoming, pending, data⟩, hfrom, hs₁⟩ := Option.map_eq_some_iff.1 hrecv
      simp only [Prod.mk.injEq] at heq hs₁
      obtain ⟨rfl, rfl⟩ := heq
      obtain ⟨rfl, rfl⟩ := hs₁
      refine ⟨receiveFrom_events hfrom, ?_⟩
      unfold QmpState.responses
      rw [receiveFrom_responses hfrom]
      exact List.Sublist.refl _
  | eventRef event =>
      change (match qmpEventRef event s with
        | (some e, s) => some (QmpAnswer.event e, s)
        | (none, s) => some (QmpAnswer.noEvent, s)) = _ at h
      unfold qmpEventRef at h
      rcases eventRefFrom_cases event s.pendingEvents with
        ⟨href, -⟩ | ⟨passed, e, rest, heq, -, -, href⟩
      · rw [href] at h
        simp only [Option.some.injEq, Prod.mk.injEq] at h
        obtain ⟨rfl, rfl⟩ := h
        exact ⟨List.sublist_append_right _ _, List.Sublist.refl _⟩
      · rw [href] at h
        simp only [Option.some.injEq, Prod.mk.injEq] at h
        obtain ⟨rfl, rfl⟩ := h
        refine ⟨?_, List.Sublist.refl _⟩
        unfold QmpState.events
        rw [heq, List.append_assoc, List.cons_append]
        exact List.sublist_append_right _ _
  | eventwait event =>
      obtain ⟨⟨e, s₁⟩, hwait, heq⟩ := Option.map_eq_some_iff.1 h
      simp only [Prod.mk.injEq] at heq
      obtain ⟨rfl, rfl⟩ := heq
      rcases qmpEventwaitRef_cases event s with ⟨hnone, -⟩ | ⟨passed, e', s₂, hs, -, -, hsuf, hsome⟩
      · rw [hnone] at hwait
        exact nomatch hwait
      · rw [hsome] at hwait
        simp only [Option.some.injEq, Prod.mk.injEq] at hwait
        obtain ⟨rfl, rfl⟩ := hwait
        refine ⟨?_, responsesOf_sublist hsuf⟩
        rw [hs]
        exact List.sublist_append_right _ _

private theorem QmpCall.step_receive {s s' : QmpState β τ} {a : QmpAnswer β}
    (hcb : s.eventCB = none) (h : QmpCall.receive.step s = some (a, s')) :
    s'.eventCB = none ∧ s'.events = s.events ∧
      a.response?.toList ++ s'.responses = s.responses := by
  obtain ⟨⟨body, s₁⟩, hrecv, heq⟩ := Option.map_eq_some_iff.1 h
  obtain ⟨⟨body', incoming, pending, data⟩, hfrom, hs₁⟩ := Option.map_eq_some_iff.1 hrecv
  simp only [Prod.mk.injEq] at heq hs₁
  obtain ⟨rfl, rfl⟩ := heq
  obtain ⟨rfl, rfl⟩ := hs₁
  refine ⟨hcb, ?_, (receiveFrom_responses hfrom).symm⟩
  rw [hcb] at hfrom
  exact receiveFrom_none hfrom

private theorem qmpRun_cons {c : QmpCall} {cs : List QmpCall} {s s' : QmpState β τ}
    {answers : List (QmpAnswer β)} (h : qmpRun (c :: cs) s = some (answers, s')) :
    ∃ a rest s₁, c.step s = some (a, s₁) ∧ qmpRun cs s₁ = some (rest, s') ∧
      answers = a :: rest := by
  unfold qmpRun at h
  obtain ⟨⟨a, s₁⟩, hstep, h⟩ := Option.bind_eq_some_iff.1 h
  obtain ⟨⟨rest, s₂⟩, hrun, h⟩ := Option.bind_eq_some_iff.1 h
  simp only [Option.pure_def, Option.some.injEq, Prod.mk.injEq] at h
  obtain ⟨rfl, rfl⟩ := h
  exact ⟨a, rest, s₁, hstep, hrun, rfl⟩

private theorem filterMap_cons_toList {α γ : Type} (f : α → Option γ) (a : α) (l : List α) :
    (a :: l).filterMap f = (f a).toList ++ l.filterMap f := by
  rw [List.filterMap_cons]
  cases f a with
  | none => rfl
  | some b => rfl

private theorem qmpRun_sublist :
    ∀ {cs : List QmpCall} {s s' : QmpState β τ} {answers : List (QmpAnswer β)},
      qmpRun cs s = some (answers, s') →
      (answers.filterMap QmpAnswer.event? ++ s'.events).Sublist s.events ∧
        (answers.filterMap QmpAnswer.response? ++ s'.responses).Sublist s.responses
  | [], _, _, _, h => by
      simp only [qmpRun, Option.some.injEq, Prod.mk.injEq] at h
      obtain ⟨rfl, rfl⟩ := h
      exact ⟨List.Sublist.refl _, List.Sublist.refl _⟩
  | c :: cs, s, _, _, h => by
      obtain ⟨a, rest, s₁, hstep, hrun, rfl⟩ := qmpRun_cons h
      obtain ⟨hevents, hresponses⟩ := QmpCall.step_sublist hstep
      obtain ⟨ihevents, ihresponses⟩ := qmpRun_sublist hrun
      rw [filterMap_cons_toList, filterMap_cons_toList, List.append_assoc, List.append_assoc]
      exact ⟨((List.Sublist.refl _).append ihevents).trans hevents,
        ((List.Sublist.refl _).append ihresponses).trans hresponses⟩

private theorem qmpRun_receive :
    ∀ {cs : List QmpCall} {s s' : QmpState β τ} {answers : List (QmpAnswer β)},
      s.eventCB = none → (∀ c ∈ cs, c = .receive) → qmpRun cs s = some (answers, s') →
      s'.events = s.events ∧
        answers.filterMap QmpAnswer.response? ++ s'.responses = s.responses
  | [], _, _, _, _, _, h => by
      simp only [qmpRun, Option.some.injEq, Prod.mk.injEq] at h
      obtain ⟨rfl, rfl⟩ := h
      exact ⟨rfl, rfl⟩
  | c :: cs, s, _, _, hcb, hcs, h => by
      obtain ⟨a, rest, s₁, hstep, hrun, rfl⟩ := qmpRun_cons h
      rw [hcs c List.mem_cons_self] at hstep
      obtain ⟨hcb₁, hevents, hresponses⟩ := QmpCall.step_receive hcb hstep
      obtain ⟨ihevents, ihresponses⟩ :=
        qmpRun_receive hcb₁ (fun c hc => hcs c (List.mem_cons_of_mem _ hc)) hrun
      rw [filterMap_cons_toList, List.append_assoc, ihresponses]
      exact ⟨ihevents.trans hevents, hresponses⟩

private theorem step_receive_cases (s : QmpState β τ) :
    (s.responses = [] ∧ QmpCall.receive.step s = none) ∨
    ∃ body s', s.responses = body :: s'.responses ∧
      QmpCall.receive.step s = some (.response body, s') := by
  change _ ∧ (qmpReceive s).map _ = none ∨ ∃ body s', _ ∧ (qmpReceive s).map _ = _
  unfold qmpReceive QmpState.responses
  rcases hfrom : receiveFrom s.eventCB s.incoming s.pendingEvents s.eventData with
    _ | ⟨body, incoming, pendingEvents, eventData⟩
  · refine .inl ⟨?_, rfl⟩
    by_contra hne
    have hsome := @receiveFrom_isSome _ _ s.eventCB s.incoming s.pendingEvents s.eventData hne
    rw [hfrom] at hsome
    cases hsome
  · exact .inr ⟨body, { s with incoming, pendingEvents, eventData },
      receiveFrom_responses hfrom, rfl⟩

private theorem qmpRun_replicate_receive (k : Nat) (s : QmpState β τ) :
    (qmpRun (List.replicate k .receive) s).map (fun r => (r.1, r.2.responses)) =
      if k ≤ s.responses.length then
        some ((s.responses.take k).map .response, s.responses.drop k)
      else none := by
  induction k generalizing s with
  | zero => rfl
  | succ k ih =>
      rw [List.replicate_succ, qmpRun]
      rcases step_receive_cases s with ⟨hnone, hstep⟩ | ⟨body, s', hs, hstep⟩
      · rw [hstep, hnone]
        rfl
      · have hrest := ih s'
        rw [hstep, hs]
        change ((qmpRun (List.replicate k .receive) s').bind _).map _ = _
        simp only [List.length_cons, Nat.add_le_add_iff_right, List.take_succ_cons, List.map_cons,
          List.drop_succ_cons]
        split at hrest
        · rename_i hle
          obtain ⟨⟨answers, s''⟩, hrun, heq⟩ := Option.map_eq_some_iff.mp hrest
          obtain ⟨hanswers, hleft⟩ := Prod.mk.inj heq
          rw [if_pos hle, hrun, ← hanswers, ← hleft]
          rfl
        · rename_i hle
          rw [if_neg hle, Option.map_eq_none_iff.mp hrest]
          rfl

private theorem step_eventRef (event : List Char) (s : QmpState β τ) :
    ∃ a s', (QmpCall.eventRef event).step s = some (a, s') ∧
      (a.event? = none ↔ event ∉ s.pendingEvents.map (·.name)) ∧
      ∀ e, a.event? = some e → e.name = event := by
  change ∃ a s', (match qmpEventRef event s with
    | (some e, s) => some (QmpAnswer.event e, s)
    | (none, s) => some (QmpAnswer.noEvent, s)) = some (a, s') ∧ _
  unfold qmpEventRef
  rcases eventRefFrom_cases event s.pendingEvents with
    ⟨href, hmem⟩ | ⟨passed, e, rest, heq, hname, -, href⟩
  · rw [href]
    exact ⟨_, _, rfl, ⟨fun _ => hmem, fun _ => rfl⟩, nofun⟩
  · rw [href, heq]
    refine ⟨_, _, rfl, ⟨nofun, fun h => ?_⟩, ?_⟩
    · exact absurd (by simp [hname]) h
    · rintro e' ⟨⟩
      exact hname

/-- The first match may be taken greedily. -/
private theorem cons_sublist_append_cons {α : Type} {a : α} {l₁ l₂ passed : List α}
    (h : a ∉ passed) : (a :: l₁).Sublist (passed ++ a :: l₂) ↔ l₁.Sublist l₂ := by
  induction passed with
  | nil => exact List.cons_sublist_cons
  | cons b passed ih =>
      have hb : a ≠ b := List.ne_of_not_mem_cons h
      have hpassed : a ∉ passed := List.not_mem_of_not_mem_cons h
      rw [List.cons_append, ← ih hpassed]
      constructor
      · intro hsub
        cases hsub with
        | cons _ h => exact h
        | cons_cons _ h => exact absurd rfl hb
      · exact fun hsub => hsub.cons b

private theorem qmpRun_eventwait_cons (event : List Char) (cs : List QmpCall) (s : QmpState β τ) :
    (qmpRun (.eventwait event :: cs) s).isSome =
      (qmpEventwaitRef event s).any fun (_, s') => (qmpRun cs s').isSome := by
  change (((qmpEventwaitRef event s).map fun (e, s) => (QmpAnswer.event e, s)).bind _).isSome = _
  cases qmpEventwaitRef event s with
  | none => rfl
  | some found =>
      change ((qmpRun cs found.2).bind _).isSome = (qmpRun cs found.2).isSome
      cases qmpRun cs found.2 with
      | none => rfl
      | some _ => rfl

private theorem qmpRun_eventwait (names : List (List Char)) (s : QmpState β τ) :
    (qmpRun (names.map .eventwait) s).isSome ↔ names.Sublist (s.events.map (·.name)) := by
  induction names generalizing s with
  | nil => exact ⟨fun _ => List.nil_sublist _, fun _ => rfl⟩
  | cons event names ih =>
      rw [List.map_cons, qmpRun_eventwait_cons]
      rcases qmpEventwaitRef_cases event s with
        ⟨hnone, hmem⟩ | ⟨passed, e, s', hs, rfl, hpassed, -, hsome⟩
      · rw [hnone]
        refine ⟨(nomatch ·), fun h => ?_⟩
        exact absurd (h.subset List.mem_cons_self) hmem
      · rw [hsome, hs, List.map_append, List.map_cons, cons_sublist_append_cons hpassed, ← ih s']
        exact Iff.rfl

private theorem qmpRun_eventwait_names :
    ∀ {names : List (List Char)} {s s' : QmpState β τ} {answers : List (QmpAnswer β)},
      qmpRun (names.map .eventwait) s = some (answers, s') →
      (answers.filterMap QmpAnswer.event?).map (·.name) = names
  | [], _, _, _, h => by
      simp only [List.map_nil, qmpRun, Option.some.injEq, Prod.mk.injEq] at h
      obtain ⟨rfl, rfl⟩ := h
      rfl
  | event :: names, s, _, _, h => by
      obtain ⟨a, rest, s₁, hstep, hrun, rfl⟩ := qmpRun_cons h
      obtain ⟨⟨e, s₂⟩, hwait, heq⟩ := Option.map_eq_some_iff.1 hstep
      obtain ⟨rfl, rfl⟩ := Prod.mk.inj heq
      rcases qmpEventwaitRef_cases event s with
        ⟨hnone, -⟩ | ⟨passed, e', s₃, -, hname, -, -, hsome⟩
      · rw [hnone] at hwait
        exact nomatch hwait
      · rw [hsome] at hwait
        cases hwait
        change e.name :: (rest.filterMap QmpAnswer.event?).map (·.name) = event :: names
        rw [hname, qmpRun_eventwait_names hrun]

/-- Any run answers events and responses in the order of the socket, each at most once; without a
callback, receiving alone loses no event. Receives return as long as there are responses, and return
these in order; a look into the stash finds an event exactly when there is one of the name; and
waits for a list of names all return just when the list is a subsequence of the events that are
left, with events of these names. -/
theorem events_in_order (s : QmpState β τ) :
    (∀ cs answers s', qmpRun cs s = some (answers, s') →
      (answers.filterMap QmpAnswer.event? ++ s'.events).Sublist s.events ∧
      (answers.filterMap QmpAnswer.response? ++ s'.responses).Sublist s.responses ∧
      (s.eventCB = none → (∀ c ∈ cs, c = .receive) →
        s'.events = s.events ∧
          answers.filterMap QmpAnswer.response? ++ s'.responses = s.responses)) ∧
    (∀ k : Nat,
      (qmpRun (List.replicate k .receive) s).map (fun r => (r.1, r.2.responses)) =
        if k ≤ s.responses.length then
          some ((s.responses.take k).map .response, s.responses.drop k)
        else none) ∧
    (∀ event : List Char, ∃ a s', (QmpCall.eventRef event).step s = some (a, s') ∧
      (a.event? = none ↔ event ∉ s.pendingEvents.map (·.name)) ∧
      ∀ e, a.event? = some e → e.name = event) ∧
    (∀ names : List (List Char), (qmpRun (names.map .eventwait) s).isSome ↔
      names.Sublist (s.events.map (·.name))) ∧
    ∀ (names : List (List Char)) answers s', qmpRun (names.map .eventwait) s = some (answers, s') →
      (answers.filterMap QmpAnswer.event?).map (·.name) = names := by
  refine ⟨?_, ?_, ?_, ?_, ?_⟩
  · intro cs answers s' h
    obtain ⟨hevents, hresponses⟩ := qmpRun_sublist h
    exact ⟨hevents, hresponses, fun hcb hcs => qmpRun_receive hcb hcs h⟩
  · exact fun k => qmpRun_replicate_receive k s
  · exact fun event => step_eventRef event s
  · exact fun names => qmpRun_eventwait names s
  · exact fun _ _ _ h => qmpRun_eventwait_names h

/-- Two responses among three events, one of which is stashed from before. -/
def twoResponses : QmpState Nat Unit where
  incoming := [.event ⟨"RESUME".toList, 0⟩, .response 1, .event ⟨"STOP".toList, 2⟩, .response 3]
  pendingEvents := [⟨"RESET".toList, 4⟩]
  eventCB := none
  eventData := ()

/-- Two receives return, a third one would not; then the events of the names are still there. -/
theorem events_in_order_twoResponses :
    (qmpRun [.receive, .receive] twoResponses).map (fun r => (r.1, r.2.responses)) =
        some ([.response 1, .response 3], []) ∧
      qmpRun [.receive, .receive, .receive] twoResponses = none ∧
      (qmpRun [.eventwait "RESET".toList, .eventwait "STOP".toList] twoResponses).isSome ∧
      ¬(qmpRun [.eventwait "STOP".toList, .eventwait "RESET".toList] twoResponses).isSome := by
  obtain ⟨-, hreceives, -, hwaits, -⟩ := events_in_order twoResponses
  refine ⟨hreceives 2, Option.map_eq_none_iff.mp (hreceives 3), ?_, ?_⟩
  · exact (hwaits ["RESET".toList, "STOP".toList]).mpr (by decide +kernel)
  · exact mt (hwaits ["STOP".toList, "RESET".toList]).mp (by decide +kernel)

end VirtioCrash.Qtest
