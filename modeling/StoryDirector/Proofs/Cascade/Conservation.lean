import StoryDirector.Proofs.Cascade.Trace
/-!
# StoryDirector.Proofs.Cascade.Conservation

**A cascade ends, and its report accounts for every event.** Whatever the processor does, there are
no more rounds than allowed; each event that is in the queue at the start or comes up later is
processed once, in the order of coming, or is left at the end; and events are left only if the
rounds were used up (`CascadeReport.Accounts`, `Cascade.drain_accounted`).

Two facts tie the calls of a trace to what really happens:

* each call is given the session as the one before left it (`Cascade.Calls`), so the calls together
  are what turns the session at the start into the one at the end;
* each round takes up what the one before brought up, and nothing else (`Cascade.Batches`).

The order of processing and all counts follow from these two, and the report that the loop keeps
agrees with them (`Cascade.drain_eq`).
-/

namespace StoryDirector

theorem Handling.exists_of_mem_followups {handling : Handling} {event : Event}
    (h : event ∈ handling.followups) :
    ∃ followups, handling.outcome = .ok followups ∧ event ∈ followups := by
  rw [followups] at h
  split at h
  · next followups houtcome => exact ⟨followups, houtcome, h⟩
  · cases h

namespace Cascade

/-! ### What is called -/

/-- Some handlings are calls of the processor one after another, from one session to another: each
call is given the session as the one before left it, with the follow-ups remembered. -/
def Calls (process : Processor) : Session → List Handling → Session → Prop
  | first, [], last => last = first
  | first, handling :: rest, last =>
    handling.before = first ∧
      (∃ changed, process handling.event first = (changed, handling.outcome) ∧
        handling.after = changed.recordEvents handling.followups) ∧
      Calls process handling.after rest last

/-- Some rounds start with a queue: each processes what the one before brought up, event by event,
no round is empty, and what the last one brought up is left. -/
def Batches : List Event → List (List Handling) → List Event → Prop
  | queue, [], left => left = queue
  | queue, round :: rest, left =>
    queue ≠ [] ∧ round.map (·.event) = queue ∧ Batches (round.flatMap (·.followups)) rest left

variable {process : Processor}

theorem Calls.append {first between last : Session} {calls others : List Handling}
    (h : Calls process first calls between) (hothers : Calls process between others last) :
    Calls process first (calls ++ others) last := by
  induction calls generalizing first with
  | nil =>
      obtain rfl := h
      exact hothers
  | cons handling rest ih =>
      obtain ⟨hbefore, hcall, hrest⟩ := h
      exact ⟨hbefore, hcall, ih hrest⟩

/-- The first of some calls handles its event on the first session, and the others go on from
there. -/
theorem Calls.eq_handle {first last : Session} {handling : Handling} {rest : List Handling}
    (h : Calls process first (handling :: rest) last) :
    handling = handle process handling.event first ∧ Calls process handling.after rest last := by
  obtain ⟨event, before, outcome, after⟩ := handling
  obtain ⟨hbefore, ⟨changed, hprocess, hafter⟩, hrest⟩ := h
  dsimp only at hbefore hprocess hafter
  refine ⟨?_, hrest⟩
  simp only [handle, hprocess, hafter, hbefore, Handling.followups]
  cases outcome <;> rfl

/-- What is noted of a call is how its event was handled. -/
theorem Calls.eq_handle_of_mem {first last : Session} {handlings : List Handling}
    (h : Calls process first handlings last) {handling : Handling} (hmem : handling ∈ handlings) :
    handling = handle process handling.event handling.before := by
  induction handlings generalizing first with
  | nil => cases hmem
  | cons call rest ih =>
      obtain ⟨hcall, hrest⟩ := h.eq_handle
      rcases List.mem_cons.mp hmem with rfl | hmem
      · have hbefore : handling.before = first := congrArg Handling.before hcall
        rw [hbefore]
        exact hcall
      · exact ih hrest hmem

/-- What is noted of a call is what the processor returned. -/
theorem Calls.outcome {first last : Session} {handlings : List Handling}
    (h : Calls process first handlings last) {handling : Handling} (hmem : handling ∈ handlings) :
    (process handling.event handling.before).2 = handling.outcome :=
  (congrArg Handling.outcome (h.eq_handle_of_mem hmem)).symm

/-- Handling an event is one call of the processor. -/
theorem exists_call (process : Processor) (event : Event) (session : Session) :
    ∃ changed, process event session = (changed, (handle process event session).outcome) ∧
      (handle process event session).after =
        changed.recordEvents (handle process event session).followups := by
  refine ⟨(process event session).1, rfl, ?_⟩
  simp only [handle, Handling.followups]
  cases (process event session).2 <;> rfl

theorem calls_round (process : Processor) (queue : List Event) (session : Session) :
    Calls process session (round process queue session).1 (round process queue session).2 := by
  induction queue generalizing session with
  | nil => rfl
  | cons event rest ih =>
      rw [round_cons]
      exact ⟨rfl, exists_call process event session, ih _⟩

theorem calls_trace (process : Processor) (depth : Nat) (queue : List Event) (session : Session) :
    Calls process session (trace process depth queue session).handlings
      (trace process depth queue session).session := by
  induction depth generalizing queue session with
  | zero =>
      rw [trace_zero]
      rfl
  | succ depth ih =>
      cases queue with
      | nil =>
          rw [trace_nil]
          rfl
      | cons event rest => exact (calls_round process (event :: rest) session).append (ih _ _)

theorem batches_trace (process : Processor) (depth : Nat) (queue : List Event) (session : Session) :
    Batches queue (trace process depth queue session).rounds
      (trace process depth queue session).left := by
  induction depth generalizing queue session with
  | zero =>
      rw [trace_zero]
      rfl
  | succ depth ih =>
      cases queue with
      | nil =>
          rw [trace_nil]
          rfl
      | cons event rest =>
          exact ⟨List.cons_ne_nil _ _, events_round process (event :: rest) session, ih _ _⟩

/-! ### How many rounds -/

theorem length_rounds_le (process : Processor) (depth : Nat) (queue : List Event)
    (session : Session) : (trace process depth queue session).rounds.length ≤ depth := by
  induction depth generalizing queue session with
  | zero =>
      rw [trace_zero]
      exact Nat.le_refl _
  | succ depth ih =>
      cases queue with
      | nil =>
          rw [trace_nil]
          exact Nat.zero_le _
      | cons event rest => exact Nat.succ_le_succ (ih _ _)

/-- Events are left only when all rounds were used. -/
theorem length_rounds_of_left (process : Processor) (depth : Nat) (queue : List Event)
    (session : Session) (h : (trace process depth queue session).left ≠ []) :
    (trace process depth queue session).rounds.length = depth := by
  induction depth generalizing queue session with
  | zero =>
      rw [trace_zero]
      rfl
  | succ depth ih =>
      cases queue with
      | nil =>
          rw [trace_nil] at h
          exact absurd rfl h
      | cons event rest => exact congrArg (· + 1) (ih _ _ h)

/-! ### What becomes of the events -/

/-- What was in the queue and what came up behind it is, in this order, what was processed and what
is left. -/
theorem Batches.queue_append {queue left : List Event} {rounds : List (List Handling)}
    (h : Batches queue rounds left) :
    queue ++ rounds.flatten.flatMap (·.followups) = rounds.flatten.map (·.event) ++ left := by
  induction rounds generalizing queue with
  | nil =>
      obtain rfl := h
      exact List.append_nil _
  | cons round rest ih =>
      obtain ⟨-, hqueue, hrest⟩ := h
      rw [List.flatten_cons, List.flatMap_append, List.map_append, hqueue, List.append_assoc,
        ih hrest]

end Cascade

/-- A report accounts for every event and for every call of the processor. -/
structure CascadeReport.Accounts (process : Processor) (depth : Nat) (queue : List Event)
    (session : Session) (trace : Trace) (after : Session) (report : CascadeReport) : Prop where
  /-- There are no more rounds than allowed, -/
  bounded : report.rounds ≤ depth
  /-- as many as the report says, -/
  rounds : trace.rounds.length = report.rounds
  /-- each takes up what the one before brought up, and the first takes up the queue. -/
  batches : Cascade.Batches queue trace.rounds trace.left
  /-- The processor is called with one session after another, and the last one is left, -/
  calls : Cascade.Calls process session trace.handlings after
  /-- as often as the report says that events were processed, -/
  processed : trace.handlings.length = report.processed
  /-- once for each event, in the order in which the events came; -/
  events : trace.handlings.map (·.event) = (queue ++ report.events).take report.processed
  /-- and the other events are those that the report counts as dropped. -/
  left : trace.left = (queue ++ report.events).drop report.processed
  /-- What comes in and comes up is what is processed and dropped. -/
  balance : queue.length + report.events.length = report.processed + report.dropped
  /-- Nothing is dropped before all rounds are used. -/
  dropped : report.dropped ≠ 0 → report.rounds = depth
  /-- The report counts the calls that failed, -/
  failures : report.failures = trace.handlings.countP fun handling =>
    !(process handling.event handling.before).2.isOk
  /-- and names what the others returned, and nothing else. -/
  followups : report.events = trace.handlings.flatMap fun handling =>
    (process handling.event handling.before).2.toOption.getD []

namespace Cascade

/-- **Every queue is drained, and the report accounts for all of it**, whatever the processor makes
of events and sessions, and however often it fails or returns more events. -/
theorem drain_accounted (process : Processor) (depth : Nat) (queue : List Event)
    (session : Session) :
    let drained := drain process depth queue session
    drained.2.Accounts process depth queue session (trace process depth queue session)
      drained.1 := by
  intro drained
  let calls := trace process depth queue session
  have hcalls : Calls process session calls.handlings calls.session :=
    calls_trace process depth queue session
  have hbatches : Batches queue calls.rounds calls.left :=
    batches_trace process depth queue session
  have hevents : queue ++ calls.report.events = calls.handlings.map (·.event) ++ calls.left :=
    hbatches.queue_append
  have hlength : (calls.handlings.map (·.event)).length = calls.report.processed :=
    List.length_map _
  have hdrained : drained = (calls.session, calls.report) := drain_eq process depth queue session
  rw [hdrained]
  exact {
    bounded := length_rounds_le process depth queue session
    rounds := rfl
    batches := hbatches
    calls := hcalls
    processed := rfl
    events := by rw [hevents, ← hlength, List.take_left]
    left := by rw [hevents, ← hlength, List.drop_left]
    balance := by
      rw [← hlength, ← List.length_append, hevents, List.length_append]
      rfl
    dropped := fun h => length_rounds_of_left process depth queue session fun hnone =>
      h (List.length_eq_zero_iff.mpr hnone)
    failures := by
      refine List.countP_congr fun handling hmem => ?_
      rw [hcalls.outcome hmem, Handling.failed]
      cases handling.outcome <;> rfl
    followups := by
      refine congrArg List.flatten (List.map_congr_left fun handling hmem => ?_)
      rw [hcalls.outcome hmem, Handling.followups]
      cases handling.outcome <;> rfl }

end Cascade

end StoryDirector
