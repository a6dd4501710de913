import StoryDirector.Cascade
/-!
# StoryDirector.Proofs.Cascade.Trace

The calls of the processor in a cascade. The loop that drains a queue keeps a report and none of its
calls; a `Trace` is all of them, round by round, each with the session before and after it. **The
loop leaves the session that the last call leaves, and its report is what can be read off the
calls** (`Cascade.drain_eq`), so whatever is to be said of a report can be said of calls.

A round begins with a report and a queue that may hold something already; the lemmas say what it
adds to them, whatever they are.
-/

namespace StoryDirector

/-- One call of the processor. -/
structure Handling where
  /-- The event. -/
  event : Event
  /-- The session before the call. -/
  before : Session
  /-- What the processor returned. -/
  outcome : Except CascadeError (List Event)
  /-- The session after the call, the follow-ups remembered. -/
  after : Session

namespace Handling

/-- The follow-ups of the event; a failed event has none. -/
def followups (handling : Handling) : List Event :=
  match handling.outcome with
  | .ok events => events
  | .error _ => []

/-- Whether the event failed. -/
def failed (handling : Handling) : Bool :=
  match handling.outcome with
  | .ok _ => false
  | .error _ => true

end Handling

/-- How a queue was drained. -/
structure Trace where
  /-- The calls of the processor, round by round. -/
  rounds : List (List Handling)
  /-- What was still in the queue at the end. -/
  left : List Event
  /-- The session at the end. -/
  session : Session

namespace Trace

/-- All calls of the processor in order. -/
def handlings (trace : Trace) : List Handling :=
  trace.rounds.flatten

/-- What can be read off the calls. -/
def report (trace : Trace) : CascadeReport where
  events := trace.handlings.flatMap (·.followups)
  processed := trace.handlings.length
  rounds := trace.rounds.length
  dropped := trace.left.length
  failures := trace.handlings.countP (·.failed)

end Trace

namespace Cascade

/-- Processes one event and remembers its follow-ups. -/
def handle (process : Processor) (event : Event) (session : Session) : Handling :=
  let (changed, outcome) := process event session
  let after := match outcome with
    | .ok followups => changed.recordEvents followups
    | .error _ => changed
  ⟨event, session, outcome, after⟩

/-- The calls of one round, and the session after it. -/
def round (process : Processor) : List Event → Session → List Handling × Session
  | [], session => ([], session)
  | event :: rest, session =>
    let handling := handle process event session
    let (others, last) := round process rest handling.after
    (handling :: others, last)

/-- The calls of at most `depth` rounds. -/
def trace (process : Processor) : (depth : Nat) → List Event → Session → Trace
  | _, [], session => ⟨[], [], session⟩
  | 0, queue, session => ⟨[], queue, session⟩
  | depth + 1, queue, session =>
    let (handlings, changed) := round process queue session
    let rest := trace process depth (handlings.flatMap (·.followups)) changed
    { rest with rounds := handlings :: rest.rounds }

variable {process : Processor}

@[simp] theorem round_nil (process : Processor) (session : Session) :
    round process [] session = ([], session) := rfl

theorem round_cons (process : Processor) (event : Event) (rest : List Event) (session : Session) :
    round process (event :: rest) session =
      (handle process event session :: (round process rest (handle process event session).after).1,
       (round process rest (handle process event session).after).2) := rfl

@[simp] theorem trace_nil (process : Processor) (depth : Nat) (session : Session) :
    trace process depth [] session = ⟨[], [], session⟩ := by
  cases depth <;> rfl

theorem trace_zero (process : Processor) (queue : List Event) (session : Session) :
    trace process 0 queue session = ⟨[], queue, session⟩ := by
  cases queue <;> rfl

theorem trace_succ (process : Processor) (depth : Nat) (event : Event) (rest : List Event)
    (session : Session) :
    trace process (depth + 1) (event :: rest) session =
      let (handlings, changed) := round process (event :: rest) session
      let after := trace process depth (handlings.flatMap (·.followups)) changed
      { after with rounds := handlings :: after.rounds } := rfl

/-- A round calls the processor once for each event, in order. -/
theorem events_round (process : Processor) (queue : List Event) (session : Session) :
    (round process queue session).1.map (·.event) = queue := by
  induction queue generalizing session with
  | nil => rfl
  | cons event rest ih =>
    rw [round_cons]
    simp only [List.map_cons, ih]
    rfl

/-! ### The loop and its calls -/

/-- The report with some calls counted in. -/
def counting (report : CascadeReport) (handlings : List Handling) : CascadeReport :=
  { report with
    events := report.events ++ handlings.flatMap (·.followups)
    processed := report.processed + handlings.length
    failures := report.failures + handlings.countP (·.failed) }

theorem counting_append (report : CascadeReport) (first second : List Handling) :
    counting report (first ++ second) = counting (counting report first) second := by
  simp only [counting, List.flatMap_append, List.length_append, List.countP_append,
    List.append_assoc, Nat.add_assoc]

theorem pass_cons (event : Event) (rest : List Event) (session : Session)
    (report : CascadeReport) (next : List Event) :
    pass process (event :: rest) session report next =
      pass process rest (handle process event session).after
        (counting report [handle process event session])
        (next ++ (handle process event session).followups) := by
  cases hcall : process event session with
  | mk changed outcome =>
      cases outcome with
      | ok followups =>
          simp [pass, hcall, handle, counting, Handling.followups, Handling.failed]
      | error error => simp [pass, hcall, handle, counting, Handling.followups, Handling.failed]

/-- One round of the loop counts its calls and queues up what follows from them. -/
theorem pass_eq (queue : List Event) (session : Session) (report : CascadeReport)
    (next : List Event) :
    pass process queue session report next =
      ((round process queue session).2, counting report (round process queue session).1,
        next ++ (round process queue session).1.flatMap (·.followups)) := by
  induction queue generalizing session report next with
  | nil => simp [pass, counting]
  | cons event rest ih =>
      have hcounted := counting_append report [handle process event session]
        (round process rest (handle process event session).after).1
      rw [pass_cons, ih, round_cons, ← hcounted, List.flatMap_cons, List.append_assoc]
      rfl

@[simp] theorem passes_nil (process : Processor) (left : Nat) (session : Session)
    (report : CascadeReport) : passes process left [] session report = (session, report) := by
  cases left <;> rfl

/-- The rounds that are left add their calls to what was counted before. -/
theorem passes_eq (left : Nat) (queue : List Event) (session : Session) {report : CascadeReport}
    (hnone : report.dropped = 0) :
    passes process left queue session report =
      ((trace process left queue session).session,
        { counting report (trace process left queue session).handlings with
          rounds := report.rounds + (trace process left queue session).rounds.length
          dropped := (trace process left queue session).left.length }) := by
  have hnil (report : CascadeReport) (hnone : report.dropped = 0) :
      report = { counting report [] with rounds := report.rounds, dropped := 0 } := by
    cases report
    cases hnone
    simp [counting]
  induction left generalizing queue session report with
  | zero =>
      cases queue with
      | nil => simpa [Trace.handlings] using hnil report hnone
      | cons event rest => simp [passes, trace_zero, counting, Trace.handlings]
  | succ left ih =>
      cases queue with
      | nil => simpa [Trace.handlings] using hnil report hnone
      | cons event rest =>
          -- What is counted in the first round leaves the number of dropped events alone.
          have hcounted (handlings : List Handling) :
              (counting { report with rounds := report.rounds + 1 } handlings).dropped = 0 := hnone
          rw [passes, pass_eq, trace_succ, List.nil_append]
          · dsimp only
            rw [ih _ _ (hcounted _)]
            simp only [Trace.handlings, List.flatten_cons, counting_append, List.length_cons,
              ← Nat.add_assoc]
            simp only [counting, Nat.add_right_comm _ 1]
          · simp

/-- **The loop leaves what its calls leave, and reports what can be read off them.** -/
theorem drain_eq (process : Processor) (depth : Nat) (queue : List Event) (session : Session) :
    drain process depth queue session =
      ((trace process depth queue session).session,
        (trace process depth queue session).report) := by
  rw [drain, passes_eq _ _ _ rfl]
  simp [counting, Trace.report]

/-- The calls that are made as some responses are fed back. -/
def integration (process : Processor) (depth : Nat) (responses : List Response)
    (session : Session) : Trace :=
  let queue := derived responses session.turn session.recorded ++ reported responses session.turn
  trace process depth queue (session.recordEvents queue)

theorem integrate_eq (process : Processor) (depth : Nat) (responses : List Response)
    (session : Session) :
    integrate process depth responses session =
      ((integration process depth responses session).session,
        { (integration process depth responses session).report with
          events := derived responses session.turn session.recorded ++
            (integration process depth responses session).report.events }) := by
  rw [integrate, drain_eq]
  rfl

end Cascade

end StoryDirector
