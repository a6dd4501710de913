import StoryDirector.Clockwork
import StoryDirector.Run.Call
/-!
# StoryDirector.Run.Execution

One task at work. **All workers are called at once or one after another, as the mode of the task
says; there is one response for each call, in the order in which the task names the workers**,
whatever the order in which they answer. A task that is not done by its deadline fails and its calls
are given up; one that is done at that very instant is done.
-/

namespace StoryDirector

/-- A task whose workers are being called. -/
structure Execution where
  /-- The task. -/
  task : Task
  /-- What its workers are told, with the responses of earlier tasks. -/
  briefing : Briefing
  /-- When the work began. -/
  began : Instant
  /-- The calls that were made, in order. -/
  calls : List Call
  /-- The workers that are yet to be called. -/
  waiting : List WorkerKind

/-- Where an attempt stands after a look. -/
inductive Standing (α : Type) where
  /-- It goes on. -/
  | going (attempt : α)
  /-- It is over. -/
  | over (result : TaskResult)

namespace Execution

/-- The start of a task's work. -/
def begin (task : Task) (briefing : Briefing) (now : Instant) : Execution :=
  if task.mode.isConcurrent then
    ⟨task, briefing, now, task.workers.map fun worker => { worker, briefing }, []⟩
  else ⟨task, briefing, now, [], task.workers⟩

/-- Calls the workers that are yet to be called, each as soon as all before it have answered; each
is told what they said. -/
def callNext (setup : RunSetup) (briefing : Briefing) :
    (calls : List Call) → (waiting : List WorkerKind) → Engine →
      Engine × List Call × List WorkerKind
  | calls, [], engine => (engine, calls, [])
  | calls, worker :: rest, engine =>
    match Call.responses? calls with
    | none => (engine, calls, worker :: rest)
    | some responses =>
      let call : Call :=
        { worker, briefing := { briefing with prior := briefing.prior ++ responses } }
      let (engine, call) := call.look setup engine
      callNext setup briefing (calls ++ [call]) rest engine

/-- Why a task with some responses failed, if it did. Of those in consensus a strict majority has to
succeed, of all others one. -/
def verdict (mode : Mode) (responses : List Response) : Option TaskError :=
  let succeeded := (successful responses).length
  match mode with
  | .consensus =>
    if succeeded * 2 ≤ responses.length then some (.noConsensus succeeded responses.length)
    else none
  | .parallel | .sequential | .reactive => if succeeded = 0 then some .allWorkersFailed else none

/-- The responses of the task, once no worker is yet to be called and all have answered. -/
def responses? (execution : Execution) : Option (List Response) :=
  if execution.waiting.isEmpty then Call.responses? execution.calls else none

/-- The instant by which the task has to be done. -/
def deadline (execution : Execution) (setup : RunSetup) : Instant :=
  execution.began + setup.limits.taskDeadline

/-- The task does what it can at the present instant. -/
def look (execution : Execution) (setup : RunSetup) (engine : Engine) :
    Engine × Standing Execution :=
  let (engine, calls) := Call.lookAll setup execution.calls engine
  let (engine, calls, waiting) := callNext setup execution.briefing calls execution.waiting engine
  let execution := { execution with calls, waiting }
  let took : Duration := engine.now - execution.began
  match execution.responses? with
  | some responses =>
    (engine, .over
      { task := execution.task
        responses
        seconds := took.seconds
        error := verdict execution.task.mode responses })
  | none =>
    if execution.deadline setup ≤ engine.now then
      (Call.abandonAll calls engine, .over
        { task := execution.task
          seconds := took.seconds
          error := some (.deadlineExceeded setup.limits.taskDeadline) })
    else (engine, .going execution)

/-- The task is given up. -/
def abandon (execution : Execution) (engine : Engine) : Engine :=
  Call.abandonAll execution.calls engine

/-- How many steps are left at most. -/
def left (execution : Execution) : Nat :=
  Clockwork.total (execution.calls.map Call.left) + 4 * execution.waiting.length + 1

/-- The next instant at which the task can go on. -/
def alarm (execution : Execution) (setup : RunSetup) : Option Instant :=
  Clockwork.earliest (some (execution.deadline setup) :: execution.calls.map Call.alarm)

end Execution

end StoryDirector
